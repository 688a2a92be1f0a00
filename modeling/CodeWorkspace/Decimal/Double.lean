/-!
# Double-precision numbers

A double is its 64 bits.  A finite one stands for `± m · 2 ^ q` with a natural number `m` below
`2 ^ 53`.  Arithmetic is done on the exact quotient and rounded once, to the nearest double, a tie
going to the even one; a quotient beyond the largest double rounds to infinity.
-/

namespace CodeWorkspace

/-- A number in the 64-bit binary interchange format. -/
structure Double where
  /-- Sign, eleven bits of exponent and 52 bits of fraction. -/
  bits : UInt64
  deriving DecidableEq, Inhabited

namespace Double

/-- The weight of the sign bit, which is `2 ^ 63`. -/
def signWeight : Nat := 0x8000000000000000

/-- The weight of the lowest bit of exponent, which is `2 ^ 52`. -/
def exponentWeight : Nat := 0x10000000000000

/-- Whether the sign bit is set. -/
def negative (number : Double) : Bool := signWeight ≤ number.bits.toNat

/-- The bits without the sign. -/
def magnitudeBits (number : Double) : Nat := number.bits.toNat % signWeight

/-- The eleven bits of exponent. -/
def exponentField (number : Double) : Nat := number.magnitudeBits / exponentWeight

/-- The 52 bits of fraction. -/
def fractionField (number : Double) : Nat := number.magnitudeBits % exponentWeight

/-- The factor `m` in the magnitude `m · 2 ^ q` of a finite double. -/
def significand (number : Double) : Nat :=
  if number.exponentField = 0 then number.fractionField else number.fractionField + exponentWeight

/-- The exponent `q` in the magnitude `m · 2 ^ q` of a finite double. -/
def scale (number : Double) : Int :=
  if number.exponentField = 0 then -1074 else (number.exponentField : Int) - 1075

/-- Whether a double is neither infinite nor undefined. -/
def isFinite (number : Double) : Bool := number.exponentField < 2047

/-- Whether a double is one of the two zeros. -/
def isZero (number : Double) : Bool := number.magnitudeBits = 0

/-- The bits of positive infinity. -/
def infinityBits : Nat := 2047 * exponentWeight

/-- The double with the given magnitude bits and sign. -/
def ofMagnitude (negative : Bool) (magnitude : Nat) : Double :=
  ⟨UInt64.ofNat (if negative then magnitude + signWeight else magnitude)⟩

/-- The double with the same magnitude and the given sign. -/
def withSign (negative : Bool) (number : Double) : Double :=
  ofMagnitude negative number.magnitudeBits

/-- Equality of numbers: the two zeros are equal. -/
def same (first second : Double) : Bool :=
  first == second || (first.isZero && second.isZero)

/-- A quotient rounded to the nearest natural number, a tie going to the even one. -/
def roundQuotient (num den : Nat) : Nat :=
  let quotient := num / den
  let twiceRest := 2 * (num % den)
  if twiceRest < den then quotient
  else if den < twiceRest then quotient + 1
  else if quotient % 2 = 0 then quotient else quotient + 1

/-- Numerator and denominator of `num / den` divided by `2 ^ q`. -/
def scaledQuotient (num den : Nat) (q : Int) : Nat × Nat :=
  (num <<< (-q).toNat, den <<< q.toNat)

/-- The exponent `q` for which a positive quotient lies between `2 ^ 52 · 2 ^ q` and
`2 ^ 53 · 2 ^ q`, or `-1074` if it lies below. -/
def quotientScale (num den : Nat) : Int :=
  let low : Int := (Nat.log2 num : Int) - (Nat.log2 den : Int) - 53
  let (scaledNum, scaledDen) := scaledQuotient num den low
  max (-1074) (if scaledNum < scaledDen <<< 53 then low else low + 1)

/-- The double nearest to a quotient of natural numbers. -/
def ofQuotient (num den : Nat) : Double :=
  if num = 0 then ofMagnitude false 0
  else
    let q := quotientScale num den
    let (scaledNum, scaledDen) := scaledQuotient num den q
    let magnitude := (q + 1074).toNat * exponentWeight + roundQuotient scaledNum scaledDen
    ofMagnitude false (min magnitude infinityBits)

/-- The double nearest to a natural number. -/
def ofNat (number : Nat) : Double := ofQuotient number 1

/-- Numerator and denominator of the magnitude of a finite double. -/
def ratio (number : Double) : Nat × Nat :=
  (number.significand <<< number.scale.toNat, 1 <<< (-number.scale).toNat)

/-- The product of two finite doubles, sign apart. -/
def times (first second : Double) : Double :=
  ofQuotient (first.ratio.1 * second.ratio.1) (first.ratio.2 * second.ratio.2)

/-- The quotient of two finite doubles, sign apart. -/
def dividedBy (first second : Double) : Double :=
  ofQuotient (first.ratio.1 * second.ratio.2) (first.ratio.2 * second.ratio.1)

end Double

end CodeWorkspace
