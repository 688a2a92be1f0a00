import CodeWorkspace.Decimal.Shortest
import CodeWorkspace.Json.Tree

/-!
# Doubles as number literals

A literal that is no integer in range is read as a double in three roundings at most: its leading
digits are taken as long as they fit into 64 bits, that integer is rounded to a double, and the
double is multiplied or divided by a power of ten.  A literal beyond the largest double is refused.
A double is written with the shortest decimal that rounds to it, with an exponent only if it is
very small or very large, and always with a point or an exponent.
-/

namespace CodeWorkspace

namespace Json

/-! ## Reading -/

/-- One more than the largest integer of 64 bits. -/
def wordBound : Nat := UInt64.size

/-- The largest power of ten used in one step. -/
def largestPower : Nat := 308

/-- Puts digits behind a number as long as it fits into a word; also counts the digits left. -/
def appendFitting (value : Nat) : List Decimal.Digit → Nat × Nat
  | [] => (value, 0)
  | digit :: rest =>
    if 10 * value + digit.val < wordBound then appendFitting (10 * value + digit.val) rest
    else (value, rest.length + 1)

/-- The double nearest to a power of ten. -/
def tenToThe (power : Nat) : Double := Double.ofNat (Decimal.powerOfTen power)

/-- A double times a power of ten, unless the product is infinite. -/
def scaleByTen? (number : Double) (power : Int) : Option Double :=
  if power.natAbs ≤ largestPower then
    if 0 ≤ power then
      let product := number.times (tenToThe power.natAbs)
      if product.isFinite then some product else none
    else some (number.dividedBy (tenToThe power.natAbs))
  else if number.isZero then some number
  else if 0 ≤ power then none
  else scaleByTen? (number.dividedBy (tenToThe largestPower)) (power + largestPower)
termination_by power.natAbs
decreasing_by
  simp only [largestPower] at *
  omega

/-- The double that a number literal denotes. -/
def Numeral.double? (numeral : Numeral) : Option Double :=
  let (leading, wholeLeft) := appendFitting 0 (Decimal.digits numeral.whole)
  let (leading, fractionLeft) := appendFitting leading numeral.fraction
  let power : Int :=
    (wholeLeft : Int) - ((numeral.fraction.length - fractionLeft : Nat) : Int) +
      numeral.exponent?.getD 0
  (scaleByTen? (Double.ofNat leading) power).map (Double.withSign numeral.negative)

/-! ## Writing -/

/-- Which numbers are written without an exponent: those whose first digit stands for a power of
ten in this range. -/
structure Layout where
  /-- The lowest power. -/
  lowest : Int
  /-- The highest power. -/
  highest : Int

/-- From a hundred thousandth up to, but not including, ten to the sixteenth. -/
def layout : Layout := ⟨-5, 15⟩

/-- The literal for a decimal point number other than zero. -/
def Layout.numeral (layout : Layout) (negative : Bool) (point : Double.Point) : Numeral :=
  let digits := Decimal.digits point.digits
  let top := point.exponent + digits.length - 1
  if layout.lowest ≤ top ∧ top ≤ layout.highest then
    if 0 ≤ point.exponent then
      { negative
        whole := point.digits * Decimal.powerOfTen point.exponent.toNat
        fraction := [0] }
    else if 0 ≤ top then
      { negative
        whole := Decimal.ofDigits (digits.take (top.toNat + 1))
        fraction := digits.drop (top.toNat + 1) }
    else
      { negative, whole := 0, fraction := List.replicate (-top - 1).toNat 0 ++ digits }
  else
    { negative
      whole := Decimal.ofDigits (digits.take 1)
      fraction := digits.drop 1
      exponent? := some top }

/-- The literal for a finite double. -/
def Numeral.ofDouble (number : Double) : Numeral :=
  if number.isZero then { negative := number.negative, whole := 0, fraction := [0] }
  else layout.numeral number.negative number.shortest

end Json

end CodeWorkspace
