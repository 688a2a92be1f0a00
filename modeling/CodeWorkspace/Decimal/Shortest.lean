import CodeWorkspace.Decimal.Digit
import CodeWorkspace.Decimal.Double

/-!
# Shortest decimals

The shortest decimal that reads back as a given double.  The reals that round to a double fill an
interval, whose ends belong to it if the significand is even.  The decimal grids, the multiples of
a power of ten, are searched from the coarsest on; the first that has a point in the interval
gives the fewest digits, and of two such points the one nearer to the double is taken.
-/

namespace CodeWorkspace

namespace Double

/-- A decimal `digits · 10 ^ exponent`. -/
structure Point where
  /-- The digits read as a natural number. -/
  digits : Nat
  /-- The power of ten that they count. -/
  exponent : Int

/-- Numerator and denominator that compare a grid of step `10 ^ exponent` with quarters of the
last binary place: `c` steps of the grid are as long as `b` quarters if and only if
`c * denominator = b * numerator`. -/
def gridRatio (number : Double) (exponent : Int) : Nat × Nat :=
  let quarter := number.scale - 2
  (Decimal.powerOfTen (-exponent).toNat <<< quarter.toNat,
    Decimal.powerOfTen exponent.toNat <<< (-quarter).toNat)

/-- The lower end of the rounding interval, in quarters of the last binary place. -/
def lowerQuarters (number : Double) : Nat :=
  if number.fractionField = 0 ∧ 1 < number.exponentField then 4 * number.significand - 1
  else 4 * number.significand - 2

/-- The upper end of the rounding interval, in quarters of the last binary place. -/
def upperQuarters (number : Double) : Nat := 4 * number.significand + 2

/-- Whether a multiple of a power of ten rounds to the magnitude of a double. -/
def roundsTo (number : Double) (exponent : Int) (count : Nat) : Bool :=
  let (num, den) := number.gridRatio exponent
  if number.significand % 2 = 0 then
    number.lowerQuarters * num ≤ count * den && count * den ≤ number.upperQuarters * num
  else
    number.lowerQuarters * num < count * den && count * den < number.upperQuarters * num

/-- The point of a grid that rounds to the magnitude of a double, the nearest if there are two. -/
def gridPoint? (number : Double) (exponent : Int) : Option Point :=
  let (num, den) := number.gridRatio exponent
  let exact := 4 * number.significand * num
  let below := exact / den
  let lowFits := 0 < below && number.roundsTo exponent below
  let highFits := number.roundsTo exponent (below + 1)
  let twiceRest := 2 * (exact % den)
  let takeLow := twiceRest < den || (twiceRest = den && below % 2 = 0)
  if lowFits && (takeLow || !highFits) then some ⟨below, exponent⟩
  else if highFits then some ⟨below + 1, exponent⟩
  else none

/-- Searches the grids from a coarse one on. -/
def searchGrids (number : Double) : Nat → Int → Point
  | 0, exponent => ⟨0, exponent⟩
  | steps + 1, exponent =>
    match number.gridPoint? exponent with
    | some point => point
    | none => searchGrids number steps (exponent - 1)

/-- The shortest decimal that rounds to the magnitude of a finite double other than zero. -/
def shortest (number : Double) : Point := number.searchGrids 634 309

end Double

end CodeWorkspace
