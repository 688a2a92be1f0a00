import CodeWorkspace.Decimal.Digit

/-!
# JSON syntax trees

What a JSON text says, before anything is asked of it.  A tree keeps what later readers may care
about: the order and repetition of members, the written form of numbers as far as it matters, and
the string literals that denote no text because an escape names half of a surrogate pair.
-/

namespace CodeWorkspace

namespace Json

/-- A number literal. -/
structure Numeral where
  /-- Whether it starts with a minus sign. -/
  negative : Bool := false
  /-- The digits before the point. -/
  whole : Nat
  /-- The digits behind the point; none if there is no point. -/
  fraction : List Decimal.Digit := []
  /-- The exponent, if one is written. -/
  exponent? : Option Int := none
  deriving DecidableEq, Inhabited

/-- The literal of a natural number. -/
def Numeral.ofNat (number : Nat) : Numeral := { whole := number }

/-- The literal of an integer. -/
def Numeral.ofInt (number : Int) : Numeral :=
  { negative := number < 0, whole := number.natAbs }

/-- The integer that a literal without point and exponent denotes; a negated zero is none. -/
def Numeral.toInt? (numeral : Numeral) : Option Int :=
  if numeral.fraction = [] ∧ numeral.exponent? = none then
    if numeral.negative then
      if numeral.whole = 0 then none else some (-(numeral.whole : Int))
    else some numeral.whole
  else none

/-- A JSON value as written.  The content of a string is missing if it is no text. -/
inductive Tree where
  | null
  | bool (value : Bool)
  | number (numeral : Numeral)
  | string (content? : Option String)
  | array (items : List Tree)
  | object (members : List (Option String × Tree))
  deriving Inhabited

namespace Tree

/-- A string that is a text. -/
def text (content : String) : Tree := .string (some content)

/-- A natural number. -/
def natural (number : Nat) : Tree := .number (.ofNat number)

/-- A value that may be missing, written as null if it is. -/
def nullable {α : Type} (write : α → Tree) : Option α → Tree
  | none => .null
  | some value => write value

/-- An object whose keys are texts. -/
def record (members : List (String × Tree)) : Tree :=
  .object (members.map fun member => (some member.1, member.2))

end Tree

end Json

end CodeWorkspace
