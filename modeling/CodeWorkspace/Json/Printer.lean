import CodeWorkspace.Json.Tree
import CodeWorkspace.Text.Hex

/-!
# Writing JSON

The compact form, without any blank, and the indented form, with one item or member a line and an
empty container in one piece.  In a string only the quote, the backslash and the control
characters are escaped.
-/

namespace CodeWorkspace

namespace Json

/-- A character as it stands in a string. -/
def escapedChar (c : Char) : List Char :=
  if c = '"' then ['\\', '"']
  else if c = '\\' then ['\\', '\\']
  else if c.toNat = 8 then ['\\', 'b']
  else if c.toNat = 9 then ['\\', 't']
  else if c.toNat = 10 then ['\\', 'n']
  else if c.toNat = 12 then ['\\', 'f']
  else if c.toNat = 13 then ['\\', 'r']
  else if c.toNat < 32 then '\\' :: 'u' :: Hex.digits 4 c.toNat
  else [c]

/-- A string in quotes.  One that is no text is written as a lone half of a surrogate pair. -/
def quoted (content? : Option String) : List Char :=
  let inner :=
    match content? with
    | some content => content.toList.flatMap escapedChar
    | none => ['\\', 'u', 'd', '8', '0', '0']
  '"' :: inner ++ ['"']

/-- A number literal.  An exponent always has a sign. -/
def Numeral.text (numeral : Numeral) : List Char :=
  let sign := if numeral.negative then ['-'] else []
  let fraction :=
    match numeral.fraction with
    | [] => []
    | digits => '.' :: digits.map Decimal.Digit.char
  let exponent :=
    match numeral.exponent? with
    | none => []
    | some power => 'e' :: (if power < 0 then '-' else '+') :: Decimal.text power.natAbs
  sign ++ Decimal.text numeral.whole ++ fraction ++ exponent

/-- The words for the truth values. -/
def boolText (value : Bool) : List Char :=
  if value then ['t', 'r', 'u', 'e'] else ['f', 'a', 'l', 's', 'e']

namespace Tree

mutual

/-- The characters of the compact form. -/
def compactChars : Tree → List Char
  | .null => ['n', 'u', 'l', 'l']
  | .bool value => boolText value
  | .number numeral => numeral.text
  | .string content? => quoted content?
  | .array items => '[' :: compactItems items ++ [']']
  | .object members => '{' :: compactMembers members ++ ['}']

/-- Items in the compact form, with commas between them. -/
def compactItems : List Tree → List Char
  | [] => []
  | [item] => item.compactChars
  | item :: next :: rest => item.compactChars ++ ',' :: compactItems (next :: rest)

/-- Members in the compact form, with commas between them. -/
def compactMembers : List (Option String × Tree) → List Char
  | [] => []
  | [(key, value)] => quoted key ++ ':' :: value.compactChars
  | (key, value) :: next :: rest =>
    quoted key ++ ':' :: value.compactChars ++ ',' :: compactMembers (next :: rest)

end

/-- The compact form. -/
def compact (tree : Tree) : String := String.ofList tree.compactChars

/-- A new line at an indentation, two blanks a level. -/
def newLine (level : Nat) : List Char := '\n' :: List.replicate (2 * level) ' '

mutual

/-- The characters of the indented form at a level of nesting. -/
def prettyChars (level : Nat) : Tree → List Char
  | .null => ['n', 'u', 'l', 'l']
  | .bool value => boolText value
  | .number numeral => numeral.text
  | .string content? => quoted content?
  | .array [] => ['[', ']']
  | .array (item :: rest) =>
    '[' :: newLine (level + 1) ++ item.prettyChars (level + 1) ++ prettyItems (level + 1) rest ++
      newLine level ++ [']']
  | .object [] => ['{', '}']
  | .object ((key, value) :: rest) =>
    '{' :: newLine (level + 1) ++ quoted key ++ ':' :: ' ' :: value.prettyChars (level + 1) ++
      prettyMembers (level + 1) rest ++ newLine level ++ ['}']

/-- Further items in the indented form, each behind a comma. -/
def prettyItems (level : Nat) : List Tree → List Char
  | [] => []
  | item :: rest => ',' :: newLine level ++ item.prettyChars level ++ prettyItems level rest

/-- Further members in the indented form, each behind a comma. -/
def prettyMembers (level : Nat) : List (Option String × Tree) → List Char
  | [] => []
  | (key, value) :: rest =>
    ',' :: newLine level ++ quoted key ++ ':' :: ' ' :: value.prettyChars level ++
      prettyMembers level rest

end

/-- The indented form. -/
def pretty (tree : Tree) : String := String.ofList (tree.prettyChars 0)

end Tree

end Json

end CodeWorkspace
