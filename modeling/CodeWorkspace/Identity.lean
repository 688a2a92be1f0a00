import CodeWorkspace.Text.Hex

/-!
# Identities

Projects and documents are named by identifiers of 128 bits, unique across all workspaces, and
text buffers by a number that the editor gives them.  An identifier is written as 32 hexadecimal
digits in lower case, with hyphens after the 8th, 12th, 16th and 20th; `Uuid.parse?_text` says that
what is written reads back.  It is read with or without the hyphens and in either case; the form
with hyphens may also stand in braces or behind `urn:uuid:`.
-/

namespace CodeWorkspace

/-- An identifier of 128 bits. -/
structure Uuid where
  /-- The bits as a number. -/
  value : BitVec 128
  deriving DecidableEq, Inhabited

namespace Uuid

/-- The identifier with a given number, modulo the number of identifiers. -/
def ofNat (number : Nat) : Uuid := ⟨BitVec.ofNat 128 number⟩

/-- The number that the bits stand for. -/
def toNat (id : Uuid) : Nat := id.value.toNat

/-- Whether one identifier precedes or equals another. -/
def precedes (first second : Uuid) : Bool := first.toNat ≤ second.toNat

/-- The sixteen bytes of an identifier, the most significant first. -/
def bytes (id : Uuid) : List UInt8 :=
  (List.range 16).map fun place => UInt8.ofNat (id.toNat >>> (8 * (15 - place)))

/-- Where the hyphens stand among the characters. -/
def hyphenPlaces : List Nat := [8, 13, 18, 23]

/-- Puts a hyphen between groups of 8, 4, 4, 4 and 12 digits. -/
def hyphenated (digits : List Char) : List Char :=
  digits.take 8 ++ '-' :: (digits.drop 8).take 4 ++ '-' :: (digits.drop 12).take 4 ++
    '-' :: (digits.drop 16).take 4 ++ '-' :: digits.drop 20

/-- The characters of the written form. -/
def chars (id : Uuid) : List Char := hyphenated (Hex.digits 32 id.toNat)

/-- The written form. -/
def text (id : Uuid) : String := String.ofList id.chars

/-- The digits of a text of 36 characters with hyphens in their places. -/
def withoutHyphens? (text : List Char) : Option (List Char) :=
  if text.length = 36 ∧ hyphenPlaces.all fun place => text[place]? = some '-' then
    some (text.take 8 ++ (text.drop 9).take 4 ++ (text.drop 14).take 4 ++
      (text.drop 19).take 4 ++ text.drop 24)
  else none

/-- What a text may start with before the form with hyphens, in either case. -/
def resourceName : List Char := ['u', 'r', 'n', ':', 'u', 'u', 'i', 'd', ':']

/-- The 32 digits that a text spells an identifier with. -/
def digits? (text : List Char) : Option (List Char) :=
  if text.length = 32 then some text
  else if text.length = 38 ∧ text.head? = some '{' ∧ text.getLast? = some '}' then
    withoutHyphens? ((text.drop 1).take 36)
  else if text.length = 45 ∧ (text.take 9).map Char.toLower = resourceName then
    withoutHyphens? (text.drop 9)
  else withoutHyphens? text

/-- The identifier that some characters spell. -/
def parseChars? (text : List Char) : Option Uuid :=
  (digits? text).bind fun digits => (Hex.ofDigits? digits).map ofNat

/-- The identifier that a text spells. -/
def parse? (text : String) : Option Uuid := parseChars? text.toList

theorem length_hyphenated {digits : List Char} (full : digits.length = 32) :
    (hyphenated digits).length = 36 := by
  simp [hyphenated, full]

theorem withoutHyphens?_hyphenated {digits : List Char} (full : digits.length = 32) :
    withoutHyphens? (hyphenated digits) = some digits := by
  match digits, full with
  | [a, b, c, d, e, f, g, h, i, j, k, l, m, n, o, p,
      q, r, s, t, u, v, w, x, y, z, aa, bb, cc, dd, ee, ff], _ => rfl

theorem digits?_hyphenated {digits : List Char} (full : digits.length = 32) :
    digits? (hyphenated digits) = some digits := by
  have length := length_hyphenated full
  simp [digits?, length, withoutHyphens?_hyphenated full]

/-- The written form of an identifier reads back. -/
theorem parse?_text (id : Uuid) : parse? id.text = some id := by
  have fits : id.toNat < Nat.pow 16 32 := Nat.lt_of_lt_of_le id.value.isLt (by decide)
  have spelled : digits? id.chars = some (Hex.digits 32 id.toNat) :=
    digits?_hyphenated (Hex.length_digits 32 id.toNat)
  have read : parseChars? id.chars = some (ofNat id.toNat) := by
    simp [parseChars?, spelled, Hex.ofDigits?_digits fits]
  simpa [parse?, text, ofNat, toNat] using read

/-- Distinct identifiers have distinct written forms. -/
theorem text_injective {first second : Uuid} (same : first.text = second.text) :
    first = second := by
  have read := congrArg parse? same
  rw [parse?_text, parse?_text] at read
  exact Option.some.inj read

end Uuid

/-- The identity of a project. -/
structure ProjectId where
  uuid : Uuid
  deriving DecidableEq, Inhabited

namespace ProjectId

/-- The written form. -/
def text (id : ProjectId) : String := id.uuid.text

/-- The project that a text names. -/
def parse? (text : String) : Option ProjectId := (Uuid.parse? text).map ProjectId.mk

/-- Projects listed by increasing identifier. -/
def sorted (ids : List ProjectId) : List ProjectId :=
  ids.mergeSort fun first second => first.uuid.precedes second.uuid

end ProjectId

/-- The identity of a document, kept through reloads. -/
structure DocumentId where
  uuid : Uuid
  deriving DecidableEq, Inhabited

namespace DocumentId

/-- The written form. -/
def text (id : DocumentId) : String := id.uuid.text

/-- The document that a text names. -/
def parse? (text : String) : Option DocumentId := (Uuid.parse? text).map DocumentId.mk

end DocumentId

/-- The identity of a text buffer of the editor. -/
structure BufferId where
  number : UInt64
  deriving DecidableEq, Inhabited

/-- How a buffer is called in names and messages. -/
def BufferId.text (buffer : BufferId) : String :=
  "buffer#" ++ toString buffer.number.toNat

end CodeWorkspace
