import CodeWorkspace.Json.Tree

/-!
# Decoding JSON

A decoder turns a syntax tree into a value of another type, or refuses it.  It is told how many
containers it may still open; a text decoded from the outside may open `depthLimit` of them one
within another.  What a decoder passes over is not looked at, however deep it is.

A record is written as an object or, without its field names, as an array of its fields in order.
-/

namespace CodeWorkspace

namespace Json

/-- Reads a value out of a tree, opening no more containers than allowed. -/
abbrev Decoder (α : Type) := (depth : Nat) → Tree → Option α

/-- How many containers may be open at once. -/
def depthLimit : Nat := 127

namespace Decoder

variable {α β : Type}

/-- Decodes a whole tree. -/
def decode? (decoder : Decoder α) (tree : Tree) : Option α := decoder depthLimit tree

/-- Transforms what a decoder yields. -/
def map (change : α → β) (decoder : Decoder α) : Decoder β :=
  fun depth tree => (decoder depth tree).map change

/-- Transforms what a decoder yields, or refuses it. -/
def andThen (change : α → Option β) (decoder : Decoder α) : Decoder β :=
  fun depth tree => (decoder depth tree).bind change

/-- A string that is a text. -/
def text : Decoder String
  | _, .string content? => content?
  | _, _ => none

/-- A truth value. -/
def bool : Decoder Bool
  | _, .bool value => some value
  | _, _ => none

/-- An integer literal for a natural number below a bound. -/
def natural (bound : Nat) : Decoder Nat
  | _, .number numeral =>
    match numeral.toInt? with
    | some (.ofNat value) => if value < bound then some value else none
    | _ => none
  | _, _ => none

/-- A value or null. -/
def nullable (decoder : Decoder α) : Decoder (Option α)
  | _, .null => some none
  | depth, tree => (decoder depth tree).map some

/-- An array with the same decoder for each item. -/
def list (decoder : Decoder α) : Decoder (List α)
  | depth + 1, .array items => items.mapM (decoder depth)
  | _, _ => none

/-- An object with the same decoders for each key and each value. -/
def pairs (key : String → Option α) (value : Decoder β) : Decoder (List (α × β))
  | depth + 1, .object members =>
    members.mapM fun (label?, tree) => do
      let label ← label?
      return (← key label, ← value depth tree)
  | _, _ => none

/-- One of several words. -/
def word (cases : List (String × α)) : Decoder α
  | _, .string (some word) => (cases.find? fun entry => entry.1 = word).map Prod.snd
  | _, _ => none

/-- One of several words, alone or as the only key of an object with the value null. -/
def oneOf (cases : List (String × α)) : Decoder α
  | depth + 1, .object [(key?, .null)] => word cases depth (.string key?)
  | depth, tree => word cases depth tree

end Decoder

/-! ## Records -/

/-- The fields found for a record. -/
structure Record where
  /-- How many containers a field may open. -/
  depth : Nat
  /-- Whether the fields were given by name. -/
  named : Bool
  /-- The fields that are there. -/
  fields : List (String × Tree)

namespace Record

variable {α : Type}

/-- The tree of a field, if the field is there. -/
def find? (record : Record) (name : String) : Option Tree :=
  (record.fields.find? fun field => field.1 = name).map Prod.snd

/-- A field that has to be there. -/
def required (record : Record) (name : String) (decoder : Decoder α) : Option α :=
  (record.find? name).bind (decoder record.depth)

/-- A field that may be null, and may be left out where fields have names. -/
def optional (record : Record) (name : String) (decoder : Decoder α) : Option (Option α) :=
  match record.find? name with
  | some tree => decoder.nullable record.depth tree
  | none => if record.named then some none else none

/-- A field that stands for a default if it is left out. -/
def defaulted (record : Record) (name : String) (decoder : Decoder α) (default : α) : Option α :=
  match record.find? name with
  | some tree => decoder record.depth tree
  | none => some default

end Record

/-- What becomes of the members of an object that no field is named after. -/
inductive Extras where
  | ignored
  | refused
  deriving DecidableEq

/-- The members of an object as fields of a record: every key is a text, no field is named twice,
and no other key occurs if others are refused. -/
def namedFields? (extras : Extras) (names : List String) (members : List (Option String × Tree)) :
    Option (List (String × Tree)) := do
  let fields ← members.mapM fun (key?, tree) => key?.map fun key => (key, tree)
  let known := fields.filter fun field => field.1 ∈ names
  if (known.map Prod.fst).Nodup ∧ (extras = .ignored ∨ fields.all fun field => field.1 ∈ names)
  then some known
  else none

/-- The items of an array as the first fields of a record. -/
def orderedFields? (names : List String) (items : List Tree) : Option (List (String × Tree)) :=
  if items.length ≤ names.length then some (names.zip items) else none

/-- Decodes a record with the given field names. -/
def Decoder.record {α : Type} (extras : Extras) (names : List String)
    (body : Record → Option α) : Decoder α
  | depth + 1, .object members => do
    body { depth, named := true, fields := ← namedFields? extras names members }
  | depth + 1, .array items => do
    body { depth, named := false, fields := ← orderedFields? names items }
  | _, _ => none

end Json

end CodeWorkspace
