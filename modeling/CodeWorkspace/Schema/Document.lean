import CodeWorkspace.Json.Value
import CodeWorkspace.Schema.Identity

/-!
# Documents in JSON

A loader is an object whose member `source` says what kind it is.  Since that member may stand
behind the others, all of them are read as values before any is interpreted.  A loader may also be
an array with the kind in front.
-/

namespace CodeWorkspace

open Json (Tree Decoder Record)

namespace Loader

/-- The two kinds of loaders. -/
inductive Source where
  | file
  | buffer
  deriving DecidableEq

/-- The words for the kinds of loaders. -/
def sources : List (String × Source) := [("file", .file), ("buffer", .buffer)]

/-- The names of the members behind the kind. -/
def Source.fieldNames : Source → List String
  | .file => ["path", "generation"]
  | .buffer => ["buffer"]

/-- The JSON form. -/
def tree : Loader → Tree
  | .file path generation =>
    .record [("source", .text "file"), ("path", .text path),
      ("generation", .natural generation.toNat)]
  | .buffer held => .record [("source", .text "buffer"), ("buffer", held.tree)]

/-- Reads the members behind the kind. -/
def ofRecord (source : Source) (record : Record) : Option Loader :=
  match source with
  | .file => do
    let path ← record.required "path" Decoder.text
    let generation ← record.required "generation" (Decoder.natural UInt32.size)
    return .file path (UInt32.ofNat generation)
  | .buffer => do
    return .buffer (← record.required "buffer" BufferId.decoder)

/-- Reads a loader from JSON. -/
def decoder : Decoder Loader
  | depth + 1, .object members => do
    let _ ← Json.Value.readMembers? depth members
    let (kinds, others) := members.partition fun member => member.1 = some "source"
    match kinds with
    | [(_, kind)] =>
      let source ← Decoder.word sources depth kind
      Decoder.record .ignored source.fieldNames (ofRecord source) (depth + 1) (.object others)
    | _ => none
  | depth + 1, .array (kind :: items) => do
    let _ ← Json.Value.readItems? depth items
    let source ← Decoder.word sources depth kind
    Decoder.record .ignored source.fieldNames (ofRecord source) (depth + 1) (.array items)
  | _, _ => none

end Loader

namespace Document

/-- The names of the members. -/
def fieldNames : List String := ["id", "name", "file_path", "folders", "kind", "loader"]

/-- The JSON form. -/
def tree (document : Document) : Tree :=
  .record [("id", document.id.tree), ("name", .text document.name),
    ("file_path", pathTree document.path?), ("folders", textsTree document.folders),
    ("kind", document.kind.tree), ("loader", document.loader.tree)]

/-- Reads the members of a document. -/
def ofRecord (record : Record) : Option Document := do
  let id ← record.required "id" DocumentId.decoder
  let name ← record.required "name" Decoder.text
  let path? ← record.optional "file_path" Decoder.text
  let folders ← record.required "folders" (Decoder.list Decoder.text)
  let kind ← record.required "kind" SourceKind.decoder
  let loader ← record.required "loader" Loader.decoder
  return { id, name, path?, folders, kind, loader }

/-- Reads a document from JSON. -/
def decoder : Decoder Document := Decoder.record .ignored fieldNames ofRecord

end Document

end CodeWorkspace
