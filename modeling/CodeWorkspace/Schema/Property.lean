import CodeWorkspace.Property
import CodeWorkspace.Schema.Identity

/-!
# Properties in JSON

A property is an object with its name and its value, or an array of the two.  In an array the name
has to be a plain word.
-/

namespace CodeWorkspace

open Json (Tree Decoder Record)

namespace Property

/-- The word for a property. -/
def word : Property → String
  | .assemblyName _ => "AssemblyName"
  | .filePath _ => "FilePath"
  | .displayName _ => "DisplayName"
  | .compilationOptions _ => "CompilationOptions"
  | .parseOptions _ => "ParseOptions"
  | .outputPath _ => "OutputFilePath"
  | .outputReferencePath _ => "OutputRefFilePath"

/-- The JSON form of the value. -/
def valueTree : Property → Tree
  | .assemblyName name | .displayName name => .text name
  | .filePath path? | .outputPath path? | .outputReferencePath path? => pathTree path?
  | .compilationOptions options | .parseOptions options => options.tree

/-- The names of the members. -/
def fieldNames : List String := ["property", "value"]

/-- The JSON form. -/
def tree (property : Property) : Tree :=
  .record [("property", .text property.word), ("value", property.valueTree)]

/-- How the value of each property is read. -/
def readers : List (String × (Record → Option Property)) :=
  [("AssemblyName", fun record => (record.required "value" Decoder.text).map .assemblyName),
    ("FilePath", fun record => (record.optional "value" Decoder.text).map .filePath),
    ("DisplayName", fun record => (record.required "value" Decoder.text).map .displayName),
    ("CompilationOptions", fun record =>
      (record.required "value" Options.decoder).map .compilationOptions),
    ("ParseOptions", fun record => (record.required "value" Options.decoder).map .parseOptions),
    ("OutputFilePath", fun record => (record.optional "value" Decoder.text).map .outputPath),
    ("OutputRefFilePath", fun record =>
      (record.optional "value" Decoder.text).map .outputReferencePath)]

/-- Reads the members of a property. -/
def ofRecord (record : Record) : Option Property := do
  let name := if record.named then Decoder.oneOf readers else Decoder.word readers
  let read ← record.required "property" name
  read record

/-- Reads a property from JSON. -/
def decoder : Decoder Property := Decoder.record .ignored fieldNames ofRecord

end Property

namespace ProjectInfo

/-- The names of the members. -/
def fieldNames : List String :=
  ["id", "language", "name", "assembly_name", "file_path", "output_file_path",
    "output_ref_file_path", "compilation_options", "parse_options"]

/-- The members of the JSON form. -/
def members (info : ProjectInfo) : List (String × Tree) :=
  [("id", info.id.tree), ("language", .text info.language),
    ("name", .text info.properties.name), ("assembly_name", .text info.properties.assemblyName),
    ("file_path", pathTree info.properties.filePath?),
    ("output_file_path", pathTree info.properties.outputPath?),
    ("output_ref_file_path", pathTree info.properties.outputReferencePath?),
    ("compilation_options", info.properties.compilationOptions.tree),
    ("parse_options", info.properties.parseOptions.tree)]

/-- The JSON form. -/
def tree (info : ProjectInfo) : Tree := .record info.members

/-- Reads the members that describe a project. -/
def ofRecord (record : Record) : Option ProjectInfo := do
  let id ← record.required "id" ProjectId.decoder
  let language ← record.required "language" Decoder.text
  let name ← record.required "name" Decoder.text
  let assemblyName ← record.required "assembly_name" Decoder.text
  let filePath? ← record.optional "file_path" Decoder.text
  let outputPath? ← record.optional "output_file_path" Decoder.text
  let outputReferencePath? ← record.optional "output_ref_file_path" Decoder.text
  let compilationOptions ← record.required "compilation_options" Options.decoder
  let parseOptions ← record.required "parse_options" Options.decoder
  return {
    id, language
    properties := {
      name, assemblyName, filePath?, outputPath?, outputReferencePath?, compilationOptions,
      parseOptions } }

/-- Reads the description of a project from JSON. -/
def decoder : Decoder ProjectInfo := Decoder.record .ignored fieldNames ofRecord

end ProjectInfo

end CodeWorkspace
