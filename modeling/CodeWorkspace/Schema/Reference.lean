import CodeWorkspace.Schema.Identity

/-!
# References in JSON
-/

namespace CodeWorkspace

open Json (Tree Decoder Record)

namespace ReferenceProperties

/-- The names of the members. -/
def fieldNames : List String := ["kind", "aliases", "embed_interop_types"]

/-- The JSON form. -/
def tree (properties : ReferenceProperties) : Tree :=
  .record [("kind", properties.kind.tree), ("aliases", textsTree properties.aliases),
    ("embed_interop_types", .bool properties.embedInteropTypes)]

/-- Reads the members of the properties of a reference. -/
def ofRecord (record : Record) : Option ReferenceProperties := do
  let kind ← record.required "kind" ReferenceKind.decoder
  let aliases ← record.required "aliases" (Decoder.list Decoder.text)
  let embedInteropTypes ← record.required "embed_interop_types" Decoder.bool
  return { kind, aliases, embedInteropTypes }

/-- Reads the properties of a reference from JSON. -/
def decoder : Decoder ReferenceProperties := Decoder.record .ignored fieldNames ofRecord

end ReferenceProperties

namespace MetadataReference

/-- The names of the members. -/
def fieldNames : List String := ["path", "properties"]

/-- The JSON form. -/
def tree (reference : MetadataReference) : Tree :=
  .record [("path", .text reference.path), ("properties", reference.properties.tree)]

/-- Reads the members of a metadata reference. -/
def ofRecord (record : Record) : Option MetadataReference := do
  let path ← record.required "path" Decoder.text
  let properties ← record.required "properties" ReferenceProperties.decoder
  return { path, properties }

/-- Reads a metadata reference from JSON. -/
def decoder : Decoder MetadataReference := Decoder.record .ignored fieldNames ofRecord

end MetadataReference

namespace ProjectReference

/-- The names of the members. -/
def fieldNames : List String := ["project_id", "aliases", "embed_interop_types"]

/-- The JSON form. -/
def tree (reference : ProjectReference) : Tree :=
  .record [("project_id", reference.target.tree), ("aliases", textsTree reference.aliases),
    ("embed_interop_types", .bool reference.embedInteropTypes)]

/-- Reads the members of a reference to a project. -/
def ofRecord (record : Record) : Option ProjectReference := do
  let target ← record.required "project_id" ProjectId.decoder
  let aliases ← record.required "aliases" (Decoder.list Decoder.text)
  let embedInteropTypes ← record.required "embed_interop_types" Decoder.bool
  return { target, aliases, embedInteropTypes }

/-- Reads a reference to a project from JSON. -/
def decoder : Decoder ProjectReference := Decoder.record .ignored fieldNames ofRecord

end ProjectReference

namespace AnalyzerReference

/-- The names of the members. -/
def fieldNames : List String := ["path"]

/-- The JSON form. -/
def tree (reference : AnalyzerReference) : Tree := .record [("path", .text reference.path)]

/-- Reads the members of an analyzer. -/
def ofRecord (record : Record) : Option AnalyzerReference := do
  return { path := ← record.required "path" Decoder.text }

/-- Reads an analyzer from JSON. -/
def decoder : Decoder AnalyzerReference := Decoder.record .ignored fieldNames ofRecord

end AnalyzerReference

end CodeWorkspace
