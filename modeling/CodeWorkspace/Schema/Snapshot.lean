import CodeWorkspace.Schema.Document
import CodeWorkspace.Schema.Property
import CodeWorkspace.Schema.Reference
import CodeWorkspace.Snapshot.Basic

/-!
# Projects and snapshots in JSON

Documents and projects are members of objects, with their identities as keys.  Holders of
references are not written; a reference that was read is held directly.
-/

namespace CodeWorkspace

open Json (Tree Decoder Record)

namespace Documents

/-- The JSON form. -/
def tree (documents : Documents) : Tree :=
  .record (documents.entries.map fun entry => (entry.1.text, entry.2.tree))

/-- Reads documents from JSON. -/
def decoder : Decoder Documents :=
  (Decoder.pairs DocumentId.parse? Document.decoder).map OrderedMap.ofList

end Documents

namespace Project

/-- The description from which an empty project like this one is made. -/
def info (project : Project) : ProjectInfo :=
  { id := project.id, language := project.language, properties := project.properties }

/-- The names of the members. -/
def fieldNames : List String :=
  ProjectInfo.fieldNames ++ ["documents", "additional_documents", "metadata_references",
    "project_references", "analyzer_references"]

/-- The JSON form, given the form of a collection of documents. -/
def treeWith (documentsTree : Documents → Tree) (project : Project) : Tree :=
  .record (project.info.members ++
    [("documents", documentsTree project.sources),
      ("additional_documents", documentsTree project.additional),
      ("metadata_references", .array (project.metadataReferences.map MetadataReference.tree)),
      ("project_references", .array (project.projectReferences.map ProjectReference.tree)),
      ("analyzer_references", .array (project.analyzerReferences.map AnalyzerReference.tree))])

/-- The JSON form. -/
def tree (project : Project) : Tree := project.treeWith Documents.tree

/-- Reads the members of a project. -/
def ofRecord (record : Record) : Option Project := do
  let info ← ProjectInfo.ofRecord record
  let sources ← record.required "documents" Documents.decoder
  let additional ← record.required "additional_documents" Documents.decoder
  let metadataReferences ←
    record.required "metadata_references" (Decoder.list MetadataReference.decoder)
  let projectReferences ←
    record.required "project_references" (Decoder.list ProjectReference.decoder)
  let analyzerReferences ←
    record.required "analyzer_references" (Decoder.list AnalyzerReference.decoder)
  return { ofInfo info with
    sources, additional, metadataReferences, projectReferences, analyzerReferences }

/-- Reads a project from JSON. -/
def decoder : Decoder Project := Decoder.record .ignored fieldNames ofRecord

end Project

namespace Snapshot

/-- The names of the members. -/
def fieldNames : List String := ["version", "projects"]

/-- The JSON form. -/
def tree (snapshot : Snapshot) : Tree :=
  .record [("version", .natural snapshot.version.toNat),
    ("projects", .record (snapshot.contents.map fun entry => (entry.1.text, entry.2.tree)))]

/-- Reads the members of a snapshot. -/
def ofRecord (record : Record) : Option Snapshot := do
  let version ← record.required "version" (Decoder.natural UInt64.size)
  let contents ← record.required "projects" (Decoder.pairs ProjectId.parse? Project.decoder)
  return ofContents (UInt64.ofNat version) contents

/-- Reads a snapshot from JSON. -/
def decoder : Decoder Snapshot := Decoder.record .ignored fieldNames ofRecord

end Snapshot

end CodeWorkspace
