import CodeWorkspace.Json.Parser
import CodeWorkspace.Schema.Property

/-!
# Manifests

A manifest lists projects with their documents and references.  It is a JSON object with no members
but those named here; most of them may be left out.  References between projects go by name.
-/

namespace CodeWorkspace

open Json (Decoder Record Tree)

/-- A metadata reference in a manifest. -/
structure ReferenceManifest where
  path : String
  kind : ReferenceKind := .assembly
  aliases : List String := []
  embedInteropTypes : Bool := false
  deriving DecidableEq, Inhabited

namespace ReferenceManifest

/-- The reference that is meant. -/
def reference (entry : ReferenceManifest) : MetadataReference :=
  { path := entry.path
    properties := {
      kind := entry.kind, aliases := entry.aliases, embedInteropTypes := entry.embedInteropTypes } }

/-- The names of the members. -/
def fieldNames : List String := ["path", "kind", "aliases", "embed_interop_types"]

/-- Reads the members of a metadata reference. -/
def ofRecord (record : Record) : Option ReferenceManifest := do
  let path ← record.required "path" Decoder.text
  let kind ← record.defaulted "kind" ReferenceKind.decoder .assembly
  let aliases ← record.defaulted "aliases" (Decoder.list Decoder.text) []
  let embedInteropTypes ← record.defaulted "embed_interop_types" Decoder.bool false
  return { path, kind, aliases, embedInteropTypes }

/-- Reads a metadata reference. -/
def decoder : Decoder ReferenceManifest := Decoder.record .refused fieldNames ofRecord

end ReferenceManifest

/-- A project in a manifest. -/
structure ProjectManifest where
  name : String
  language : String := "C#"
  /-- Missing if it is the name. -/
  assemblyName? : Option String := none
  filePath? : Option String := none
  outputPath? : Option String := none
  outputReferencePath? : Option String := none
  compilationOptions : Options := .unset
  parseOptions : Options := .unset
  sources : List String := []
  scripts : List String := []
  additional : List String := []
  metadataReferences : List ReferenceManifest := []
  /-- The names of the projects that are referred to. -/
  projectReferences : List String := []
  analyzers : List String := []
  deriving Inhabited

namespace ProjectManifest

/-- The description of the project, given its identity. -/
def info (entry : ProjectManifest) (id : ProjectId) : ProjectInfo :=
  { id
    language := entry.language
    properties := {
      name := entry.name
      assemblyName := entry.assemblyName?.getD entry.name
      filePath? := entry.filePath?
      outputPath? := entry.outputPath?
      outputReferencePath? := entry.outputReferencePath?
      compilationOptions := entry.compilationOptions
      parseOptions := entry.parseOptions } }

/-- The names of the members. -/
def fieldNames : List String :=
  ["name", "language", "assembly_name", "file_path", "output_file_path", "output_ref_file_path",
    "compilation_options", "parse_options", "sources", "scripts", "additional",
    "metadata_references", "project_references", "analyzers"]

/-- Reads the members of a project. -/
def ofRecord (record : Record) : Option ProjectManifest := do
  let texts (name : String) := record.defaulted name (Decoder.list Decoder.text) []
  let path (name : String) := record.defaulted name (Decoder.nullable Decoder.text) none
  let name ← record.required "name" Decoder.text
  let language ← record.defaulted "language" Decoder.text "C#"
  let assemblyName? ← path "assembly_name"
  let filePath? ← path "file_path"
  let outputPath? ← path "output_file_path"
  let outputReferencePath? ← path "output_ref_file_path"
  let compilationOptions ← record.defaulted "compilation_options" Options.decoder .unset
  let parseOptions ← record.defaulted "parse_options" Options.decoder .unset
  let sources ← texts "sources"
  let scripts ← texts "scripts"
  let additional ← texts "additional"
  let metadataReferences ←
    record.defaulted "metadata_references" (Decoder.list ReferenceManifest.decoder) []
  let projectReferences ← texts "project_references"
  let analyzers ← texts "analyzers"
  return {
    name, language, assemblyName?, filePath?, outputPath?, outputReferencePath?,
    compilationOptions, parseOptions, sources, scripts, additional, metadataReferences,
    projectReferences, analyzers }

/-- Reads a project. -/
def decoder : Decoder ProjectManifest := Decoder.record .refused fieldNames ofRecord

end ProjectManifest

/-- The projects of a workspace. -/
structure Manifest where
  projects : List ProjectManifest
  deriving Inhabited

namespace Manifest

/-- Reads the members of a manifest. -/
def ofRecord (record : Record) : Option Manifest := do
  return { projects := ← record.required "projects" (Decoder.list ProjectManifest.decoder) }

/-- Reads a manifest. -/
def decoder : Decoder Manifest := Decoder.record .refused ["projects"] ofRecord

/-- The manifest that a text spells. -/
def parse? (text : String) : Option Manifest := (Tree.parse? text).bind decoder.decode?

end Manifest

end CodeWorkspace
