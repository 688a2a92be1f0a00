import CodeWorkspace.Identity

/-!
# References

A project refers to files that were built elsewhere, to other projects and to analyzers.  A
reference to a file and one to a project carry the names under which their contents are imported;
two references that differ in any part are different references.
-/

namespace CodeWorkspace

/-- What the file of a metadata reference holds. -/
inductive ReferenceKind where
  | assembly
  | module
  deriving DecidableEq, Inhabited

/-- How a metadata reference is imported. -/
structure ReferenceProperties where
  kind : ReferenceKind := .assembly
  /-- The names under which the contents are imported; none stands for the global one. -/
  aliases : List String := []
  /-- Whether interop types are copied into the output. -/
  embedInteropTypes : Bool := false
  deriving DecidableEq, Inhabited

/-- A reference to a file. -/
structure MetadataReference where
  path : String
  properties : ReferenceProperties := {}
  deriving DecidableEq, Inhabited

/-- A reference to a project. -/
structure ProjectReference where
  target : ProjectId
  aliases : List String := []
  embedInteropTypes : Bool := false
  deriving DecidableEq, Inhabited

/-- The reference to a project that stands for a reference to its output. -/
def ProjectReference.converted (target : ProjectId) (properties : ReferenceProperties) :
    ProjectReference :=
  { target, aliases := properties.aliases, embedInteropTypes := properties.embedInteropTypes }

/-- What keeps a reference to a project in place. -/
inductive ReferenceHolder where
  /-- It was added as such. -/
  | direct
  /-- It stands for a metadata reference. -/
  | converted
  deriving DecidableEq, Inhabited

/-- An analyzer in a file. -/
structure AnalyzerReference where
  path : String
  deriving DecidableEq, Inhabited

end CodeWorkspace
