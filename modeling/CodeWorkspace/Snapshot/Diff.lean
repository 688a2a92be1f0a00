import CodeWorkspace.Container.OrderedSet
import CodeWorkspace.Digest.Content

/-!
# Differences between snapshots

Which projects came, went and changed between an older and a newer snapshot.  A project that both
share is not looked at, and one whose digest is the same has not changed.  What changed inside a
project is listed by documents and references.
-/

namespace CodeWorkspace

/-- What changed inside a project. -/
structure ProjectDiff where
  addedDocuments : OrderedSet DocumentId
  removedDocuments : OrderedSet DocumentId
  /-- Documents that are the same with other contents. -/
  changedDocuments : OrderedSet DocumentId
  addedMetadataReferences : List MetadataReference
  removedMetadataReferences : List MetadataReference
  addedProjectReferences : List ProjectReference
  removedProjectReferences : List ProjectReference
  analyzersChanged : Bool
  propertiesChanged : Bool

namespace ProjectDiff

/-- The documents of a collection that an older collection lacks. -/
def newDocuments (old new : Documents) : List DocumentId :=
  new.keys.filter fun id => !old.contains id

/-- The documents that two collections hold with different contents. -/
def alteredDocuments (old new : Documents) : List DocumentId :=
  new.entries.filterMap fun (id, document) =>
    match old.get? id with
    | some previous =>
      if previous ≠ document ∧ previous.digest ≠ document.digest then some id else none
    | none => none

/-- The items of a list that another list lacks. -/
def missingFrom {α : Type} [DecidableEq α] (items others : List α) : List α :=
  items.filter fun item => item ∉ others

/-- The documents that a choice picks out of both collections. -/
def inCollections (choose : Documents → Documents → List DocumentId) (old new : Project) :
    OrderedSet DocumentId :=
  .ofList (DocumentCollection.all.flatMap fun collection =>
    choose (old.documents collection) (new.documents collection))

/-- What changed from one version of a project to another. -/
def between (old new : Project) : ProjectDiff where
  addedDocuments := inCollections newDocuments old new
  removedDocuments := inCollections newDocuments new old
  changedDocuments := inCollections alteredDocuments old new
  addedMetadataReferences := missingFrom new.metadataReferences old.metadataReferences
  removedMetadataReferences := missingFrom old.metadataReferences new.metadataReferences
  addedProjectReferences := missingFrom new.projectReferences old.projectReferences
  removedProjectReferences := missingFrom old.projectReferences new.projectReferences
  analyzersChanged := old.analyzerReferences ≠ new.analyzerReferences
  propertiesChanged := !old.properties.same new.properties

/-- Whether nothing is listed as changed. -/
def isClean (diff : ProjectDiff) : Bool :=
  diff.addedDocuments.isEmpty && diff.removedDocuments.isEmpty &&
    diff.changedDocuments.isEmpty && diff.addedMetadataReferences.isEmpty &&
    diff.removedMetadataReferences.isEmpty && diff.addedProjectReferences.isEmpty &&
    diff.removedProjectReferences.isEmpty && !diff.analyzersChanged && !diff.propertiesChanged

end ProjectDiff

/-- Which projects differ between two snapshots. -/
structure SnapshotDiff where
  added : OrderedSet ProjectId
  removed : OrderedSet ProjectId
  changed : OrderedMap ProjectId ProjectDiff

namespace SnapshotDiff

/-- What changed in a project, if both snapshots have it and its contents differ. -/
def change? (old new : Snapshot) (project : Project) : Option ProjectDiff :=
  match old.project? project.id with
  | none => none
  | some previous =>
    if new.sharesProject old project.id then none
    else if previous.digest = project.digest then none
    else some (ProjectDiff.between previous project)

/-- The difference from an older to a newer snapshot. -/
def between (old new : Snapshot) : SnapshotDiff where
  added := .ofList ((new.projects.map Project.id).filter fun id => !old.contains id)
  removed := .ofList (old.ids.filter fun id => !new.contains id)
  changed := .ofList (new.projects.filterMap fun project =>
    (change? old new project).map fun diff => (project.id, diff))

/-- Whether no project differs. -/
def isClean (diff : SnapshotDiff) : Bool :=
  diff.added.isEmpty && diff.removed.isEmpty && diff.changed.isEmpty

/-- The number of projects that differ. -/
def total (diff : SnapshotDiff) : Nat :=
  diff.added.size + diff.removed.size + diff.changed.size

end SnapshotDiff

end CodeWorkspace
