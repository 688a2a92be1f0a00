import CodeWorkspace.PendingSet
import CodeWorkspace.Property
import CodeWorkspace.Reference

/-!
# Change sets

What a batch puts off besides documents: references to be added and removed, and properties to be
set, in the order in which they were set.
-/

namespace CodeWorkspace

/-- References and properties that wait for a commit. -/
structure ChangeSet where
  metadataReferences : PendingSet MetadataReference := .empty
  projectReferences : PendingSet ProjectReference := .empty
  analyzerReferences : PendingSet AnalyzerReference := .empty
  properties : List Property := []
  deriving Inhabited

namespace ChangeSet

/-- No changes. -/
def empty : ChangeSet := {}

/-- Whether there are no changes. -/
def isEmpty (changes : ChangeSet) : Bool :=
  changes.metadataReferences.isEmpty && changes.projectReferences.isEmpty &&
    changes.analyzerReferences.isEmpty && changes.properties.isEmpty

/-- Puts off the setting of a property. -/
def pushProperty (changes : ChangeSet) (property : Property) : ChangeSet :=
  { changes with properties := changes.properties ++ [property] }

/-- Forgets the changes to references to a project. -/
def withoutTarget (changes : ChangeSet) (target : ProjectId) : ChangeSet :=
  { changes with
    projectReferences := changes.projectReferences.filter fun reference =>
      reference.target ≠ target }

end ChangeSet

/-- How many changes of each kind wait for a commit. -/
structure PendingCounts where
  documentsAdded : Nat
  documentsRemoved : Nat
  metadataReferencesAdded : Nat
  metadataReferencesRemoved : Nat
  projectReferencesAdded : Nat
  projectReferencesRemoved : Nat
  analyzerReferencesAdded : Nat
  analyzerReferencesRemoved : Nat
  propertiesSet : Nat
  deriving DecidableEq

namespace PendingCounts

/-- The counts for a change set and given numbers of documents. -/
def ofChanges (changes : ChangeSet) (documentsAdded documentsRemoved : Nat) : PendingCounts where
  documentsAdded := documentsAdded
  documentsRemoved := documentsRemoved
  metadataReferencesAdded := changes.metadataReferences.added.size
  metadataReferencesRemoved := changes.metadataReferences.removed.size
  projectReferencesAdded := changes.projectReferences.added.size
  projectReferencesRemoved := changes.projectReferences.removed.size
  analyzerReferencesAdded := changes.analyzerReferences.added.size
  analyzerReferencesRemoved := changes.analyzerReferences.removed.size
  propertiesSet := changes.properties.length

/-- Whether nothing waits. -/
def isEmpty (counts : PendingCounts) : Bool :=
  counts.documentsAdded == 0 && counts.documentsRemoved == 0 &&
    counts.metadataReferencesAdded == 0 && counts.metadataReferencesRemoved == 0 &&
    counts.projectReferencesAdded == 0 && counts.projectReferencesRemoved == 0 &&
    counts.analyzerReferencesAdded == 0 && counts.analyzerReferencesRemoved == 0 &&
    counts.propertiesSet == 0

end PendingCounts

end CodeWorkspace
