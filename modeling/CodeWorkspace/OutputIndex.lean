import CodeWorkspace.Container.OrderedMap
import CodeWorkspace.Container.OrderedSet
import CodeWorkspace.Identity
import CodeWorkspace.PathComparison

/-!
# The index of outputs

Which projects publish their output at which path.  The index is kept outside of the snapshots and
changes as soon as a project changes its mind.  A path that several projects publish at belongs to
none of them.
-/

namespace CodeWorkspace

/-- The projects that publish at each path. -/
structure OutputIndex where
  comparison : PathComparison
  /-- The publishing projects by the key of the path; a path that nobody publishes at is left
  out. -/
  owners : OrderedMap String (OrderedSet ProjectId)

namespace OutputIndex

/-- The index without paths. -/
def empty (comparison : PathComparison) : OutputIndex := { comparison, owners := .empty }

/-- The projects that publish at a path. -/
def ownersOf (index : OutputIndex) (path : String) : OrderedSet ProjectId :=
  (index.owners.get? (index.comparison.key path)).getD .empty

/-- Records that a project publishes at a path. -/
def register (index : OutputIndex) (project : ProjectId) (path : String) : OutputIndex :=
  { index with
    owners := index.owners.insert (index.comparison.key path)
      ((index.ownersOf path).insert project) }

/-- Whether a project publishes at a path. -/
def isRegistered (index : OutputIndex) (project : ProjectId) (path : String) : Bool :=
  project ∈ index.ownersOf path

/-- Takes a project out of the owners that a choice of paths has. -/
def withdraw (index : OutputIndex) (project : ProjectId) (chosen : String → Bool) : OutputIndex :=
  let changed := index.owners.mapValues fun key owners =>
    if chosen key then owners.erase project else owners
  { index with owners := changed.filter fun _ owners => !owners.isEmpty }

/-- Forgets that a project publishes at a path. -/
def unregister (index : OutputIndex) (project : ProjectId) (path : String) : OutputIndex :=
  index.withdraw project fun key => key = index.comparison.key path

/-- Forgets all that a project publishes. -/
def unregisterProject (index : OutputIndex) (project : ProjectId) : OutputIndex :=
  index.withdraw project fun _ => true

/-- The number of paths that a project publishes at. -/
def countOf (index : OutputIndex) (project : ProjectId) : Nat :=
  (index.owners.values.filter fun owners => project ∈ owners).length

/-- The project that alone publishes at a path. -/
def owner? (index : OutputIndex) (path : String) : Option ProjectId :=
  match (index.ownersOf path).elements with
  | [project] => some project
  | _ => none

/-- The number of paths. -/
def size (index : OutputIndex) : Nat := index.owners.size

/-- Whether there are no paths. -/
def isEmpty (index : OutputIndex) : Bool := index.owners.isEmpty

end OutputIndex

end CodeWorkspace
