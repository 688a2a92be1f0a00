import CodeWorkspace.Container.OrderedSet

/-!
# Pending sets

The items of one kind that are to be added and removed.  Adding an item that is to be removed only
takes back the removal, and the other way round, so no item is ever in both sets.
-/

namespace CodeWorkspace

/-- Items to be added and items to be removed. -/
structure PendingSet (α : Type) where
  added : OrderedSet α := .empty
  removed : OrderedSet α := .empty

namespace PendingSet

variable {α : Type}

/-- Nothing to be added or removed. -/
def empty : PendingSet α := {}

instance : Inhabited (PendingSet α) := ⟨empty⟩

/-- Whether nothing is to be added or removed. -/
def isEmpty (set : PendingSet α) : Bool := set.added.isEmpty && set.removed.isEmpty

/-- The items that pass a test, in the same order. -/
def filter (keep : α → Bool) (set : PendingSet α) : PendingSet α where
  added := set.added.filter keep
  removed := set.removed.filter keep

variable [DecidableEq α]

/-- Notes that an item is to be added, or need not be removed. -/
def add (set : PendingSet α) (item : α) : PendingSet α :=
  if item ∈ set.removed then { set with removed := set.removed.erase item }
  else { set with added := set.added.insert item }

/-- Notes that an item is to be removed, or need not be added. -/
def remove (set : PendingSet α) (item : α) : PendingSet α :=
  if item ∈ set.added then { set with added := set.added.erase item }
  else { set with removed := set.removed.insert item }

end PendingSet

end CodeWorkspace
