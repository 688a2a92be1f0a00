/-!
# Sets in insertion order

A finite set that lists its elements in the order in which they were added.  Adding an element
that is already there changes nothing; removing one leaves the order of the others alone.
-/

namespace CodeWorkspace

universe u

/-- A finite set whose elements stand in the order in which they were added. -/
structure OrderedSet (α : Type u) where
  /-- The elements, oldest first. -/
  elements : List α
  /-- No element occurs twice. -/
  nodup : elements.Nodup

namespace OrderedSet

variable {α : Type u}

/-- The set without elements. -/
def empty : OrderedSet α where
  elements := []
  nodup := List.nodup_nil

instance : Inhabited (OrderedSet α) := ⟨empty⟩

instance : Membership α (OrderedSet α) := ⟨fun set element => element ∈ set.elements⟩

theorem mem_def {element : α} {set : OrderedSet α} :
    element ∈ set ↔ element ∈ set.elements := Iff.rfl

/-- The number of elements. -/
def size (set : OrderedSet α) : Nat := set.elements.length

/-- Whether there are no elements. -/
def isEmpty (set : OrderedSet α) : Bool := set.elements.isEmpty

/-- The elements that pass a test, in the same order. -/
def filter (keep : α → Bool) (set : OrderedSet α) : OrderedSet α where
  elements := set.elements.filter keep
  nodup := set.nodup.sublist List.filter_sublist

variable [DecidableEq α]

instance (element : α) (set : OrderedSet α) : Decidable (element ∈ set) :=
  inferInstanceAs (Decidable (element ∈ set.elements))

/-- Removes an element; the others keep their order. -/
def erase (set : OrderedSet α) (element : α) : OrderedSet α :=
  set.filter fun other => other ≠ element

/-- Adds an element behind the others, unless it is there already. -/
def insert (set : OrderedSet α) (element : α) : OrderedSet α :=
  if present : element ∈ set.elements then set
  else
    { elements := set.elements ++ [element]
      nodup := by
        rw [List.nodup_append]
        refine ⟨set.nodup, by simp, ?_⟩
        intro old old_mem added added_mem same
        rw [List.mem_singleton] at added_mem
        exact present (added_mem ▸ same ▸ old_mem) }

/-- The set of the elements of a list, in the order of their first occurrence. -/
def ofList (elements : List α) : OrderedSet α :=
  elements.foldl insert empty

end OrderedSet

end CodeWorkspace
