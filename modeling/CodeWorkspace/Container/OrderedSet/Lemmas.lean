import CodeWorkspace.Container.OrderedSet

/-!
# Elements of ordered sets

What each operation on an ordered set does to its elements and to their order.
-/

namespace CodeWorkspace

namespace OrderedSet

universe u

variable {α : Type u}

@[simp]
theorem not_mem_empty (element : α) : element ∉ (empty : OrderedSet α) := by
  simp [mem_def, empty]

theorem isEmpty_iff {set : OrderedSet α} : set.isEmpty = true ↔ set.elements = [] := by
  simp [isEmpty]

theorem isEmpty_iff_forall_not_mem {set : OrderedSet α} :
    set.isEmpty = true ↔ ∀ element, element ∉ set := by
  rw [isEmpty_iff, List.eq_nil_iff_forall_not_mem]
  rfl

@[simp]
theorem mem_filter {keep : α → Bool} {set : OrderedSet α} {element : α} :
    element ∈ set.filter keep ↔ element ∈ set ∧ keep element = true := by
  simp [mem_def, filter]

/-- Two sets with the same elements in the same order are equal. -/
theorem ext_elements {first second : OrderedSet α} (same : first.elements = second.elements) :
    first = second := by
  obtain ⟨elements, distinct⟩ := first
  cases same
  rfl

variable [DecidableEq α]

/-- Adding an element that is there changes nothing. -/
theorem insert_of_mem {set : OrderedSet α} {element : α} (present : element ∈ set) :
    set.insert element = set := by
  rw [insert, dif_pos (mem_def.mp present)]

/-- A new element stands behind all others. -/
theorem elements_insert_of_not_mem {set : OrderedSet α} {element : α}
    (absent : element ∉ set) : (set.insert element).elements = set.elements ++ [element] := by
  rw [insert, dif_neg fun found => absent (mem_def.mpr found)]

@[simp]
theorem mem_insert {set : OrderedSet α} {element other : α} :
    other ∈ set.insert element ↔ other ∈ set ∨ other = element := by
  by_cases present : element ∈ set
  · rw [insert_of_mem present]
    constructor
    · exact Or.inl
    · rintro (found | rfl)
      · exact found
      · exact present
  · rw [mem_def, elements_insert_of_not_mem present, List.mem_append, List.mem_singleton, mem_def]

@[simp]
theorem mem_erase {set : OrderedSet α} {element other : α} :
    other ∈ set.erase element ↔ other ∈ set ∧ other ≠ element := by
  simp [erase]

/-- Removing an element that is not there changes nothing. -/
theorem erase_of_not_mem {set : OrderedSet α} {element : α} (absent : element ∉ set) :
    set.erase element = set := by
  apply ext_elements
  apply List.filter_eq_self.mpr
  intro other other_mem
  have differs : other ≠ element := by
    rintro rfl
    exact absent (mem_def.mpr other_mem)
  simpa using differs

private theorem mem_foldl_insert {elements : List α} {set : OrderedSet α} {element : α} :
    element ∈ elements.foldl insert set ↔ element ∈ set ∨ element ∈ elements := by
  induction elements generalizing set with
  | nil => simp
  | cons head rest ih => rw [List.foldl_cons, ih, mem_insert, List.mem_cons, or_assoc]

@[simp]
theorem mem_ofList {elements : List α} {element : α} :
    element ∈ ofList elements ↔ element ∈ elements := by
  simp [ofList, mem_foldl_insert]

end OrderedSet

end CodeWorkspace
