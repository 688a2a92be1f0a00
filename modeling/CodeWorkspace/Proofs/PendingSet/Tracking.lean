import CodeWorkspace.Container.OrderedSet.Lemmas
import CodeWorkspace.PendingSet

/-!
# Tracked items and what waits

The items that a draft tracks, together with those that wait to be added and removed, tell which
items have been committed: the tracked ones that do not wait to be added, and those that wait to be
removed.
-/

namespace CodeWorkspace

namespace PendingSet

variable {α : Type} {pending : PendingSet α} {tracked : OrderedSet α}
  {committed after : α → Prop} {item other : α}

/-- What waits to be added is tracked, what waits to be removed is not, and the rest of what is
tracked has been committed. -/
structure Tracks (pending : PendingSet α) (tracked : OrderedSet α) (committed : α → Prop) :
    Prop where
  added_tracked : ∀ item ∈ pending.added, item ∈ tracked
  removed_untracked : ∀ item ∈ pending.removed, item ∉ tracked
  committed_iff : ∀ item, committed item ↔
    item ∈ tracked ∧ item ∉ pending.added ∨ item ∈ pending.removed

theorem eq_empty_of_isEmpty (nothing : pending.isEmpty = true) : pending = .empty := by
  obtain ⟨added, removed⟩ := pending
  simp only [isEmpty, Bool.and_eq_true, OrderedSet.isEmpty_iff] at nothing
  have added_eq : added = .empty := OrderedSet.ext_elements nothing.1
  have removed_eq : removed = .empty := OrderedSet.ext_elements nothing.2
  rw [added_eq, removed_eq]
  rfl

theorem tracks_empty (nothing : ∀ item, ¬ committed item) :
    Tracks (α := α) .empty .empty committed where
  added_tracked _ waits := absurd waits (OrderedSet.not_mem_empty _)
  removed_untracked _ waits := absurd waits (OrderedSet.not_mem_empty _)
  committed_iff item := by simp [nothing item, PendingSet.empty]

theorem Tracks.not_committed (tracks : pending.Tracks tracked committed)
    (waits : item ∈ pending.added) : ¬ committed item := by
  rw [tracks.committed_iff]
  rintro (⟨_, settled⟩ | leaves)
  · exact settled waits
  · exact tracks.removed_untracked item leaves (tracks.added_tracked item waits)

theorem Tracks.committed_of_removed (tracks : pending.Tracks tracked committed)
    (waits : item ∈ pending.removed) : committed item :=
  (tracks.committed_iff item).mpr (Or.inr waits)

theorem Tracks.congr (tracks : pending.Tracks tracked committed)
    (same : ∀ item, after item ↔ committed item) : pending.Tracks tracked after :=
  ⟨tracks.added_tracked, tracks.removed_untracked, fun item =>
    (same item).trans (tracks.committed_iff item)⟩

theorem Tracks.filter (tracks : pending.Tracks tracked committed) (keep : α → Bool) :
    (pending.filter keep).Tracks (tracked.filter keep)
      fun item => committed item ∧ keep item = true where
  added_tracked item waits := by
    simp only [PendingSet.filter, OrderedSet.mem_filter] at waits ⊢
    exact ⟨tracks.added_tracked item waits.1, waits.2⟩
  removed_untracked item waits := by
    simp only [PendingSet.filter, OrderedSet.mem_filter] at waits ⊢
    exact fun known => tracks.removed_untracked item waits.1 known.1
  committed_iff item := by
    simp only [PendingSet.filter, OrderedSet.mem_filter, tracks.committed_iff]
    by_cases kept : keep item = true <;> simp [kept]

/-- What is tracked is what is held, with what waits to be added and without what waits to be
removed; only what is not held waits to be added, and only what is held waits to be removed. -/
structure Bridges (pending : PendingSet α) (held : α → Prop) (tracked : OrderedSet α) : Prop where
  tracked_iff : ∀ item,
    item ∈ tracked ↔ (held item ∨ item ∈ pending.added) ∧ item ∉ pending.removed
  added_new : ∀ item ∈ pending.added, ¬ held item
  removed_held : ∀ item ∈ pending.removed, held item

theorem Tracks.bridges (tracks : pending.Tracks tracked committed) :
    pending.Bridges committed tracked where
  tracked_iff item := by
    constructor
    · intro known
      refine ⟨?_, fun leaves => tracks.removed_untracked item leaves known⟩
      by_cases waits : item ∈ pending.added
      · exact Or.inr waits
      · exact Or.inl ((tracks.committed_iff item).mpr (Or.inl ⟨known, waits⟩))
    · rintro ⟨held | waits, stays⟩
      · rcases (tracks.committed_iff item).mp held with ⟨known, _⟩ | leaves
        · exact known
        · exact absurd leaves stays
      · exact tracks.added_tracked item waits
  added_new _ waits := tracks.not_committed waits
  removed_held _ leaves := tracks.committed_of_removed leaves

variable [DecidableEq α]

theorem Tracks.add (tracks : pending.Tracks tracked committed) (absent : item ∉ tracked) :
    (pending.add item).Tracks (tracked.insert item) committed := by
  have not_added : item ∉ pending.added := fun waits => absent (tracks.added_tracked item waits)
  rw [PendingSet.add]
  split
  · rename_i leaves
    refine ⟨fun other waits => ?_, fun other waits => ?_, fun other => ?_⟩
    · exact OrderedSet.mem_insert.mpr (Or.inl (tracks.added_tracked other waits))
    · obtain ⟨waits, differs⟩ := OrderedSet.mem_erase.mp waits
      rw [OrderedSet.mem_insert]
      rintro (known | same)
      · exact tracks.removed_untracked other waits known
      · exact differs same
    · rw [tracks.committed_iff, OrderedSet.mem_insert, OrderedSet.mem_erase]
      by_cases same : other = item
      · subst same
        simp [leaves, not_added]
      · simp [same]
  · rename_i stays
    refine ⟨fun other waits => ?_, fun other waits => ?_, fun other => ?_⟩
    · rw [OrderedSet.mem_insert] at waits ⊢
      exact waits.imp_left (tracks.added_tracked other)
    · rw [OrderedSet.mem_insert]
      rintro (known | rfl)
      · exact tracks.removed_untracked other waits known
      · exact stays waits
    · rw [tracks.committed_iff, OrderedSet.mem_insert, OrderedSet.mem_insert]
      by_cases same : other = item
      · subst same
        simp [absent]
      · simp [same]

theorem Tracks.remove (tracks : pending.Tracks tracked committed) (present : item ∈ tracked) :
    (pending.remove item).Tracks (tracked.erase item) committed := by
  have not_removed : item ∉ pending.removed := fun waits =>
    tracks.removed_untracked item waits present
  rw [PendingSet.remove]
  split
  · rename_i waits_already
    refine ⟨fun other waits => ?_, fun other waits => ?_, fun other => ?_⟩
    · obtain ⟨waits, differs⟩ := OrderedSet.mem_erase.mp waits
      exact OrderedSet.mem_erase.mpr ⟨tracks.added_tracked other waits, differs⟩
    · rw [OrderedSet.mem_erase]
      exact fun known => tracks.removed_untracked other waits known.1
    · rw [tracks.committed_iff, OrderedSet.mem_erase, OrderedSet.mem_erase]
      by_cases same : other = item
      · subst same
        simp [waits_already]
      · simp [same]
  · rename_i settled
    refine ⟨fun other waits => ?_, fun other waits => ?_, fun other => ?_⟩
    · have differs : other ≠ item := by
        rintro rfl
        exact settled waits
      exact OrderedSet.mem_erase.mpr ⟨tracks.added_tracked other waits, differs⟩
    · rw [OrderedSet.mem_insert] at waits
      rw [OrderedSet.mem_erase]
      rintro ⟨known, differs⟩
      rcases waits with waits | same
      · exact tracks.removed_untracked other waits known
      · exact differs same
    · rw [tracks.committed_iff, OrderedSet.mem_erase, OrderedSet.mem_insert]
      by_cases same : other = item
      · subst same
        simp [present, settled]
      · simp [same]

theorem mem_added_of_add (waits : other ∈ (pending.add item).added) :
    other ∈ pending.added ∨ other = item := by
  rw [PendingSet.add] at waits
  split at waits
  · exact Or.inl waits
  · exact OrderedSet.mem_insert.mp waits

theorem mem_added_of_remove (waits : other ∈ (pending.remove item).added) :
    other ∈ pending.added := by
  rw [PendingSet.remove] at waits
  split at waits
  · exact (OrderedSet.mem_erase.mp waits).1
  · exact waits

theorem mem_removed_of_add (leaves : other ∈ (pending.add item).removed) :
    other ∈ pending.removed := by
  rw [PendingSet.add] at leaves
  split at leaves
  · exact (OrderedSet.mem_erase.mp leaves).1
  · exact leaves

theorem mem_removed_of_remove (leaves : other ∈ (pending.remove item).removed) :
    other ∈ pending.removed ∨ other = item := by
  rw [PendingSet.remove] at leaves
  split at leaves
  · exact Or.inl leaves
  · exact OrderedSet.mem_insert.mp leaves

/-- What is tracked and what leaves are together what was tracked first and what was added. -/
theorem Tracks.parted {origin : OrderedSet α}
    (tracks : pending.Tracks tracked fun item => item ∈ origin) :
    (tracked.elements ++ pending.removed.elements).Perm
      (origin.elements ++ pending.added.elements) := by
  have now_distinct : (tracked.elements ++ pending.removed.elements).Nodup := by
    refine List.nodup_append.mpr ⟨tracked.nodup, pending.removed.nodup, ?_⟩
    rintro item known other leaves rfl
    exact tracks.removed_untracked item leaves known
  have then_distinct : (origin.elements ++ pending.added.elements).Nodup := by
    refine List.nodup_append.mpr ⟨origin.nodup, pending.added.nodup, ?_⟩
    rintro item old other waits rfl
    exact tracks.not_committed waits old
  rw [List.perm_ext_iff_of_nodup now_distinct then_distinct]
  intro item
  have committed_iff := tracks.committed_iff item
  have added_tracked := tracks.added_tracked item
  simp only [OrderedSet.mem_def] at committed_iff added_tracked
  rw [List.mem_append, List.mem_append, committed_iff]
  by_cases waits : item ∈ pending.added.elements
  · simp [waits, added_tracked waits]
  · simp [waits]

/-- Nothing waits any more: what waited has been added and removed. -/
theorem Tracks.settle (tracks : pending.Tracks tracked committed)
    (after_iff : ∀ item, after item ↔
      (committed item ∨ item ∈ pending.added) ∧ item ∉ pending.removed) :
    PendingSet.empty.Tracks tracked after where
  added_tracked _ waits := absurd waits (OrderedSet.not_mem_empty _)
  removed_untracked _ waits := absurd waits (OrderedSet.not_mem_empty _)
  committed_iff item := by
    have added := tracks.added_tracked item
    have removed := tracks.removed_untracked item
    rw [after_iff, tracks.committed_iff]
    simp only [PendingSet.empty, OrderedSet.not_mem_empty, not_false_eq_true, and_true, or_false]
    by_cases known : item ∈ tracked
    · have stays : item ∉ pending.removed := fun waits => removed waits known
      by_cases waits : item ∈ pending.added <;> simp [known, stays, waits]
    · have settled : item ∉ pending.added := fun waits => known (added waits)
      by_cases leaves : item ∈ pending.removed <;> simp [known, settled, leaves]

/-- An item is added at once while nothing waits. -/
theorem Tracks.insert (tracks : PendingSet.empty.Tracks tracked committed)
    (after_iff : ∀ other, after other ↔ committed other ∨ other = item) :
    PendingSet.empty.Tracks (tracked.insert item) after where
  added_tracked _ waits := absurd waits (OrderedSet.not_mem_empty _)
  removed_untracked _ waits := absurd waits (OrderedSet.not_mem_empty _)
  committed_iff other := by
    rw [after_iff, tracks.committed_iff, OrderedSet.mem_insert]
    simp [PendingSet.empty]

/-- An item is removed at once while nothing waits. -/
theorem Tracks.erase (tracks : PendingSet.empty.Tracks tracked committed)
    (after_iff : ∀ other, after other ↔ committed other ∧ other ≠ item) :
    PendingSet.empty.Tracks (tracked.erase item) after where
  added_tracked _ waits := absurd waits (OrderedSet.not_mem_empty _)
  removed_untracked _ waits := absurd waits (OrderedSet.not_mem_empty _)
  committed_iff other := by
    rw [after_iff, tracks.committed_iff, OrderedSet.mem_erase]
    simp [PendingSet.empty]

end PendingSet

end CodeWorkspace
