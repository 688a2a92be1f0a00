import CodeWorkspace.Container.OrderedSet.Lemmas
import CodeWorkspace.PendingSet
import Mathlib.Data.List.Induction

/-!
# Where an item stands in a pending set

An item waits to be added, waits to be removed, or does neither.  Adding raises it by one of these
three standings and removing lowers it by one, no further than to the last; dropping it takes it
back to the middle.  So where an item stands after any calls can be told from the calls that
concern it.  On either side the items stand in the order in which they last came there.
-/

namespace CodeWorkspace

namespace PendingSet

variable {α : Type}

/-- A call on a pending set. -/
inductive Step (α : Type) where
  | add (item : α)
  | remove (item : α)
  /-- Drops the items that fail a test. -/
  | retain (keep : α → Bool)

/-- Where an item stands. -/
inductive Standing where
  /-- It waits to be removed. -/
  | removed
  /-- It does not wait. -/
  | neither
  /-- It waits to be added. -/
  | added
  deriving DecidableEq

namespace Standing

/-- One standing up, if there is any. -/
def raise : Standing → Standing
  | .removed => .neither
  | .neither | .added => .added

/-- One standing down, if there is any. -/
def lower : Standing → Standing
  | .added => .neither
  | .neither | .removed => .removed

end Standing

section Calls

variable [DecidableEq α]

/-- The set after a call. -/
def perform (set : PendingSet α) : Step α → PendingSet α
  | .add item => set.add item
  | .remove item => set.remove item
  | .retain keep => set.filter keep

/-- The set after some calls. -/
def performAll (set : PendingSet α) (steps : List (Step α)) : PendingSet α :=
  steps.foldl perform set

/-- The standing of an item after a call. -/
def Step.move (item : α) (standing : Standing) : Step α → Standing
  | .add other => if other = item then standing.raise else standing
  | .remove other => if other = item then standing.lower else standing
  | .retain keep => if keep item then standing else .neither

/-- The standing of an item after some calls, told from the calls alone. -/
def tally (item : α) (steps : List (Step α)) : Standing :=
  steps.foldl (Step.move item) .neither

theorem performAll_snoc (set : PendingSet α) (steps : List (Step α)) (step : Step α) :
    set.performAll (steps ++ [step]) = (set.performAll steps).perform step := by
  simp [performAll]

theorem tally_snoc (item : α) (steps : List (Step α)) (step : Step α) :
    tally item (steps ++ [step]) = step.move item (tally item steps) := by
  simp [tally]

/-! ## Standings -/

/-- An item stands in a set where a standing says. -/
structure StandsAt (set : PendingSet α) (item : α) (standing : Standing) : Prop where
  added_iff : item ∈ set.added ↔ standing = .added
  removed_iff : item ∈ set.removed ↔ standing = .removed

variable {set : PendingSet α} {item : α} {standing : Standing}

theorem StandsAt.add (stands : set.StandsAt item standing) :
    (set.add item).StandsAt item standing.raise := by
  obtain ⟨added_iff, removed_iff⟩ := stands
  rw [PendingSet.add]
  split
  · rename_i leaves
    obtain rfl := removed_iff.mp leaves
    constructor <;> simp [Standing.raise, added_iff]
  · rename_i stays
    have raised : standing.raise = .added := by
      cases standing with
      | removed => exact absurd (removed_iff.mpr rfl) stays
      | neither | added => rfl
    constructor <;> simp [raised, stays]

theorem StandsAt.remove (stands : set.StandsAt item standing) :
    (set.remove item).StandsAt item standing.lower := by
  obtain ⟨added_iff, removed_iff⟩ := stands
  rw [PendingSet.remove]
  split
  · rename_i waits
    obtain rfl := added_iff.mp waits
    constructor <;> simp [Standing.lower, removed_iff]
  · rename_i settled
    have lowered : standing.lower = .removed := by
      cases standing with
      | added => exact absurd (added_iff.mpr rfl) settled
      | neither | removed => rfl
    constructor <;> simp [lowered, settled]

/-- What is done with one item leaves the others where they stand. -/
theorem StandsAt.add_other {other : α} (stands : set.StandsAt item standing)
    (differs : other ≠ item) : (set.add other).StandsAt item standing := by
  rw [PendingSet.add]
  split
  · exact ⟨stands.added_iff, by simp [Ne.symm differs, stands.removed_iff]⟩
  · exact ⟨by simp [Ne.symm differs, stands.added_iff], stands.removed_iff⟩

theorem StandsAt.remove_other {other : α} (stands : set.StandsAt item standing)
    (differs : other ≠ item) : (set.remove other).StandsAt item standing := by
  rw [PendingSet.remove]
  split
  · exact ⟨by simp [Ne.symm differs, stands.added_iff], stands.removed_iff⟩
  · exact ⟨stands.added_iff, by simp [Ne.symm differs, stands.removed_iff]⟩

theorem StandsAt.perform (stands : set.StandsAt item standing) (step : Step α) :
    (set.perform step).StandsAt item (step.move item standing) := by
  cases step with
  | add other =>
    rw [Step.move]
    split
    · rename_i same
      exact same ▸ stands.add
    · exact stands.add_other ‹_›
  | remove other =>
    rw [Step.move]
    split
    · rename_i same
      exact same ▸ stands.remove
    · exact stands.remove_other ‹_›
  | retain keep =>
    rw [Step.move]
    split
    · rename_i kept
      constructor <;> simp [PendingSet.perform, PendingSet.filter, kept, stands.added_iff,
        stands.removed_iff]
    · rename_i dropped
      constructor <;> simp [PendingSet.perform, PendingSet.filter, dropped]

theorem standsAt_tally (item : α) (steps : List (Step α)) :
    (empty.performAll steps).StandsAt item (tally item steps) := by
  induction steps using List.reverseRecOn with
  | nil => constructor <;> simp [performAll, tally, empty]
  | append_singleton steps step ih =>
    rw [performAll_snoc, tally_snoc]
    exact ih.perform step

/-! ## The order of the items -/

/-- What stays keeps its order, and at most one element enters, behind the others. -/
def KeepsOrder (before after : OrderedSet α) : Prop :=
  ∃ entering : Option α,
    after.elements = (before.elements.filter fun item => item ∈ after) ++ entering.toList

theorem keepsOrder_filter (keep : α → Bool) (before : OrderedSet α) :
    KeepsOrder before (before.filter keep) := by
  refine ⟨none, ?_⟩
  rw [Option.toList_none, List.append_nil]
  refine List.filter_congr fun item present => ?_
  rw [← OrderedSet.mem_def] at present
  simp [present]

theorem keepsOrder_refl (before : OrderedSet α) : KeepsOrder before before := by
  refine ⟨none, ?_⟩
  rw [Option.toList_none, List.append_nil]
  exact (List.filter_eq_self.mpr fun item present => decide_eq_true present).symm

theorem keepsOrder_insert (before : OrderedSet α) (item : α) :
    KeepsOrder before (before.insert item) := by
  by_cases present : item ∈ before
  · rw [OrderedSet.insert_of_mem present]
    exact keepsOrder_refl before
  · refine ⟨some item, ?_⟩
    rw [List.filter_eq_self.mpr fun other found => by
      simpa using Or.inl (OrderedSet.mem_def.mpr found)]
    exact OrderedSet.elements_insert_of_not_mem present

theorem keepsOrder_perform (set : PendingSet α) (step : Step α) :
    KeepsOrder set.added (set.perform step).added ∧
      KeepsOrder set.removed (set.perform step).removed := by
  cases step with
  | add item =>
    rw [perform, add]
    split
    · exact ⟨keepsOrder_refl _, keepsOrder_filter _ _⟩
    · exact ⟨keepsOrder_insert _ _, keepsOrder_refl _⟩
  | remove item =>
    rw [perform, remove]
    split
    · exact ⟨keepsOrder_filter _ _, keepsOrder_refl _⟩
    · exact ⟨keepsOrder_refl _, keepsOrder_insert _ _⟩
  | retain keep => exact ⟨keepsOrder_filter keep _, keepsOrder_filter keep _⟩

/-- A call gives an item a standing that it did not have before. -/
def Enters (steps : List (Step α)) (standing : Standing) (item : α) (place : Nat) : Prop :=
  tally item (steps.take place) ≠ standing ∧ tally item (steps.take (place + 1)) = standing

/-- The last call that gives an item a standing. -/
def EntersLast (steps : List (Step α)) (standing : Standing) (item : α) (place : Nat) : Prop :=
  Enters steps standing item place ∧ ∀ later > place, ¬ Enters steps standing item later

/-- Items stand in the order in which each was last given the standing that they have. -/
def InOrderOfEntry (steps : List (Step α)) (standing : Standing) (items : List α) : Prop :=
  ∃ entry : α → Nat, (∀ item ∈ items, EntersLast steps standing item (entry item)) ∧
    items.Pairwise fun first second => entry first < entry second

variable {steps : List (Step α)} {step : Step α} {place : Nat}

theorem Enters.lt_length (enters : Enters steps standing item place) : place < steps.length := by
  by_contra beyond
  have past : steps.length ≤ place := Nat.le_of_not_lt beyond
  obtain ⟨before, after⟩ := enters
  rw [List.take_of_length_le past] at before
  rw [List.take_of_length_le (Nat.le_succ_of_le past)] at after
  exact before after

/-- Of the calls made so far a further one changes nothing. -/
theorem enters_snoc_iff (inside : place < steps.length) :
    Enters (steps ++ [step]) standing item place ↔ Enters steps standing item place := by
  rw [Enters, Enters, List.take_append_of_le_length (Nat.le_of_lt inside),
    List.take_append_of_le_length inside]

theorem enters_snoc_last_iff : Enters (steps ++ [step]) standing item steps.length ↔
    tally item steps ≠ standing ∧ tally item (steps ++ [step]) = standing := by
  rw [Enters, List.take_left, List.take_of_length_le (by simp)]

theorem EntersLast.snoc (enters : EntersLast steps standing item place)
    (before : tally item steps = standing) :
    EntersLast (steps ++ [step]) standing item place := by
  refine ⟨(enters_snoc_iff enters.1.lt_length).mpr enters.1, fun later after again => ?_⟩
  have bound := again.lt_length
  rw [List.length_append, List.length_singleton] at bound
  rcases Nat.lt_succ_iff_lt_or_eq.mp bound with inside | rfl
  · exact enters.2 later after ((enters_snoc_iff inside).mp again)
  · exact (enters_snoc_last_iff.mp again).1 before

theorem entersLast_snoc (before : tally item steps ≠ standing)
    (after : tally item (steps ++ [step]) = standing) :
    EntersLast (steps ++ [step]) standing item steps.length := by
  refine ⟨enters_snoc_last_iff.mpr ⟨before, after⟩, fun later behind again => ?_⟩
  have bound := again.lt_length
  rw [List.length_append, List.length_singleton] at bound
  exact absurd bound (Nat.not_lt.mpr behind)

/-- The order is kept by a further call, since what enters stands behind what stays. -/
theorem InOrderOfEntry.snoc {before after : OrderedSet α}
    (ordered : InOrderOfEntry steps standing before.elements)
    (before_iff : ∀ item, item ∈ before ↔ tally item steps = standing)
    (after_iff : ∀ item, item ∈ after ↔ tally item (steps ++ [step]) = standing)
    (keeps : KeepsOrder before after) :
    InOrderOfEntry (steps ++ [step]) standing after.elements := by
  obtain ⟨entry, entered, pairwise⟩ := ordered
  obtain ⟨entering, elements_eq⟩ := keeps
  have entered_old {item : α} (present : item ∈ before) :
      EntersLast (steps ++ [step]) standing item (entry item) :=
    (entered item present).snoc ((before_iff item).mp present)
  have entered_new {item : α} (enters : item ∈ after) (absent : item ∉ before) :
      EntersLast (steps ++ [step]) standing item steps.length :=
    entersLast_snoc (fun same => absent ((before_iff item).mpr same)) ((after_iff item).mp enters)
  refine ⟨fun item => if item ∈ before then entry item else steps.length, ?_, ?_⟩
  · intro item present
    by_cases old : item ∈ before
    · simpa only [old, if_true] using entered_old old
    · simpa only [old, if_false] using entered_new present old
  · have distinct := after.nodup
    rw [elements_eq, List.nodup_append] at distinct
    rw [elements_eq, List.pairwise_append]
    refine ⟨?_, ?_, ?_⟩
    · refine (pairwise.sublist List.filter_sublist).imp_of_mem ?_
      intro first second first_mem second_mem sooner
      have first_old : first ∈ before := (List.mem_filter.mp first_mem).1
      have second_old : second ∈ before := (List.mem_filter.mp second_mem).1
      simpa only [first_old, second_old, if_true] using sooner
    · cases entering <;> simp
    · intro first first_mem second second_mem
      have first_old : first ∈ before := (List.mem_filter.mp first_mem).1
      have second_new : second ∉ before := by
        intro old
        have present : second ∈ after :=
          OrderedSet.mem_def.mpr (elements_eq ▸ List.mem_append_right _ second_mem)
        have stays : second ∈ before.elements.filter fun item => item ∈ after :=
          List.mem_filter.mpr ⟨old, decide_eq_true present⟩
        exact distinct.2.2 second stays second second_mem rfl
      simpa only [first_old, second_new, if_true, if_false] using
        (entered first first_old).1.lt_length

/-- The items of either side stand in the order in which they last came there. -/
theorem inOrderOfEntry_performAll (steps : List (Step α)) :
    let set := empty.performAll steps
    InOrderOfEntry steps .added set.added.elements ∧
      InOrderOfEntry steps .removed set.removed.elements := by
  induction steps using List.reverseRecOn with
  | nil => exact ⟨⟨fun _ => 0, by simp [performAll, empty, OrderedSet.empty]⟩,
      ⟨fun _ => 0, by simp [performAll, empty, OrderedSet.empty]⟩⟩
  | append_singleton steps step ih =>
    have stands (item : α) := standsAt_tally item steps
    have stands_then (item : α) := standsAt_tally item (steps ++ [step])
    simp only [performAll_snoc] at stands_then ⊢
    obtain ⟨added_kept, removed_kept⟩ := keepsOrder_perform (empty.performAll steps) step
    exact ⟨ih.1.snoc (fun item => (stands item).added_iff) (fun item => (stands_then item).added_iff)
        added_kept,
      ih.2.snoc (fun item => (stands item).removed_iff) (fun item => (stands_then item).removed_iff)
        removed_kept⟩

/-- After any calls each item stands where the calls that concern it have taken it, no item is on
both sides, the items of either side stand in the order in which they last came there, and a
further call changes the order of none that stays. -/
theorem performAll_empty_stands_and_ordered (steps : List (Step α)) :
    let set := empty.performAll steps
    (∀ item, (item ∈ set.added ↔ tally item steps = .added) ∧
      (item ∈ set.removed ↔ tally item steps = .removed)) ∧
    (∀ item ∈ set.added, item ∉ set.removed) ∧
    InOrderOfEntry steps .added set.added.elements ∧
    InOrderOfEntry steps .removed set.removed.elements ∧
    ∀ step, KeepsOrder set.added (set.perform step).added ∧
      KeepsOrder set.removed (set.perform step).removed := by
  intro set
  have stands (item : α) : set.StandsAt item (tally item steps) := standsAt_tally item steps
  obtain ⟨added_ordered, removed_ordered⟩ := inOrderOfEntry_performAll steps
  refine ⟨fun item => ⟨(stands item).added_iff, (stands item).removed_iff⟩, ?_, added_ordered,
    removed_ordered, keepsOrder_perform set⟩
  intro item waits leaves
  have up := (stands item).added_iff.mp waits
  rw [(stands item).removed_iff.mp leaves] at up
  cases up

/-- An item that is taken back and added again stands behind those added in the meantime. -/
example : ((empty : PendingSet Nat).performAll
    [.add 1, .add 2, .remove 1, .remove 3, .add 1]).added.elements = [2, 1] := by decide

end Calls

end PendingSet

end CodeWorkspace
