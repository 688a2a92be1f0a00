import CodeWorkspace.Container.OrderedMap.Lemmas
import CodeWorkspace.Proofs.Transition.Effect

/-!
# Who holds a reference

A project records the holders of a reference only if they are not just the direct one.  Read as a
table of holders, with nobody for a reference that is not there, holding and releasing a reference
change one line of the table and nothing else.
-/

namespace CodeWorkspace

namespace Holders

/-- Nobody holds the reference. -/
def nobody : Holders := { direct := false, converted := 0 }

theorem isEmpty_iff {holders : Holders} : holders.isEmpty = true ↔ holders = nobody := by
  obtain ⟨direct, converted⟩ := holders
  cases direct <;> simp [isEmpty, nobody]

theorem isEmpty_add (holders : Holders) (holder : ReferenceHolder) :
    (holders.add holder).isEmpty = false := by
  cases holder <;> simp [isEmpty, add]

end Holders

namespace Project

variable {project changed : Project} {reference : ProjectReference} {holders : Holders}
  {holder : ReferenceHolder} {closes : ProjectId → Bool} {fault : Fault}

/-- Who holds a reference of a project. -/
def holding (project : Project) (reference : ProjectReference) : Holders :=
  if reference ∈ project.projectReferences then project.holdersOf reference else .nobody

/-- What a project records of its references makes sense: each is there once, somebody holds it,
and there are no superfluous records. -/
structure Booked (project : Project) : Prop where
  distinct : project.projectReferences.Nodup
  referred : ∀ reference ∈ project.holders.keys, reference ∈ project.projectReferences
  held : ∀ reference ∈ project.projectReferences, (project.holdersOf reference).isEmpty = false
  sparse : ∀ reference holders, project.holders.get? reference = some holders → holders ≠ {}

/-- A project that differs in who holds one reference. -/
structure Rebooked (project : Project) (reference : ProjectReference) (holders : Holders)
    (changed : Project) : Prop where
  booked : changed.Booked
  holding_eq : ∀ other,
    changed.holding other = if other = reference then holders else project.holding other
  metadata_eq : changed.metadataReferences = project.metadataReferences

theorem booked_ofInfo (info : ProjectInfo) : (ofInfo info).Booked where
  distinct := List.nodup_nil
  referred _ recorded := by cases recorded
  held _ present := by cases present
  sparse _ _ found := by cases found

theorem holding_of_mem (present : reference ∈ project.projectReferences) :
    project.holding reference = project.holdersOf reference := if_pos present

theorem holding_of_not_mem (absent : reference ∉ project.projectReferences) :
    project.holding reference = .nobody := if_neg absent

theorem Booked.mem_iff (booked : project.Booked) :
    reference ∈ project.projectReferences ↔ (project.holding reference).isEmpty = false := by
  by_cases present : reference ∈ project.projectReferences
  · simp [holding_of_mem present, booked.held reference present, present]
  · simp [holding_of_not_mem present, present, Holders.isEmpty, Holders.nobody]

theorem holdersOf_eq_default (unrecorded : reference ∉ project.holders.keys) :
    project.holdersOf reference = {} := by
  rw [holdersOf, OrderedMap.get?_eq_none_iff.mpr unrecorded, Option.getD_none]

/-- What is recorded of a reference is determined by who holds it. -/
theorem Booked.get?_holders (booked : project.Booked) (reference : ProjectReference) :
    project.holders.get? reference =
      if (project.holding reference).isEmpty ∨ project.holding reference = {} then none
      else some (project.holding reference) := by
  cases found : project.holders.get? reference with
  | none =>
    by_cases present : reference ∈ project.projectReferences
    · simp [holding_of_mem present, holdersOf, found]
    · simp [holding_of_not_mem present, Holders.isEmpty, Holders.nobody]
  | some recorded =>
    have present := booked.referred reference (OrderedMap.mem_keys_iff.mpr ⟨recorded, found⟩)
    have same : project.holdersOf reference = recorded := by rw [holdersOf, found, Option.getD_some]
    have held := booked.held reference present
    rw [same] at held
    rw [holding_of_mem present, same]
    simp [held, booked.sparse reference recorded found]

theorem isHeldBy_eq (project : Project) (reference : ProjectReference) (holder : ReferenceHolder) :
    project.isHeldBy reference holder = (project.holding reference).includes holder := by
  by_cases present : reference ∈ project.projectReferences
  · simp [isHeldBy, present, holding_of_mem]
  · cases holder <;>
      simp [isHeldBy, present, holding_of_not_mem, Holders.includes, Holders.nobody]

/-! ## Recording holders -/

@[simp]
theorem projectReferences_setHolders (project : Project) (reference : ProjectReference)
    (holders : Holders) :
    (project.setHolders reference holders).projectReferences = project.projectReferences := by
  rw [setHolders]
  split <;> rfl

@[simp]
theorem metadataReferences_setHolders (project : Project) (reference : ProjectReference)
    (holders : Holders) :
    (project.setHolders reference holders).metadataReferences = project.metadataReferences := by
  rw [setHolders]
  split <;> rfl

theorem get?_setHolders (project : Project) (reference other : ProjectReference)
    (holders : Holders) :
    (project.setHolders reference holders).holders.get? other =
      if other = reference then if holders = {} then none else some holders
      else project.holders.get? other := by
  rw [setHolders]
  split
  · rw [OrderedMap.get?_erase]
  · rw [OrderedMap.get?_insert]

theorem holdersOf_setHolders (project : Project) (reference other : ProjectReference)
    (holders : Holders) :
    (project.setHolders reference holders).holdersOf other =
      if other = reference then holders else project.holdersOf other := by
  simp only [holdersOf, get?_setHolders]
  split
  · split
    · rename_i default
      rw [default, Option.getD_none]
    · rw [Option.getD_some]
  · rfl

theorem rebooked_setHolders (booked : project.Booked)
    (present : reference ∈ project.projectReferences) (nonempty : holders.isEmpty = false) :
    Rebooked project reference holders (project.setHolders reference holders) := by
  refine ⟨⟨?_, ?_, ?_, ?_⟩, ?_, metadataReferences_setHolders _ _ _⟩
  · rw [projectReferences_setHolders]
    exact booked.distinct
  · intro other recorded
    rw [projectReferences_setHolders]
    rw [OrderedMap.mem_keys_iff] at recorded
    obtain ⟨found, found_eq⟩ := recorded
    rw [get?_setHolders] at found_eq
    split at found_eq
    · rename_i same
      exact same ▸ present
    · exact booked.referred other (OrderedMap.mem_keys_iff.mpr ⟨found, found_eq⟩)
  · intro other other_mem
    rw [projectReferences_setHolders] at other_mem
    rw [holdersOf_setHolders]
    split
    · exact nonempty
    · exact booked.held other other_mem
  · intro other found found_eq
    rw [get?_setHolders] at found_eq
    split at found_eq
    · split at found_eq
      · cases found_eq
      · rename_i differs
        exact Option.some.inj found_eq ▸ differs
    · exact booked.sparse other found found_eq
  · intro other
    simp only [holding, projectReferences_setHolders, holdersOf_setHolders]
    split
    · split <;> rfl
    · rename_i absent
      have differs : other ≠ reference := by
        rintro rfl
        exact absent present
      rw [if_neg differs]

/-- A reference that is new and has no record is held directly. -/
theorem rebooked_append (booked : project.Booked)
    (absent : reference ∉ project.projectReferences) :
    Rebooked project reference {}
      { project with projectReferences := project.projectReferences ++ [reference] } := by
  have unrecorded : reference ∉ project.holders.keys := fun recorded =>
    absent (booked.referred reference recorded)
  refine ⟨⟨?_, ?_, ?_, booked.sparse⟩, ?_, rfl⟩
  · rw [List.nodup_append]
    refine ⟨booked.distinct, by simp, ?_⟩
    intro old old_mem added added_mem same
    rw [List.mem_singleton] at added_mem
    exact absent (added_mem ▸ same ▸ old_mem)
  · intro other recorded
    exact List.mem_append_left _ (booked.referred other recorded)
  · intro other other_mem
    rcases List.mem_append.mp other_mem with old | added
    · exact booked.held other old
    · rw [List.mem_singleton.mp added]
      show (project.holdersOf reference).isEmpty = false
      rw [holdersOf_eq_default unrecorded]
      rfl
  · intro other
    simp only [holding, List.mem_append, List.mem_singleton]
    by_cases same : other = reference
    · subst same
      rw [if_pos (Or.inr rfl), if_pos rfl]
      exact holdersOf_eq_default unrecorded
    · simp only [same, or_false, if_false]
      rfl

theorem rebooked_removeProjectReference (booked : project.Booked)
    (completed : project.removeProjectReference reference = .ok changed) :
    Rebooked project reference .nobody changed := by
  rw [removeProjectReference] at completed
  split at completed <;> cases completed
  have mem_iff (other : ProjectReference) : other ∈ project.projectReferences.erase reference ↔
      other ≠ reference ∧ other ∈ project.projectReferences := booked.distinct.mem_erase_iff
  have holdersOf_eq (other : ProjectReference) (differs : other ≠ reference) :
      ((project.holders.erase reference).get? other).getD {} = project.holdersOf other := by
    rw [OrderedMap.get?_erase, if_neg differs, holdersOf]
  refine ⟨⟨booked.distinct.erase reference, ?_, ?_, ?_⟩, ?_, rfl⟩
  · intro other recorded
    rw [OrderedMap.keys_erase, List.mem_filter] at recorded
    exact (mem_iff other).mpr
      ⟨by simpa using recorded.2, booked.referred other recorded.1⟩
  · intro other other_mem
    obtain ⟨differs, present⟩ := (mem_iff other).mp other_mem
    rw [holdersOf, holdersOf_eq other differs]
    exact booked.held other present
  · intro other found found_eq
    simp only [OrderedMap.get?_erase] at found_eq
    split at found_eq
    · cases found_eq
    · exact booked.sparse other found found_eq
  · intro other
    simp only [holding, mem_iff]
    by_cases same : other = reference
    · simp [same]
    · simp only [same, ne_eq, not_false_eq_true, true_and, if_false]
      rw [holdersOf, holdersOf_eq other same]

/-! ## Holding and releasing -/

/-- Holding a reference adds a holder to it. -/
theorem rebooked_hold (booked : project.Booked)
    (completed : project.hold closes reference holder = .ok changed) :
    Rebooked project reference ((project.holding reference).add holder) changed := by
  rw [hold] at completed
  split at completed
  · rename_i present
    rw [holding_of_mem present]
    split at completed <;> cases completed
    exact rebooked_setHolders booked present (Holders.isEmpty_add _ _)
  · rename_i absent
    rw [holding_of_not_mem absent]
    split at completed
    · cases completed
    · have appended := rebooked_append booked absent
      cases holder with
      | direct =>
        cases completed
        exact appended
      | converted =>
        cases completed
        have recorded := rebooked_setHolders appended.booked
          (List.mem_append_right _ (List.mem_singleton_self reference))
          (show Holders.convertedOnce.isEmpty = false from rfl)
        refine ⟨recorded.booked, fun other => ?_, recorded.metadata_eq⟩
        rw [recorded.holding_eq, appended.holding_eq]
        split <;> rfl

theorem hold_error (failed : project.hold closes reference holder = .error fault) :
    holder = .direct ∧ (project.holding reference).direct = true ∨
      closes reference.target = true ∧ fault = .cycleDetected project.id reference.target := by
  rw [hold] at failed
  split at failed
  · rename_i present
    split at failed <;> cases failed
    rename_i taken
    exact Or.inl ⟨taken.1, (holding_of_mem present).symm ▸ taken.2⟩
  · split at failed
    · rename_i closed
      cases failed
      exact Or.inr ⟨closed, rfl⟩
    · cases holder <;> cases failed

/-- Releasing a reference takes one of its holders away. -/
theorem rebooked_release (booked : project.Booked)
    (completed : project.releaseProjectReference reference holder = .ok changed) :
    Rebooked project reference ((project.holding reference).remove holder) changed := by
  simp only [releaseProjectReference] at completed
  split at completed
  · rename_i held
    have present : reference ∈ project.projectReferences := by
      simp only [isHeldBy, Bool.and_eq_true, decide_eq_true_eq] at held
      exact held.1
    rw [holding_of_mem present]
    split at completed
    · rename_i last
      rw [Holders.isEmpty_iff.mp last]
      exact rebooked_removeProjectReference booked completed
    · rename_i more
      cases completed
      exact rebooked_setHolders booked present (Bool.not_eq_true _ ▸ more)
  · cases completed

theorem release_completes (held : (project.holding reference).includes holder = true) :
    ∃ changed, project.releaseProjectReference reference holder = .ok changed := by
  have held_by := (isHeldBy_eq project reference holder).trans held
  have present : reference ∈ project.projectReferences := by
    simp only [isHeldBy, Bool.and_eq_true, decide_eq_true_eq] at held_by
    exact held_by.1
  simp only [releaseProjectReference, held_by, if_true, removeProjectReference, present]
  split <;> exact ⟨_, rfl⟩

/-! ## What is turned away -/

theorem hold_completes_iff :
    (∃ changed, project.hold closes reference holder = .ok changed) ↔
      ¬ (holder = .direct ∧ (project.holding reference).direct = true ∨
        reference ∉ project.projectReferences ∧ closes reference.target = true) := by
  rw [hold]
  by_cases present : reference ∈ project.projectReferences
  · rw [if_pos present, holding_of_mem present]
    split
    · rename_i taken
      simp [taken]
    · rename_i free
      simp only [Except.ok.injEq, exists_eq', free, present, not_true, false_and, or_self,
        not_false_iff]
  · rw [if_neg present, holding_of_not_mem present]
    cases passed : closes reference.target
    · cases holder <;> simp [Holders.nobody]
    · simp [present]

theorem release_completes_iff :
    (∃ changed, project.releaseProjectReference reference holder = .ok changed) ↔
      (project.holding reference).includes holder = true := by
  refine ⟨fun ⟨changed, completed⟩ => ?_, release_completes⟩
  simp only [releaseProjectReference] at completed
  split at completed
  · rename_i held
    exact (isHeldBy_eq project reference holder).symm.trans held
  · cases completed

theorem addProjectReference_completes_iff :
    (∃ changed, project.addProjectReference reference = .ok changed) ↔
      reference ∉ project.projectReferences := by
  rw [addProjectReference]
  split <;> simp [*]

theorem removeProjectReference_completes_iff :
    (∃ changed, project.removeProjectReference reference = .ok changed) ↔
      reference ∈ project.projectReferences := by
  rw [removeProjectReference]
  split <;> simp [*]

/-! ## Cutting off a project -/

theorem booked_withoutReferencesTo (booked : project.Booked) (target : ProjectId) :
    (project.withoutReferencesTo target).Booked ∧ ∀ reference,
      (project.withoutReferencesTo target).holding reference =
        if reference.target = target then .nobody else project.holding reference := by
  have mem_iff (reference : ProjectReference) :
      reference ∈ (project.withoutReferencesTo target).projectReferences ↔
        reference ∈ project.projectReferences ∧ reference.target ≠ target := by
    simp [withoutReferencesTo]
  have get?_eq (reference : ProjectReference) :
      (project.withoutReferencesTo target).holders.get? reference =
        if reference.target = target then none else project.holders.get? reference := by
    rw [withoutReferencesTo, OrderedMap.get?_filter project.holders fun reference =>
      reference.target ≠ target]
    split <;> simp_all
  have holdersOf_eq (reference : ProjectReference) (kept : reference.target ≠ target) :
      (project.withoutReferencesTo target).holdersOf reference = project.holdersOf reference := by
    rw [holdersOf, get?_eq, if_neg kept, holdersOf]
  refine ⟨⟨booked.distinct.filter _, ?_, ?_, ?_⟩, ?_⟩
  · intro reference recorded
    obtain ⟨found, found_eq⟩ := OrderedMap.mem_keys_iff.mp recorded
    rw [get?_eq] at found_eq
    split at found_eq
    · cases found_eq
    · rename_i kept
      exact (mem_iff reference).mpr
        ⟨booked.referred reference (OrderedMap.mem_keys_iff.mpr ⟨found, found_eq⟩), kept⟩
  · intro reference present
    obtain ⟨present, kept⟩ := (mem_iff reference).mp present
    rw [holdersOf_eq reference kept]
    exact booked.held reference present
  · intro reference found found_eq
    rw [get?_eq] at found_eq
    split at found_eq
    · cases found_eq
    · exact booked.sparse reference found found_eq
  · intro reference
    simp only [holding, mem_iff]
    by_cases kept : reference.target = target
    · simp [kept]
    · simp only [kept, ne_eq, not_false_eq_true, and_true, if_false]
      rw [holdersOf_eq reference kept]

/-- Nobody holds a reference to a project that was removed; the other references stay. -/
theorem booked_cutOff (booked : project.Booked) (target : ProjectId) :
    (Snapshot.cutOff target project).Booked ∧ ∀ reference,
      (Snapshot.cutOff target project).holding reference =
        if reference.target = target then .nobody else project.holding reference := by
  rw [Snapshot.cutOff]
  split
  · exact booked_withoutReferencesTo booked target
  · rename_i spared
    refine ⟨booked, fun reference => ?_⟩
    split
    · rename_i same
      exact holding_of_not_mem fun present =>
        spared (refersTo_iff.mpr ⟨reference, present, same⟩)
    · rfl

end Project

end CodeWorkspace
