import CodeWorkspace.Proofs.Draft.Move
import CodeWorkspace.Proofs.Project.Holders
import Mathlib.Data.List.Count

/-!
# Committing references

What each group of a plan makes of the references of a project, and why it may fail.  Metadata
references are listed as themselves or counted among the holders of the references to projects that
stand for them; taking out a reference that is not there in its representation does nothing.
-/

namespace CodeWorkspace

/-- The metadata reference that is represented as itself. -/
def Representation.content? : Representation → Option MetadataReference
  | .structural _ => none
  | .content reference => some reference

namespace Project

variable {project changed : Project} {metadata : List MetadataReference}
  {table : ProjectReference → Holders}

/-- The references to files that a project lists, and the holders of its references to projects. -/
structure Lists (project : Project) (metadata : List MetadataReference)
    (table : ProjectReference → Holders) : Prop where
  booked : project.Booked
  metadata_eq : project.metadataReferences = metadata
  holding_eq : ∀ reference, project.holding reference = table reference

theorem Booked.lists (booked : project.Booked) :
    project.Lists project.metadataReferences project.holding := ⟨booked, rfl, fun _ => rfl⟩

theorem Lists.rebooked (lists : project.Lists metadata table) {reference : ProjectReference}
    {holders : Holders} (rebooked : Rebooked project reference holders changed)
    {after : ProjectReference → Holders}
    (after_eq : ∀ other, after other = if other = reference then holders else table other) :
    changed.Lists metadata after where
  booked := rebooked.booked
  metadata_eq := rebooked.metadata_eq.trans lists.metadata_eq
  holding_eq other := by rw [rebooked.holding_eq, after_eq, lists.holding_eq]

theorem Lists.of_same (lists : project.Lists metadata table)
    (same : project.SameReferences changed) : changed.Lists metadata table := by
  obtain ⟨metadata_eq, references_eq, holders_eq⟩ := same
  have holdersOf_eq (reference : ProjectReference) :
      changed.holdersOf reference = project.holdersOf reference := by
    rw [holdersOf, holders_eq, holdersOf]
  refine ⟨⟨?_, ?_, ?_, ?_⟩, metadata_eq.trans lists.metadata_eq, fun reference => ?_⟩
  · rw [references_eq]
    exact lists.booked.distinct
  · rw [references_eq, holders_eq]
    exact lists.booked.referred
  · rw [references_eq]
    intro reference present
    rw [holdersOf_eq]
    exact lists.booked.held reference present
  · rw [holders_eq]
    exact lists.booked.sparse
  · rw [← lists.holding_eq, holding, holding, references_eq, holdersOf_eq]

theorem Lists.withMetadata (lists : project.Lists metadata table)
    (references : List MetadataReference) :
    { project with metadataReferences := references }.Lists references table :=
  ⟨⟨lists.booked.distinct, lists.booked.referred, lists.booked.held, lists.booked.sparse⟩, rfl,
    lists.holding_eq⟩

end Project

namespace Transition

variable {closes : ProjectId → Bool} {represent : MetadataReference → Representation}
  {project changed : Project} {metadata : List MetadataReference}
  {table : ProjectReference → Holders} {fault : Fault}

/-! ## Metadata references -/

/-- The table with more converted holders, one for each reference that stands for the line. -/
def gain (represent : MetadataReference → Representation) (references : List MetadataReference)
    (table : ProjectReference → Holders) (line : ProjectReference) : Holders :=
  { table line with
    converted := (table line).converted +
      references.countP fun reference => represent reference = .structural line }

/-- The table with fewer converted holders. -/
def lose (represent : MetadataReference → Representation) (references : List MetadataReference)
    (table : ProjectReference → Holders) (line : ProjectReference) : Holders :=
  { table line with
    converted := (table line).converted -
      references.countP fun reference => represent reference = .structural line }

theorem lists_addReferences {references : List MetadataReference}
    (lists : project.Lists metadata table)
    (completed : effects closes project (references.map (.addReference ∘ represent)) =
      .ok changed) :
    changed.Lists (metadata ++ references.filterMap fun reference =>
        (represent reference).content?) (gain represent references table) := by
  induction references generalizing project metadata table with
  | nil =>
    cases completed
    exact ⟨lists.booked, by simpa using lists.metadata_eq, by simpa [gain] using lists.holding_eq⟩
  | cons reference rest ih =>
    obtain ⟨middle, added, completed⟩ := effects_cons_ok.mp completed
    cases represented : represent reference with
    | content kept =>
      simp only [Function.comp, represented, effect, Project.addMetadataReference] at added
      split at added <;> cases added
      have next := ih (lists.withMetadata _) completed
      refine ⟨next.booked, ?_, fun line => ?_⟩
      · rw [next.metadata_eq, lists.metadata_eq]
        simp [represented, Representation.content?]
      · rw [next.holding_eq]
        simp [gain, represented]
    | structural target =>
      simp only [Function.comp, represented, effect] at added
      have held := Project.rebooked_hold lists.booked added
      have next := ih (lists.rebooked held fun _ => rfl) completed
      refine ⟨next.booked, ?_, fun line => ?_⟩
      · rw [next.metadata_eq]
        simp [represented, Representation.content?]
      · rw [next.holding_eq, gain, gain]
        by_cases same : line = target
        · subst same
          simp [represented, lists.holding_eq, Holders.add]
          omega
        · simp [represented, same, Ne.symm same]

/-- Metadata references can be added unless one of them is listed as itself. -/
theorem addReferences_error {references : List MetadataReference} (booked : project.Booked)
    (distinct : (references.filterMap fun reference => (represent reference).content?).Nodup)
    (unclosed : ∀ reference ∈ references, ∀ target, represent reference = .structural target →
      closes target.target = false)
    (failed : effects closes project (references.map (.addReference ∘ represent)) =
      .error fault) :
    ∃ reference ∈ references, ∃ kept, represent reference = .content kept ∧
      kept ∈ project.metadataReferences ∧ fault = .duplicateReference project.id kept.path := by
  induction references generalizing project with
  | nil => cases failed
  | cons reference rest ih =>
    have later_unclosed : ∀ other ∈ rest, ∀ target, represent other = .structural target →
        closes target.target = false :=
      fun other other_mem => unclosed other (List.mem_cons_of_mem _ other_mem)
    cases represented : represent reference with
    | content kept =>
      simp only [List.filterMap_cons, represented, Representation.content?,
        List.nodup_cons] at distinct
      rcases effects_cons_error failed with here | ⟨middle, added, later⟩
      · simp only [Function.comp, represented, effect, Project.addMetadataReference] at here
        split at here <;> cases here
        rename_i present
        exact ⟨reference, List.mem_cons_self, kept, represented, present, rfl⟩
      · simp only [Function.comp, represented, effect, Project.addMetadataReference] at added
        split at added <;> cases added
        obtain ⟨other, other_mem, again, again_eq, present, fault_eq⟩ :=
          ih (booked.lists.withMetadata _).booked distinct.2 later_unclosed later
        refine ⟨other, List.mem_cons_of_mem _ other_mem, again, again_eq, ?_, fault_eq⟩
        rcases List.mem_append.mp present with old | same
        · exact old
        · refine absurd (List.mem_filterMap.mpr ⟨other, other_mem, ?_⟩) distinct.1
          simp [again_eq, List.mem_singleton.mp same]
    | structural target =>
      simp only [List.filterMap_cons, represented, Representation.content?] at distinct
      rcases effects_cons_error failed with here | ⟨middle, added, later⟩
      · simp only [Function.comp, represented, effect] at here
        rcases Project.hold_error here with ⟨direct, _⟩ | ⟨closed, _⟩
        · cases direct
        · rw [unclosed reference List.mem_cons_self target represented] at closed
          cases closed
      · have id_eq := id_eq_of_effect added
        simp only [Function.comp, represented, effect] at added
        have held := Project.rebooked_hold booked added
        obtain ⟨other, other_mem, kept, kept_eq, present, fault_eq⟩ :=
          ih held.booked distinct later_unclosed later
        rw [held.metadata_eq] at present
        rw [id_eq] at fault_eq
        exact ⟨other, List.mem_cons_of_mem _ other_mem, kept, kept_eq, present, fault_eq⟩

/-- Taking out a metadata reference always succeeds. -/
theorem removeReference_completes (closes : ProjectId → Bool) (project : Project)
    (representation : Representation) :
    ∃ changed, (removeReference representation).effect closes project = .ok changed := by
  simp only [effect]
  split
  · rename_i present
    cases representation with
    | content reference =>
      have listed : reference ∈ project.metadataReferences := by simpa [isPresent] using present
      exact ⟨_, by simp only [Project.removeMetadataReference, if_pos listed]; rfl⟩
    | structural reference =>
      exact Project.release_completes ((Project.isHeldBy_eq _ _ _).symm.trans present)
  · exact ⟨project, rfl⟩

/-- A reference that is represented as itself is no longer listed once it has been taken out. -/
theorem lists_removeReference_content {kept : MetadataReference}
    (lists : project.Lists metadata table)
    (removed : (removeReference (.content kept)).effect closes project = .ok changed) :
    changed.Lists (metadata.erase kept) table := by
  have erased : changed = { project with
      metadataReferences := project.metadataReferences.erase kept } := by
    simp only [effect, isPresent, decide_eq_true_eq] at removed
    by_cases present : kept ∈ project.metadataReferences
    · rw [if_pos present, Project.removeMetadataReference, if_pos present] at removed
      exact (Except.ok.inj removed).symm
    · rw [if_neg present] at removed
      rw [← Except.ok.inj removed, List.erase_of_not_mem present]
  rw [erased, lists.metadata_eq]
  exact lists.withMetadata (metadata.erase kept)

/-- A reference to a project that stands for a metadata reference loses one holder, if that
metadata reference holds it. -/
theorem lists_removeReference_structural {target : ProjectReference}
    (lists : project.Lists metadata table)
    (removed : (removeReference (.structural target)).effect closes project = .ok changed) :
    changed.Lists metadata fun line =>
      if line = target then (table line).remove .converted else table line := by
  simp only [effect] at removed
  split at removed
  · refine lists.rebooked (Project.rebooked_release lists.booked removed) fun line => ?_
    rw [lists.holding_eq]
    split
    · rename_i same
      rw [same]
    · rfl
  · rename_i absent
    cases removed
    refine ⟨lists.booked, lists.metadata_eq, fun line => ?_⟩
    split
    · rename_i same
      have none_converted : ((table target).includes .converted) = false := by
        rw [← lists.holding_eq, ← Project.isHeldBy_eq]
        simpa [isPresent] using absent
      simp only [Holders.includes, decide_eq_false_iff_not, Nat.not_lt,
        Nat.le_zero] at none_converted
      rw [lists.holding_eq, same, Holders.remove]
      cases line_eq : table target
      simp_all
    · exact lists.holding_eq line

theorem lists_removeReferences {references : List MetadataReference}
    (lists : project.Lists metadata table)
    (completed : effects closes project (references.map (.removeReference ∘ represent)) =
      .ok changed) :
    changed.Lists (metadata.diff (references.filterMap fun reference =>
        (represent reference).content?)) (lose represent references table) := by
  induction references generalizing project metadata table with
  | nil =>
    cases completed
    exact ⟨lists.booked, by simpa using lists.metadata_eq, by simpa [lose] using lists.holding_eq⟩
  | cons reference rest ih =>
    obtain ⟨middle, removed, completed⟩ := effects_cons_ok.mp completed
    rw [Function.comp] at removed
    cases represented : represent reference with
    | content kept =>
      rw [represented] at removed
      have next := ih (lists_removeReference_content lists removed) completed
      refine ⟨next.booked, ?_, fun line => ?_⟩
      · rw [next.metadata_eq]
        simp [represented, Representation.content?]
      · rw [next.holding_eq]
        simp [lose, represented]
    | structural target =>
      rw [represented] at removed
      have next := ih (lists_removeReference_structural lists removed) completed
      refine ⟨next.booked, ?_, fun line => ?_⟩
      · rw [next.metadata_eq]
        simp [represented, Representation.content?]
      · rw [next.holding_eq, lose, lose]
        by_cases same : line = target
        · subst same
          simp [represented, Holders.remove]
          omega
        · simp [represented, same, Ne.symm same]

theorem removeReferences_completes {references : List MetadataReference}
    (booked : project.Booked) :
    ∃ changed, effects closes project (references.map (.removeReference ∘ represent)) =
      .ok changed := by
  induction references generalizing project with
  | nil => exact ⟨project, rfl⟩
  | cons reference rest ih =>
    obtain ⟨middle, removed⟩ :=
      removeReference_completes closes project (represent reference)
    have single : effects closes project ([reference].map (.removeReference ∘ represent)) =
        .ok middle := by
      rw [List.map_singleton, effects_singleton]
      exact removed
    obtain ⟨changed, completed⟩ := ih (lists_removeReferences booked.lists single).booked
    exact ⟨changed, effects_cons_ok.mpr ⟨middle, removed, completed⟩⟩

/-! ## References to projects -/

theorem lists_addProjectReferences {references : List ProjectReference}
    (lists : project.Lists metadata table)
    (completed : effects closes project (references.map .addProjectReference) = .ok changed) :
    changed.Lists metadata fun line =>
      { table line with direct := (table line).direct || line ∈ references } := by
  induction references generalizing project table with
  | nil =>
    cases completed
    exact ⟨lists.booked, lists.metadata_eq, by simpa using lists.holding_eq⟩
  | cons reference rest ih =>
    obtain ⟨middle, added, completed⟩ := effects_cons_ok.mp completed
    have next := ih (lists.rebooked (Project.rebooked_hold lists.booked added) fun _ => rfl)
      completed
    refine ⟨next.booked, next.metadata_eq, fun line => ?_⟩
    rw [next.holding_eq]
    by_cases same : line = reference
    · subst same
      simp [lists.holding_eq, Holders.add]
    · simp [same]

/-- New references to projects can be added unless one of them closes a cycle. -/
theorem addProjectReferences_error {references : List ProjectReference} (booked : project.Booked)
    (distinct : references.Nodup)
    (fresh : ∀ reference ∈ references, (project.holding reference).direct = false)
    (failed : effects closes project (references.map .addProjectReference) = .error fault) :
    ∃ reference ∈ references, closes reference.target = true ∧
      fault = .cycleDetected project.id reference.target := by
  induction references generalizing project with
  | nil => cases failed
  | cons reference rest ih =>
    rw [List.nodup_cons] at distinct
    rcases effects_cons_error failed with here | ⟨middle, added, later⟩
    · rcases Project.hold_error here with ⟨_, direct⟩ | ⟨closed, fault_eq⟩
      · rw [fresh reference List.mem_cons_self] at direct
        cases direct
      · exact ⟨reference, List.mem_cons_self, closed, fault_eq⟩
    · have id_eq := id_eq_of_effect added
      have held := Project.rebooked_hold booked added
      obtain ⟨other, other_mem, closed, fault_eq⟩ := ih held.booked distinct.2
        (fun other other_mem => by
          have differs : other ≠ reference := fun same => distinct.1 (same ▸ other_mem)
          rw [held.holding_eq, if_neg differs]
          exact fresh other (List.mem_cons_of_mem _ other_mem)) later
      rw [id_eq] at fault_eq
      exact ⟨other, List.mem_cons_of_mem _ other_mem, closed, fault_eq⟩

theorem lists_removeProjectReferences {references : List ProjectReference}
    (lists : project.Lists metadata table)
    (completed : effects closes project (references.map .removeProjectReference) = .ok changed) :
    changed.Lists metadata fun line =>
      { table line with direct := (table line).direct && line ∉ references } := by
  induction references generalizing project table with
  | nil =>
    cases completed
    exact ⟨lists.booked, lists.metadata_eq, by simpa using lists.holding_eq⟩
  | cons reference rest ih =>
    obtain ⟨middle, removed, completed⟩ := effects_cons_ok.mp completed
    have next := ih (lists.rebooked (Project.rebooked_release lists.booked removed) fun _ => rfl)
      completed
    refine ⟨next.booked, next.metadata_eq, fun line => ?_⟩
    rw [next.holding_eq]
    by_cases same : line = reference
    · subst same
      simp [lists.holding_eq, Holders.remove]
    · simp [same]

theorem removeProjectReferences_completes {references : List ProjectReference}
    (booked : project.Booked) (distinct : references.Nodup)
    (held : ∀ reference ∈ references, (project.holding reference).direct = true) :
    ∃ changed, effects closes project (references.map .removeProjectReference) = .ok changed := by
  induction references generalizing project with
  | nil => exact ⟨project, rfl⟩
  | cons reference rest ih =>
    rw [List.nodup_cons] at distinct
    obtain ⟨middle, removed⟩ :=
      Project.release_completes (show (project.holding reference).includes .direct = true from
        held reference List.mem_cons_self)
    have released := Project.rebooked_release booked removed
    obtain ⟨changed, completed⟩ := ih released.booked distinct.2 fun other other_mem => by
      have differs : other ≠ reference := fun same => distinct.1 (same ▸ other_mem)
      rw [released.holding_eq, if_neg differs]
      exact held other (List.mem_cons_of_mem _ other_mem)
    exact ⟨changed, effects_cons_ok.mpr ⟨middle, removed, completed⟩⟩

end Transition

end CodeWorkspace
