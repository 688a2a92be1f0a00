import CodeWorkspace.Proofs.FlushPlan.Outcome
import CodeWorkspace.Proofs.PendingSet.Tracking
import CodeWorkspace.Proofs.Workspace.Invariant
import Mathlib.Data.List.Nodup

/-!
# References and properties of a draft and of its project

What a draft tracks and what waits tell what the project in the snapshot has: which references to
projects are held directly, which analyzers are there, and what the properties are.  Every move
keeps each of these three relations, and that no two tracked references have the same target.
-/

namespace CodeWorkspace

namespace Draft

variable {project changed : Project} {draft after : Draft} {closes : ProjectId → Bool}
  {represent : MetadataReference → Representation} {drawn : List DocumentId}

/-- A draft keeps track of the references to files and projects. -/
structure TracksReferences (project : Project) (draft : Draft) : Prop where
  booked : project.Booked
  metadata : ∃ committed,
    draft.changes.metadataReferences.Tracks draft.metadataReferences committed
  direct : draft.changes.projectReferences.Tracks draft.projectReferences fun reference =>
    (project.holding reference).direct = true

/-- A draft keeps track of the analyzers. -/
structure TracksAnalyzers (project : Project) (draft : Draft) : Prop where
  distinct : project.analyzerReferences.Nodup
  tracks : draft.changes.analyzerReferences.Tracks draft.analyzerReferences fun reference =>
    reference ∈ project.analyzerReferences

/-- A draft has the properties that the project is going to have. -/
def TracksProperties (project : Project) (draft : Draft) : Prop :=
  draft.properties = draft.changes.properties.foldl Properties.set project.properties

theorem changes_of_settled (settled : draft.hasPending = false) : draft.changes = .empty := by
  simp only [hasPending, ChangeSet.isEmpty, Bool.or_eq_false_iff, Bool.not_eq_false',
    Bool.and_eq_true, List.isEmpty_iff] at settled
  obtain ⟨_, ⟨⟨metadata, direct⟩, analyzers⟩, properties⟩ := settled
  cases changes_eq : draft.changes
  simp only [changes_eq] at metadata direct analyzers properties
  rw [PendingSet.eq_empty_of_isEmpty metadata, PendingSet.eq_empty_of_isEmpty direct,
    PendingSet.eq_empty_of_isEmpty analyzers, properties]
  rfl

theorem effects_single {α : Type} {transition : α → Transition} {item : α}
    (committed : (transition item).effect closes project = .ok changed) :
    Transition.effects closes project ([item].map transition) = .ok changed :=
  (Transition.effects_singleton closes project _).trans committed

theorem effects_single_error {α : Type} {transition : α → Transition} {item : α} {fault : Fault}
    (failed : (transition item).effect closes project = .error fault) :
    Transition.effects closes project ([item].map transition) = .error fault :=
  (Transition.effects_singleton closes project _).trans failed

/-! ## References -/

theorem TracksReferences.of_same (tracks : TracksReferences project draft)
    (same : project.SameReferences changed) (changes_metadata :
      after.changes.metadataReferences = draft.changes.metadataReferences)
    (changes_projects : after.changes.projectReferences = draft.changes.projectReferences)
    (metadata : after.metadataReferences = draft.metadataReferences)
    (projects : after.projectReferences = draft.projectReferences) :
    TracksReferences changed after := by
  have listed := tracks.booked.lists.of_same same
  refine ⟨listed.booked, ?_, ?_⟩
  · rw [changes_metadata, metadata]
    exact tracks.metadata
  · rw [changes_projects, projects]
    exact tracks.direct.congr fun reference => by rw [listed.holding_eq]

theorem not_mem_of_referenceTo?_eq_none {reference : ProjectReference}
    (untracked : draft.referenceTo? reference.target = none) :
    reference ∉ draft.projectReferences := by
  intro known
  have spared := List.find?_eq_none.mp untracked reference known
  exact spared (by simp)

theorem TracksReferences.later (tracks : TracksReferences project draft) {action : Action}
    (allowed : action.Allowed draft) : TracksReferences project (action.later draft) := by
  obtain ⟨booked, ⟨known, metadata⟩, direct⟩ := tracks
  cases action with
  | addMetadataReference reference => exact ⟨booked, ⟨known, metadata.add allowed⟩, direct⟩
  | removeMetadataReference reference => exact ⟨booked, ⟨known, metadata.remove allowed⟩, direct⟩
  | addProjectReference reference =>
    exact ⟨booked, ⟨known, metadata⟩, direct.add (not_mem_of_referenceTo?_eq_none allowed)⟩
  | removeProjectReference reference => exact ⟨booked, ⟨known, metadata⟩, direct.remove allowed⟩
  | insert collection _ _ _ => cases collection <;> exact ⟨booked, ⟨known, metadata⟩, direct⟩
  | remove collection _ => cases collection <;> exact ⟨booked, ⟨known, metadata⟩, direct⟩
  | _ => exact ⟨booked, ⟨known, metadata⟩, direct⟩

theorem TracksReferences.now (tracks : TracksReferences project draft)
    (settled : draft.hasPending = false) {action : Action}
    (committed : (action.transition represent).effect closes project = .ok changed) :
    TracksReferences changed (action.now draft) := by
  have nothing := changes_of_settled settled
  have others (elsewhere : (action.transition represent).part ≠ .references) :
      project.SameReferences changed :=
    Project.references_of_sameBut (Transition.sameBut_of_effect committed) elsewhere
  obtain ⟨known, metadata⟩ := tracks.metadata
  have direct := tracks.direct
  rw [nothing] at metadata direct
  have waits_metadata : (action.now draft).changes.metadataReferences = .empty := by
    cases action with
    | insert collection _ _ _ => cases collection <;> exact congrArg _ nothing
    | remove collection _ => cases collection <;> exact congrArg _ nothing
    | _ => exact congrArg _ nothing
  have waits_projects : (action.now draft).changes.projectReferences = .empty := by
    cases action with
    | insert collection _ _ _ => cases collection <;> exact congrArg _ nothing
    | remove collection _ => cases collection <;> exact congrArg _ nothing
    | _ => exact congrArg _ nothing
  cases action with
  | addMetadataReference reference =>
    have listed := Transition.lists_addReferences tracks.booked.lists (effects_single committed)
    refine ⟨listed.booked, ⟨fun other => known other ∨ other = reference, ?_⟩, ?_⟩
    · rw [waits_metadata]
      exact metadata.insert fun other => Iff.rfl
    · rw [waits_projects]
      exact direct.congr fun other => by rw [listed.holding_eq]; rfl
  | removeMetadataReference reference =>
    have listed := Transition.lists_removeReferences tracks.booked.lists (effects_single committed)
    refine ⟨listed.booked, ⟨fun other => known other ∧ other ≠ reference, ?_⟩, ?_⟩
    · rw [waits_metadata]
      exact metadata.erase fun other => Iff.rfl
    · rw [waits_projects]
      exact direct.congr fun other => by rw [listed.holding_eq]; rfl
  | addProjectReference reference =>
    have listed :=
      Transition.lists_addProjectReferences tracks.booked.lists (effects_single committed)
    refine ⟨listed.booked, tracks.metadata, ?_⟩
    rw [waits_projects]
    exact direct.insert fun other => by
      rw [listed.holding_eq]
      simp
  | removeProjectReference reference =>
    have listed :=
      Transition.lists_removeProjectReferences tracks.booked.lists (effects_single committed)
    refine ⟨listed.booked, tracks.metadata, ?_⟩
    rw [waits_projects]
    exact direct.erase fun other => by
      rw [listed.holding_eq]
      simp
  | insert collection _ _ _ =>
    cases collection <;>
      exact tracks.of_same (others (by simp [Action.transition, Transition.part])) rfl rfl rfl rfl
  | remove collection _ =>
    cases collection <;>
      exact tracks.of_same (others (by simp [Action.transition, Transition.part])) rfl rfl rfl rfl
  | _ =>
    exact tracks.of_same (others (by simp [Action.transition, Transition.part])) rfl rfl rfl rfl

theorem TracksReferences.settle (tracks : TracksReferences project draft)
    (committed : Transition.effects closes project (draft.planBy represent) = .ok changed) :
    TracksReferences changed draft.settle.2 := by
  rw [Transition.planBy_eq, Transition.effects_append_ok] at committed
  obtain ⟨middle, documents_done, changes_done⟩ := committed
  have listed := Transition.lists_changes (tracks.booked.lists.of_same
    (Transition.references_effects (Transition.part_of_documentPlan_ne (by simp)) documents_done))
    changes_done
  obtain ⟨known, metadata⟩ := tracks.metadata
  refine ⟨listed.booked, ⟨_, metadata.settle fun other => Iff.rfl⟩, ?_⟩
  exact tracks.direct.settle fun other => by
    rw [listed.holding_eq]
    simp [OrderedSet.mem_def]

theorem TracksReferences.move (tracks : TracksReferences project draft)
    (move : Move project draft drawn changed after) : TracksReferences changed after := by
  cases move with
  | later _ allowed => exact tracks.later allowed
  | now closes represent settled _ committed => exact tracks.now settled committed
  | flush closes represent committed => exact tracks.settle committed
  | reload closes collection candidate committed =>
    have same := Project.references_of_sameBut (Transition.sameBut_of_effect committed)
      (by simp [Transition.part])
    cases collection <;> exact tracks.of_same same rfl rfl rfl rfl
  | batches batches => exact tracks.of_same ⟨rfl, rfl, rfl⟩ rfl rfl rfl rfl

theorem lasting_tracksReferences (comparison : PathComparison) :
    Lasting comparison TracksReferences where
  created info :=
    { booked := Project.booked_ofInfo info
      metadata := ⟨fun _ => False, PendingSet.tracks_empty fun _ => not_false⟩
      direct := PendingSet.tracks_empty fun _ => Bool.false_ne_true }
  moved tracks move := tracks.move move
  forgot target tracks := by
    obtain ⟨booked, holding_eq⟩ := Project.booked_cutOff tracks.booked target
    refine ⟨booked, tracks.metadata, ?_⟩
    refine (tracks.direct.filter fun reference => reference.target ≠ target).congr
      fun reference => ?_
    rw [holding_eq]
    by_cases same : reference.target = target
    · simp [same, Holders.nobody]
    · simp [same]

/-! ## Targets -/

/-- A draft tracks at most one reference to each project. -/
def TargetsDiffer (draft : Draft) : Prop :=
  ∀ first ∈ draft.projectReferences, ∀ second ∈ draft.projectReferences,
    first.target = second.target → first = second

theorem TargetsDiffer.of_subset (differ : TargetsDiffer draft)
    (subset : ∀ reference ∈ after.projectReferences, reference ∈ draft.projectReferences) :
    TargetsDiffer after :=
  fun first first_mem second second_mem =>
    differ first (subset first first_mem) second (subset second second_mem)

theorem TargetsDiffer.insert (differ : TargetsDiffer draft) {reference : ProjectReference}
    (untracked : draft.referenceTo? reference.target = none)
    (after_eq : after.projectReferences = draft.projectReferences.insert reference) :
    TargetsDiffer after := by
  have others : ∀ other ∈ draft.projectReferences, other.target ≠ reference.target := by
    intro other other_mem same
    have spared := List.find?_eq_none.mp untracked other other_mem
    exact spared (decide_eq_true same)
  intro first first_mem second second_mem same
  rw [after_eq, OrderedSet.mem_insert] at first_mem second_mem
  rcases first_mem with first_old | rfl
  · rcases second_mem with second_old | rfl
    · exact differ first first_old second second_old same
    · exact absurd same (others first first_old)
  · rcases second_mem with second_old | rfl
    · exact absurd same.symm (others second second_old)
    · rfl

/-- Only an allowed action may add a target, and an action that is put off tracks what one that is
committed does. -/
theorem TargetsDiffer.act (differ : TargetsDiffer draft) {action : Action}
    (allowed : action.Allowed draft) :
    TargetsDiffer (action.later draft) ∧ TargetsDiffer (action.now draft) := by
  cases action with
  | addProjectReference reference => exact ⟨differ.insert allowed rfl, differ.insert allowed rfl⟩
  | removeProjectReference reference =>
    have erased : ∀ other ∈ draft.projectReferences.erase reference,
        other ∈ draft.projectReferences := fun other other_mem =>
      (OrderedSet.mem_erase.mp other_mem).1
    exact ⟨differ.of_subset erased, differ.of_subset erased⟩
  | insert collection _ _ _ => cases collection <;> exact ⟨differ, differ⟩
  | remove collection _ => cases collection <;> exact ⟨differ, differ⟩
  | _ => exact ⟨differ, differ⟩

theorem lasting_targetsDiffer (comparison : PathComparison) :
    Lasting comparison fun _ draft => TargetsDiffer draft where
  created _ _ tracked := absurd tracked (OrderedSet.not_mem_empty _)
  moved differ move := by
    cases move with
    | later _ allowed => exact (differ.act allowed).1
    | now _ _ _ allowed _ => exact (differ.act allowed).2
    | flush _ _ _ => exact differ
    | reload _ collection _ _ => cases collection <;> exact differ
    | batches _ => exact differ
  forgot target differ := differ.of_subset fun _ tracked => (OrderedSet.mem_filter.mp tracked).1

/-! ## Analyzers -/

theorem TracksAnalyzers.of_same (tracks : TracksAnalyzers project draft)
    (same : changed.analyzerReferences = project.analyzerReferences)
    (changes : after.changes.analyzerReferences = draft.changes.analyzerReferences)
    (analyzers : after.analyzerReferences = draft.analyzerReferences) :
    TracksAnalyzers changed after := by
  constructor
  · rw [same]
    exact tracks.distinct
  · rw [same, changes, analyzers]
    exact tracks.tracks

theorem TracksAnalyzers.later (tracks : TracksAnalyzers project draft) {action : Action}
    (allowed : action.Allowed draft) : TracksAnalyzers project (action.later draft) := by
  cases action with
  | addAnalyzer reference => exact ⟨tracks.distinct, tracks.tracks.add allowed⟩
  | removeAnalyzer reference => exact ⟨tracks.distinct, tracks.tracks.remove allowed⟩
  | insert collection _ _ _ => cases collection <;> exact tracks.of_same rfl rfl rfl
  | remove collection _ => cases collection <;> exact tracks.of_same rfl rfl rfl
  | _ => exact tracks.of_same rfl rfl rfl

theorem TracksAnalyzers.now (tracks : TracksAnalyzers project draft)
    (settled : draft.hasPending = false) {action : Action} (allowed : action.Allowed draft)
    (committed : (action.transition represent).effect closes project = .ok changed) :
    TracksAnalyzers changed (action.now draft) := by
  have nothing := changes_of_settled settled
  have others (elsewhere : (action.transition represent).part ≠ .analyzers) :
      changed.analyzerReferences = project.analyzerReferences :=
    Project.analyzers_of_sameBut (Transition.sameBut_of_effect committed) elsewhere
  have waiting := tracks.tracks
  rw [nothing] at waiting
  cases action with
  | addAnalyzer reference =>
    have added := Transition.analyzers_addAnalyzers (effects_single committed)
    have absent : reference ∉ project.analyzerReferences := by
      intro present
      rcases (waiting.committed_iff reference).mp present with ⟨known, _⟩ | waits
      · exact allowed known
      · exact OrderedSet.not_mem_empty _ waits
    constructor
    · rw [added, List.nodup_append]
      refine ⟨tracks.distinct, by simp, ?_⟩
      intro old old_mem added added_mem same
      rw [List.mem_singleton] at added_mem
      exact absent (added_mem ▸ same ▸ old_mem)
    · show draft.changes.analyzerReferences.Tracks (draft.analyzerReferences.insert reference) _
      rw [nothing]
      exact waiting.insert fun other => by
        rw [added]
        simp
  | removeAnalyzer reference =>
    have removed := Transition.analyzers_removeAnalyzers (effects_single committed)
    constructor
    · rw [removed]
      exact tracks.distinct.diff
    · show draft.changes.analyzerReferences.Tracks (draft.analyzerReferences.erase reference) _
      rw [nothing]
      exact waiting.erase fun other => by
        rw [removed, tracks.distinct.mem_sdiff_iff]
        simp
  | insert collection _ _ _ =>
    cases collection <;>
      exact tracks.of_same (others (by simp [Action.transition, Transition.part])) rfl rfl
  | remove collection _ =>
    cases collection <;>
      exact tracks.of_same (others (by simp [Action.transition, Transition.part])) rfl rfl
  | _ => exact tracks.of_same (others (by simp [Action.transition, Transition.part])) rfl rfl

theorem TracksAnalyzers.settle (tracks : TracksAnalyzers project draft)
    (committed : Transition.effects closes project (draft.planBy represent) = .ok changed) :
    TracksAnalyzers changed draft.settle.2 := by
  rw [Transition.planBy_eq, Transition.effects_append_ok] at committed
  obtain ⟨middle, documents_done, changes_done⟩ := committed
  have changed_eq := Transition.analyzers_changes changes_done
  rw [Transition.analyzers_effects (Transition.part_of_documentPlan_ne (by simp)) documents_done]
    at changed_eq
  have appended : (project.analyzerReferences ++
      draft.changes.analyzerReferences.added.elements).Nodup := by
    rw [List.nodup_append]
    refine ⟨tracks.distinct, draft.changes.analyzerReferences.added.nodup, ?_⟩
    rintro old old_mem added added_mem rfl
    exact tracks.tracks.not_committed added_mem old_mem
  constructor
  · rw [changed_eq]
    exact appended.diff
  · exact tracks.tracks.settle fun other => by
      rw [changed_eq, appended.mem_sdiff_iff, List.mem_append]
      rfl

theorem TracksAnalyzers.move (tracks : TracksAnalyzers project draft)
    (move : Move project draft drawn changed after) : TracksAnalyzers changed after := by
  cases move with
  | later _ allowed => exact tracks.later allowed
  | now closes represent settled allowed committed => exact tracks.now settled allowed committed
  | flush closes represent committed => exact tracks.settle committed
  | reload closes collection candidate committed =>
    have same := Project.analyzers_of_sameBut (Transition.sameBut_of_effect committed)
      (by simp [Transition.part])
    cases collection <;> exact tracks.of_same same rfl rfl
  | batches batches => exact tracks.of_same rfl rfl rfl

theorem analyzers_cutOff (target : ProjectId) (project : Project) :
    (Snapshot.cutOff target project).analyzerReferences = project.analyzerReferences := by
  rw [Snapshot.cutOff]
  split <;> rfl

theorem lasting_tracksAnalyzers (comparison : PathComparison) :
    Lasting comparison TracksAnalyzers where
  created _ :=
    { distinct := List.nodup_nil
      tracks := PendingSet.tracks_empty fun _ => List.not_mem_nil }
  moved tracks move := tracks.move move
  forgot target tracks := tracks.of_same (analyzers_cutOff target _) rfl rfl

/-! ## Properties -/

theorem TracksProperties.of_same (tracks : TracksProperties project draft)
    (same : changed.properties = project.properties)
    (changes : after.changes.properties = draft.changes.properties)
    (properties : after.properties = draft.properties) : TracksProperties changed after := by
  rw [TracksProperties, same, changes, properties]
  exact tracks

theorem TracksProperties.later (tracks : TracksProperties project draft) (action : Action) :
    TracksProperties project (action.later draft) := by
  cases action with
  | setProperty property =>
    show draft.properties.set property =
      (draft.changes.properties ++ [property]).foldl Properties.set project.properties
    rw [List.foldl_append, ← tracks]
    rfl
  | insert collection _ _ _ => cases collection <;> exact tracks
  | remove collection _ => cases collection <;> exact tracks
  | _ => exact tracks

theorem TracksProperties.now (tracks : TracksProperties project draft)
    (settled : draft.hasPending = false) {action : Action}
    (committed : (action.transition represent).effect closes project = .ok changed) :
    TracksProperties changed (action.now draft) := by
  have others (elsewhere : (action.transition represent).part ≠ .properties) :
      changed.properties = project.properties :=
    Project.properties_of_sameBut (Transition.sameBut_of_effect committed) elsewhere
  cases action with
  | setProperty property =>
    cases committed
    have nothing := changes_of_settled settled
    rw [TracksProperties, nothing] at tracks
    show draft.properties.set property =
      draft.changes.properties.foldl Properties.set (project.properties.set property)
    rw [nothing, tracks]
    rfl
  | insert collection _ _ _ =>
    cases collection <;>
      exact tracks.of_same (others (by simp [Action.transition, Transition.part])) rfl rfl
  | remove collection _ =>
    cases collection <;>
      exact tracks.of_same (others (by simp [Action.transition, Transition.part])) rfl rfl
  | _ => exact tracks.of_same (others (by simp [Action.transition, Transition.part])) rfl rfl

theorem TracksProperties.settle (tracks : TracksProperties project draft)
    (committed : Transition.effects closes project (draft.planBy represent) = .ok changed) :
    TracksProperties changed draft.settle.2 := by
  rw [Transition.planBy_eq, Transition.effects_append_ok] at committed
  obtain ⟨middle, documents_done, changes_done⟩ := committed
  have changed_eq := Transition.properties_changes changes_done
  rw [Transition.properties_effects (Transition.part_of_documentPlan_ne (by simp)) documents_done]
    at changed_eq
  exact tracks.trans changed_eq.symm

theorem TracksProperties.move (tracks : TracksProperties project draft)
    (move : Move project draft drawn changed after) : TracksProperties changed after := by
  cases move with
  | @later action _ _ => exact tracks.later action
  | now closes represent settled _ committed => exact tracks.now settled committed
  | flush closes represent committed => exact tracks.settle committed
  | reload closes collection candidate committed =>
    have same := Project.properties_of_sameBut (Transition.sameBut_of_effect committed)
      (by simp [Transition.part])
    cases collection <;> exact tracks.of_same same rfl rfl
  | batches batches => exact tracks

theorem properties_cutOff (target : ProjectId) (project : Project) :
    (Snapshot.cutOff target project).properties = project.properties := by
  rw [Snapshot.cutOff]
  split <;> rfl

theorem lasting_tracksProperties (comparison : PathComparison) :
    Lasting comparison TracksProperties where
  created _ := rfl
  moved tracks move := tracks.move move
  forgot target tracks := tracks.of_same (properties_cutOff target _) rfl rfl

end Draft

end CodeWorkspace
