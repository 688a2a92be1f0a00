import CodeWorkspace.Proofs.FlushPlan.Outcome
import CodeWorkspace.Proofs.PendingSet.Tracking
import CodeWorkspace.Proofs.Session.Advance
import CodeWorkspace.Proofs.Transition.Target

/-!
# Drafts that avoid a project

A draft avoids a project if nothing that it tracks and nothing that waits in it refers to the
project.  It goes on to do so unless it is told to add a reference to the project, and what it
submits then makes no project refer to it, unless a metadata reference stands for such a reference.
-/

namespace CodeWorkspace

/-- Whether an edit adds no reference to a project. -/
def Edit.Spares (target : ProjectId) : Edit → Prop
  | .addProjectReference reference => reference.target ≠ target
  | _ => True

namespace Draft

variable {draft after : Draft} {target : ProjectId} {edit : Edit} {action : Action}
  {ready : Session} {represent : MetadataReference → Representation}

/-- Nothing that a draft tracks or that waits in it refers to a project. -/
structure Avoids (target : ProjectId) (draft : Draft) : Prop where
  tracked : ∀ reference ∈ draft.projectReferences, reference.target ≠ target
  added : ∀ reference ∈ draft.changes.projectReferences.added, reference.target ≠ target
  removed : ∀ reference ∈ draft.changes.projectReferences.removed, reference.target ≠ target

theorem avoids_ofInfo (target : ProjectId) (comparison : PathComparison) (info : ProjectInfo) :
    Avoids target (.ofInfo comparison info) where
  tracked _ tracked := absurd tracked (OrderedSet.not_mem_empty _)
  added _ waits := absurd waits (OrderedSet.not_mem_empty _)
  removed _ leaves := absurd leaves (OrderedSet.not_mem_empty _)

theorem Avoids.of_same (avoids : draft.Avoids target)
    (tracked : after.projectReferences = draft.projectReferences)
    (changes : after.changes.projectReferences = draft.changes.projectReferences) :
    after.Avoids target where
  tracked := tracked ▸ avoids.tracked
  added := changes ▸ avoids.added
  removed := changes ▸ avoids.removed

/-- A draft that has forgotten a project avoids it. -/
theorem avoids_forgetReferencesTo (draft : Draft) (target : ProjectId) :
    (draft.forgetReferencesTo target).Avoids target where
  tracked _ tracked := by simpa using (OrderedSet.mem_filter.mp tracked).2
  added _ waits := by simpa using (OrderedSet.mem_filter.mp waits).2
  removed _ leaves := by simpa using (OrderedSet.mem_filter.mp leaves).2

theorem Avoids.forgetReferencesTo (avoids : draft.Avoids target) (other : ProjectId) :
    (draft.forgetReferencesTo other).Avoids target where
  tracked reference tracked := avoids.tracked reference (OrderedSet.mem_filter.mp tracked).1
  added reference waits := avoids.added reference (OrderedSet.mem_filter.mp waits).1
  removed reference leaves := avoids.removed reference (OrderedSet.mem_filter.mp leaves).1

theorem Avoids.settle (avoids : draft.Avoids target) : draft.settle.2.Avoids target where
  tracked := avoids.tracked
  added _ waits := absurd waits (OrderedSet.not_mem_empty _)
  removed _ leaves := absurd leaves (OrderedSet.not_mem_empty _)

theorem Avoids.withRegistry (avoids : draft.Avoids target) (registry : Registry)
    (collection : DocumentCollection) : (draft.withRegistry registry collection).Avoids target := by
  cases collection <;> exact avoids.of_same rfl rfl

/-! ## Actions -/

/-- What an edit that adds no reference to a project is accepted as adds none. -/
theorem target_ne_of_accepted (spares : edit.Spares target) (accepted : ready.Accepted edit action)
    {reference : ProjectReference} (adds : action = .addProjectReference reference) :
    reference.target ≠ target := by
  cases accepted <;> cases adds
  exact spares

theorem Avoids.later (avoids : draft.Avoids target)
    (spares : ∀ reference, action = .addProjectReference reference → reference.target ≠ target)
    (allowed : action.Allowed draft) : (action.later draft).Avoids target := by
  cases action with
  | insert collection document buffer? watch? => exact avoids.withRegistry _ collection
  | remove collection id => exact avoids.withRegistry _ collection
  | addProjectReference reference =>
    refine ⟨fun other tracked => ?_, fun other waits => ?_, fun other leaves => ?_⟩
    · rcases OrderedSet.mem_insert.mp tracked with old | rfl
      · exact avoids.tracked other old
      · exact spares other rfl
    · rcases PendingSet.mem_added_of_add waits with old | rfl
      · exact avoids.added other old
      · exact spares other rfl
    · exact avoids.removed other (PendingSet.mem_removed_of_add leaves)
  | removeProjectReference reference =>
    refine ⟨fun other tracked => ?_, fun other waits => ?_, fun other leaves => ?_⟩
    · exact avoids.tracked other (OrderedSet.mem_erase.mp tracked).1
    · exact avoids.added other (PendingSet.mem_added_of_remove waits)
    · rcases PendingSet.mem_removed_of_remove leaves with old | rfl
      · exact avoids.removed other old
      · exact avoids.tracked other allowed
  | _ => exact avoids.of_same rfl rfl

theorem Avoids.now (avoids : draft.Avoids target)
    (spares : ∀ reference, action = .addProjectReference reference → reference.target ≠ target) :
    (action.now draft).Avoids target := by
  cases action with
  | insert collection document buffer? watch? => exact avoids.withRegistry _ collection
  | remove collection id => exact avoids.withRegistry _ collection
  | addProjectReference reference =>
    refine ⟨fun other tracked => ?_, avoids.added, avoids.removed⟩
    rcases OrderedSet.mem_insert.mp tracked with old | rfl
    · exact avoids.tracked other old
    · exact spares other rfl
  | removeProjectReference reference =>
    exact ⟨fun other tracked => avoids.tracked other (OrderedSet.mem_erase.mp tracked).1,
      avoids.added, avoids.removed⟩
  | _ => exact avoids.of_same rfl rfl

/-! ## What is submitted -/

theorem target?_transition_ne
    (spares : ∀ reference, action = .addProjectReference reference → reference.target ≠ target)
    (represented : ∀ reference line, represent reference = .structural line →
      line.target ≠ target) : (action.transition represent).target? ≠ some target := by
  have converted (reference : MetadataReference) :
      (Transition.addReference (represent reference)).target? ≠ some target := by
    cases outcome : represent reference with
    | content kept => simp [Transition.target?]
    | structural line =>
      simpa [Transition.target?] using represented reference line outcome
  cases action with
  | addMetadataReference reference => exact converted reference
  | addProjectReference reference =>
    simpa [Action.transition, Transition.target?] using spares reference rfl
  | _ => simp [Action.transition, Transition.target?]

theorem Avoids.target?_planBy_ne (avoids : draft.Avoids target)
    (represented : ∀ reference line, represent reference = .structural line →
      line.target ≠ target) :
    ∀ transition ∈ draft.planBy represent, transition.target? ≠ some target := by
  intro transition planned
  rw [Transition.planBy_eq, List.mem_append] at planned
  rcases planned with documents | changes
  · obtain ⟨collection, part_eq⟩ := Transition.part_of_mem_documentPlan documents
    rw [Transition.target?_of_documents part_eq]
    simp
  · simp only [FlushPlan.changes, List.mem_append, List.mem_map, Function.comp] at changes
    rcases changes with (((((⟨reference, _, rfl⟩ | ⟨_, _, rfl⟩) | ⟨reference, waits, rfl⟩) |
      ⟨_, _, rfl⟩) | ⟨_, _, rfl⟩) | ⟨_, _, rfl⟩) | ⟨_, _, rfl⟩
    · have added : ((Action.addMetadataReference reference).transition represent).target? ≠
          some target := target?_transition_ne (by simp) represented
      exact added
    · simp [Transition.target?]
    · simpa [Transition.target?] using avoids.added reference waits
    all_goals simp [Transition.target?]

end Draft

end CodeWorkspace
