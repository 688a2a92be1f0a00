import CodeWorkspace.Proofs.Draft.InStep
import CodeWorkspace.Proofs.Reconciliation.Conversion

/-!
# Committing against a store that refuses nothing

A store that refuses nothing accepts what a project submits unless the transitions fail on the
current snapshot.  For a draft in step with its project that happens only if what waits, or the
metadata reference that is being added, has become stale.
-/

namespace CodeWorkspace

/-! ## Representing metadata references -/

theorem sensible_reconcile (owner : ProjectId) (index : OutputIndex) (snapshot : Snapshot) :
    Draft.Sensible (snapshot.closes owner) fun reference =>
      reconcile owner reference index snapshot where
  same reference kept represented := by
    rw [reconcile] at represented
    split at represented <;> cases represented
    rfl
  unclosed _ _ represented := (reconcile_eq_structural_iff.mp represented).2

/-- What a store that refuses nothing makes of transitions is what they come to on the project. -/
theorem Store.transform_accepting {store : Store} {id : ProjectId} {project : Project}
    (accepting : ∀ attempt, store.refusals attempt = none) (keyed : store.current.Keyed)
    (found : store.current.project? id = some project) (plan : Snapshot → List Transition) :
    (∃ fault, Transition.effects (store.current.closes id) project (plan store.current) =
        .error fault ∧
      (store.transform id fun snapshot => Transition.applyAll id snapshot (plan snapshot)) =
        (.error (.fault fault), { store with attempts := store.attempts + 1 })) ∨
    ∃ changed next, Transition.effects (store.current.closes id) project (plan store.current) =
        .ok changed ∧
      (store.transform id fun snapshot => Transition.applyAll id snapshot (plan snapshot)) =
        (.ok (), next) ∧
      store.current.Replaced id changed next.current ∧ next.refusals = store.refusals := by
  rw [transform, accepting]
  rcases (Transition.yields_applyAll keyed found (plan store.current)).cases with
    ⟨fault, answered, refused⟩ | ⟨changed, next, answered, applied, replaced, -⟩
  · rw [answered, refused]
    exact Or.inl ⟨fault, rfl, rfl⟩
  · rw [answered, applied]
    exact Or.inr ⟨changed, _, rfl, rfl, replaced.withVersion _, rfl⟩

namespace Session

variable {comparison : PathComparison} {session ready : Session} {project changed : Project}
  {edit : Edit} {action : Draft.Action} {fault : Fault} {error : StoreError}

/-- A session whose draft is in step with its project, over a store that refuses nothing. -/
structure Tracked (comparison : PathComparison) (session : Session) (project : Project) :
    Prop where
  accepting : ∀ attempt, session.host.store.refusals attempt = none
  keyed : session.current.Keyed
  found : session.current.project? session.draft.id = some project
  inStep : session.draft.InStep comparison project

/-- Which references of the project close a cycle in the current snapshot. -/
def closing (session : Session) (target : ProjectId) : Bool :=
  session.current.closes session.draft.id target

/-- How metadata references are represented in the current snapshot. -/
def represent (session : Session) (reference : MetadataReference) : Representation :=
  session.representing session.current reference

theorem Tracked.id_eq (tracked : session.Tracked comparison project) :
    project.id = session.draft.id := tracked.keyed _ _ tracked.found

theorem sensible_represent (session : Session) :
    Draft.Sensible session.closing session.represent :=
  sensible_reconcile session.draft.id session.host.outputs session.current

/-- A session after its project was replaced represents metadata references as before. -/
theorem represent_replaced (keyed : session.current.Keyed) (id_eq : changed.id = session.draft.id)
    (replaced : session.current.Replaced session.draft.id changed ready.current)
    (same_id : ready.draft.id = session.draft.id)
    (outputs : ready.host.outputs = session.host.outputs) :
    ready.represent = session.represent := by
  funext reference
  simp only [represent, representing, same_id, outputs]
  exact reconcile_replaced replaced keyed id_eq reference _

theorem closing_replaced (keyed : session.current.Keyed) (id_eq : changed.id = session.draft.id)
    (replaced : session.current.Replaced session.draft.id changed ready.current)
    (same_id : ready.draft.id = session.draft.id) : ready.closing = session.closing := by
  funext target
  rw [closing, closing, same_id]
  exact congrFun (replaced.closes_eq keyed id_eq) target

/-- A session is tracked after a move of its draft if its store followed. -/
theorem Tracked.move {drawn : List DocumentId} {reached : Session}
    (tracked : session.Tracked comparison project)
    (move : Draft.Move project session.draft drawn changed reached.draft)
    (fresh : ∀ id ∈ drawn, id ∉ session.draft.ids)
    (replaced : session.current.Replaced session.draft.id changed reached.current)
    (refusals : reached.host.store.refusals = session.host.store.refusals) :
    reached.Tracked comparison changed where
  accepting attempt := by
    rw [refusals]
    exact tracked.accepting attempt
  keyed := replaced.keyed tracked.keyed (move.moves.project_id.trans tracked.id_eq)
  found := by
    rw [move.sameIdentity.id_eq]
    exact replaced.found
  inStep := (Draft.kept_inStep comparison).moved tracked.inStep fresh move

theorem Tracked.withBatches (tracked : session.Tracked comparison project)
    (batches : BatchCounter) :
    Tracked comparison { session with draft := { session.draft with batches } } project :=
  tracked.move (.batches batches) (fun _ drawn => absurd drawn List.not_mem_nil)
    (.refl tracked.found) rfl

/-- What waits has been committed. -/
structure Flushed (session : Session) (project changed : Project) (flushed : Session) : Prop where
  committed : Transition.effects session.closing project (session.draft.planBy session.represent) =
    .ok changed
  draft : flushed.draft = session.draft.settle.2
  replaced : session.current.Replaced session.draft.id changed flushed.current
  refusals : flushed.host.store.refusals = session.host.store.refusals
  outputs : flushed.host.outputs = session.host.outputs

theorem Flushed.move {flushed : Session} (done : session.Flushed project changed flushed) :
    Draft.Move project session.draft [] changed flushed.draft := by
  rw [done.draft]
  exact .flush _ _ done.committed

theorem Flushed.tracked {flushed : Session} (done : session.Flushed project changed flushed)
    (tracked : session.Tracked comparison project) : flushed.Tracked comparison changed :=
  tracked.move done.move (fun _ drawn => absurd drawn List.not_mem_nil) done.replaced
    done.refusals

/-- Committing what waits succeeds, or something is stale. -/
theorem Tracked.flush_cases (tracked : session.Tracked comparison project) :
    (∃ fault attempted, session.flush = (.error (.store (.fault fault)), attempted) ∧
      Transition.Stale session.closing session.represent project session.draft.changes fault) ∨
    session.draft.hasPending = false ∧ session.flush = (.ok [], session) ∨
    ∃ changed notices flushed, session.flush = (.ok notices, flushed) ∧
      session.Flushed project changed flushed := by
  rw [flush]
  cases pending : session.draft.hasPending with
  | false => exact Or.inr (Or.inl ⟨rfl, rfl⟩)
  | true =>
    simp only [if_true, submit, transform]
    rcases Store.transform_accepting tracked.accepting tracked.keyed tracked.found
      (session.draft.plan session.host.outputs) with
      ⟨fault, effects, failed⟩ | ⟨changed, next, effects, committed, replaced, refusals⟩
    · rw [failed]
      exact Or.inl ⟨fault, _, rfl, tracked.inStep.stale_of_plan_error
        session.sensible_represent effects⟩
    · rw [committed]
      exact Or.inr (Or.inr ⟨changed, _, _, rfl, effects, rfl, replaced, refusals, rfl⟩)

/-! ## Getting ready -/

/-- A session that is ready for an operation, after what waited has been committed if anything
did. -/
structure Ready (comparison : PathComparison) (session : Session) (project : Project)
    (ready : Session) (changed : Project) : Prop where
  tracked : ready.Tracked comparison changed
  settled : ready.draft.hasPending = false
  batching : ready.draft.isBatching = session.draft.isBatching
  id_eq : ready.draft.id = session.draft.id
  represent_eq : ready.represent = session.represent
  ids : ∀ id ∈ ready.draft.ids, id ∈ session.draft.ids
  /-- What the project lists besides what is tracked was there before. -/
  listed : ∀ reference ∈ changed.metadataReferences,
    reference ∉ ready.draft.metadataReferences → reference ∈ project.metadataReferences

theorem Tracked.ready_of_settled (tracked : session.Tracked comparison project)
    (settled : session.draft.hasPending = false) :
    session.Ready comparison project session project :=
  ⟨tracked, settled, rfl, rfl, rfl, fun _ known => known, fun _ listed _ => listed⟩

theorem Flushed.ready_of_tracked {flushed : Session}
    (done : session.Flushed project changed flushed)
    (tracked : session.Tracked comparison project) :
    session.Ready comparison project flushed changed := by
  have changed_id := (Transition.id_eq_of_effects done.committed).trans tracked.id_eq
  have id_eq : flushed.draft.id = session.draft.id := done.move.sameIdentity.id_eq
  refine ⟨done.tracked tracked, ?_, ?_, id_eq, ?_, ?_, ?_⟩
  · rw [done.draft]
    exact hasPending_settle _
  · rw [done.draft]
    rfl
  · exact represent_replaced tracked.keyed changed_id done.replaced id_eq done.outputs
  · intro id known
    exact (done.move.ids_subset known).resolve_right List.not_mem_nil
  · intro reference present untracked
    obtain ⟨committed, metadata⟩ := tracked.inStep.references.metadata
    have planned := done.committed
    rw [Transition.planBy_eq, Transition.effects_append_ok] at planned
    obtain ⟨middle, documents_done, changes_done⟩ := planned
    have lists := Transition.lists_changes (tracked.inStep.references.booked.lists.of_same
      (Transition.references_effects (Transition.part_of_documentPlan_ne (by simp))
        documents_done)) changes_done
    rw [lists.metadata_eq] at present
    rcases List.mem_append.mp (List.diff_subset _ _ present) with old | added
    · exact old
    · obtain ⟨other, waits, content⟩ := List.mem_filterMap.mp added
      rw [session.sensible_represent.content?_eq] at content
      split at content <;> cases content
      rw [done.draft] at untracked
      exact absurd (metadata.added_tracked reference waits) untracked

/-- Outside of a batch a session gets ready, or something is stale. -/
theorem Tracked.ready_cases (tracked : session.Tracked comparison project) :
    (∃ fault attempted, session.flush = (.error (.store (.fault fault)), attempted) ∧
      Transition.Stale session.closing session.represent project session.draft.changes fault) ∨
    ∃ notices ready changed, session.flush = (.ok notices, ready) ∧
      session.Ready comparison project ready changed := by
  rcases tracked.flush_cases with failed | ⟨settled, stays⟩ | ⟨changed, notices, flushed, done⟩
  · exact Or.inl failed
  · exact Or.inr ⟨[], session, project, stays, tracked.ready_of_settled settled⟩
  · exact Or.inr ⟨notices, flushed, changed, done.1, done.2.ready_of_tracked tracked⟩

end Session

end CodeWorkspace
