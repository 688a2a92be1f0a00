import CodeWorkspace.Proofs.Session.Stale

/-!
# No reference is missed

A draft that keeps track of the references and analyzers of its project takes away only what the
project has.  So nothing that is submitted for such a draft fails because a reference is missing,
whatever the store refuses and whatever is wrong with the documents.
-/

namespace CodeWorkspace

/-- Whether a change cannot be made because a reference is not there. -/
def Fault.MissesReference : Fault → Prop
  | .referenceNotFound _ _ => True
  | _ => False

variable {fault : Fault}

/-! ## Transitions -/

namespace Project

variable {owner : ProjectId} {documents : Documents}

theorem not_missesReference_of_addEach {added : List Document}
    (failed : (addEach owner documents added).toExcept = .error fault) :
    ¬ fault.MissesReference := by
  induction added generalizing documents with
  | nil => cases failed
  | cons document rest ih =>
    rw [addEach] at failed
    split at failed
    · cases failed
      exact not_false
    · exact ih failed

theorem not_missesReference_of_removeEach {ids : List DocumentId}
    (failed : (removeEach owner documents ids).toExcept = .error fault) :
    ¬ fault.MissesReference := by
  induction ids generalizing documents with
  | nil => cases failed
  | cons id rest ih =>
    rw [removeEach] at failed
    split at failed
    · exact ih failed
    · cases failed
      exact not_false

end Project

namespace Transition

variable {closes : ProjectId → Bool} {project : Project}

/-- A transition of documents does not depend on any reference. -/
theorem not_missesReference_of_documents {transition : Transition}
    {collection : DocumentCollection} (part_eq : transition.part = .documents collection)
    (failed : transition.effect closes project = .error fault) : ¬ fault.MissesReference := by
  cases transition with
  | addDocuments there added =>
    simp only [effect, Project.addDocuments, Attempt.toExcept_map] at failed
    exact Project.not_missesReference_of_addEach (error_of_map failed)
  | removeDocuments there ids =>
    simp only [effect, Project.removeDocuments, Attempt.toExcept_map] at failed
    exact Project.not_missesReference_of_removeEach (error_of_map failed)
  | reloadDocument there id loader =>
    simp only [effect, Project.replaceLoader] at failed
    split at failed <;> cases failed
    exact not_false
  | _ => cases part_eq

theorem not_missesReference_of_documentPlan {transitions : List Transition}
    (documents : ∀ transition ∈ transitions,
      ∃ collection, transition.part = .documents collection)
    (failed : effects closes project transitions = .error fault) : ¬ fault.MissesReference := by
  induction transitions generalizing project with
  | nil => cases failed
  | cons transition rest ih =>
    rcases effects_cons_error failed with here | ⟨middle, _, later⟩
    · obtain ⟨_, part_eq⟩ := documents transition List.mem_cons_self
      exact not_missesReference_of_documents part_eq here
    · exact ih (fun other other_mem => documents other (List.mem_cons_of_mem _ other_mem)) later

theorem Stale.not_missesReference {represent : MetadataReference → Representation}
    {changes : ChangeSet} (stale : Stale closes represent project changes fault) :
    ¬ fault.MissesReference := by
  cases stale <;> exact not_false

end Transition

/-! ## The store -/

/-- The store finds a fault only with a change that comes to that fault. -/
theorem Store.fault_of_transform {store : Store} {id : ProjectId}
    {change : Snapshot → Except Fault Snapshot}
    (failed : (store.transform id change).1 = .error (.fault fault)) :
    change store.current = .error fault := by
  rw [transform] at failed
  split at failed
  · cases failed
  · split at failed <;> cases failed
    assumption

/-- The store finds a fault only with transitions that come to that fault on the project. -/
theorem Store.fault_of_submitted {store : Store} {id : ProjectId} {project : Project}
    (keyed : store.current.Keyed) (found : store.current.project? id = some project)
    {plan : Snapshot → List Transition}
    (failed : (store.transform id fun snapshot =>
      Transition.applyAll id snapshot (plan snapshot)).1 = .error (.fault fault)) :
    Transition.effects (store.current.closes id) project (plan store.current) = .error fault := by
  rcases (Transition.yields_applyAll keyed found (plan store.current)).cases with
    ⟨other, answered, refused⟩ | ⟨_, _, _, applied, _⟩
  · cases (fault_of_transform failed).symm.trans refused
    exact answered
  · cases (fault_of_transform failed).symm.trans applied

/-! ## Sessions -/

/-- A draft keeps track of what its project lists besides documents. -/
structure Draft.TracksLists (project : Project) (draft : Draft) : Prop where
  references : TracksReferences project draft
  analyzers : TracksAnalyzers project draft

theorem Draft.lasting_tracksLists (comparison : PathComparison) :
    Lasting comparison TracksLists where
  created info :=
    ⟨(lasting_tracksReferences comparison).created info,
      (lasting_tracksAnalyzers comparison).created info⟩
  moved tracks move := ⟨tracks.references.move move, tracks.analyzers.move move⟩
  forgot target tracks :=
    ⟨(lasting_tracksReferences comparison).forgot target tracks.references,
      (lasting_tracksAnalyzers comparison).forgot target tracks.analyzers⟩

namespace Session

variable {session ready after : Session} {project : Project} {edit : Edit}
  {drawn : List DocumentId}

/-- The draft of a session keeps track of what its project lists. -/
structure Informed (session : Session) (project : Project) : Prop where
  keyed : session.current.Keyed
  found : session.current.project? session.draft.id = some project
  tracks : Draft.TracksLists project session.draft

theorem Informed.advance (informed : session.Informed project)
    (advances : Advances drawn session after) : ∃ changed, after.Informed changed := by
  obtain ⟨changed, moves, replaced⟩ := advances.moves project informed.keyed informed.found
  refine ⟨changed, ?_, ?_,
    (Draft.lasting_tracksLists session.host.comparison).moves moves informed.tracks⟩
  · exact replaced.keyed informed.keyed
      (moves.project_id.trans (informed.keyed _ _ informed.found))
  · rw [moves.sameIdentity.id_eq]
    exact replaced.found

theorem Informed.withBatches (informed : session.Informed project) (batches : BatchCounter) :
    Informed { session with draft := { session.draft with batches } } project where
  keyed := informed.keyed
  found := informed.found
  tracks := (Draft.lasting_tracksLists session.host.comparison).moved informed.tracks
    (.batches batches)

/-- What is submitted fails only for a reason of the store. -/
theorem fault_of_submit {plan : Snapshot → List Transition} (keyed : session.current.Keyed)
    (found : session.current.project? session.draft.id = some project)
    (failed : (session.submit plan).1 = .error (.store (.fault fault))) :
    Transition.effects session.closing project (plan session.current) = .error fault := by
  refine Store.fault_of_submitted keyed found ?_
  cases outcome : session.host.store.transform session.draft.id fun snapshot =>
    Transition.applyAll session.draft.id snapshot (plan snapshot) with
  | mk result store =>
    simp only [submit, transform, outcome] at failed
    cases result with
    | error error =>
      cases failed
      rfl
    | ok done => cases failed

/-- Committing what waits misses no reference. -/
theorem Informed.not_missesReference_of_flush (informed : session.Informed project)
    (failed : session.flush.1 = .error (.store (.fault fault))) : ¬ fault.MissesReference := by
  rw [flush] at failed
  split at failed
  · split at failed
    · rename_i failure attempted outcome
      cases failed
      have effects := fault_of_submit informed.keyed informed.found (congrArg Prod.fst outcome)
      rw [Draft.plan_eq_planBy, Transition.planBy_eq] at effects
      rcases Transition.effects_append_error effects with here | ⟨middle, documents_done, later⟩
      · exact Transition.not_missesReference_of_documentPlan
          (fun _ => Transition.part_of_mem_documentPlan) here
      · exact (informed.tracks.references.stale_of_changes_error informed.tracks.analyzers
          session.sensible_represent documents_done later).not_missesReference
    · cases failed
  · cases failed

/-- An edit misses no reference once nothing waits. -/
theorem Informed.not_missesReference_of_reacts {reply : Reply Answer}
    (informed : ready.Informed project) (settled : ready.draft.hasPending = false)
    (reacts : ready.Reacts edit reply)
    (failed : reply.result = .error (.store (.fault fault))) : ¬ fault.MissesReference := by
  rw [Reacts] at reacts
  split at reacts
  · rename_i failure decided
    rw [reacts.1] at failed
    cases Except.error.inj failed
    exact absurd decided decide_ne_store
  · rw [reacts.1] at failed
    cases failed
  · rename_i action decided
    have accepted := accepted_of_decide decided
    rw [CarriesOut] at reacts
    split at reacts
    · rw [reacts.1] at failed
      cases failed
    · cases outcome : ready.host.store.transform ready.draft.id fun snapshot =>
        Transition.applyAll ready.draft.id snapshot
          [action.transition (ready.representing snapshot)] with
      | mk result store =>
        rw [outcome] at reacts
        cases result with
        | ok done =>
          rw [reacts.1] at failed
          cases failed
        | error error =>
          rw [reacts.1] at failed
          cases failed
          have effects := Store.fault_of_submitted informed.keyed informed.found
            (congrArg Prod.fst outcome)
          rw [Transition.effects_singleton] at effects
          by_cases elsewhere : ∀ collection,
            (action.transition (ready.representing ready.current)).part ≠ .documents collection
          · have open_target : ∀ reference, action = .addProjectReference reference →
                ready.closing reference.target = false := by
              rintro reference rfl
              cases accepted with
              | addProjectReference _ unclosed => exact unclosed
            obtain ⟨_, _, _, _, rfl⟩ := informed.tracks.references.listed_of_action_error
              informed.tracks.analyzers ready.sensible_represent settled accepted.allowed.1
              elsewhere open_target effects
            exact not_false
          · obtain ⟨collection, part_eq⟩ := not_forall_not.mp elsewhere
            exact Transition.not_missesReference_of_documents part_eq effects

theorem Informed.not_missesReference_of_flushAndNotify (informed : session.Informed project)
    (failed : session.flushAndNotify.1 = .error (.store (.fault fault))) :
    ¬ fault.MissesReference := by
  refine informed.not_missesReference_of_flush ?_
  rw [flushAndNotify] at failed
  split at failed <;> rename_i outcome <;> rw [outcome]
  · exact congrArg _ (Except.error.inj failed)
  · cases failed

theorem Informed.not_missesReference_of_update {operation : Session → Reply Answer}
    (informed : session.Informed project)
    (reacts : ∀ ready : Session, ready.Reacts edit (operation ready))
    (failed : (session.update operation).1 = .error (.store (.fault fault))) :
    ¬ fault.MissesReference := by
  rw [update] at failed
  split at failed
  · cases failed
  · by_cases batching : session.draft.isBatching = true
    · simp only [if_pos batching] at failed
      exact absurd failed (result_ne_store_of_batching (reacts session) batching)
    · simp only [if_neg batching] at failed
      rcases session.flush_cases with
        ⟨failure, stopped⟩ | ⟨notices, ready, done, advances, settled, _⟩
      · rw [stopped] at failed
        refine informed.not_missesReference_of_flush ?_
        rw [stopped]
        exact congrArg _ (Except.error.inj failed)
      · rw [done] at failed
        obtain ⟨changed, ready_informed⟩ := informed.advance advances
        exact ready_informed.not_missesReference_of_reacts settled (reacts ready) failed

theorem Informed.not_missesReference_of_reload (informed : session.Informed project)
    {collection : DocumentCollection} {path : String}
    (failed : (session.reload collection path).1 = .error (.store (.fault fault))) :
    ¬ fault.MissesReference := by
  rw [reload] at failed
  split at failed
  · cases failed
  · split at failed <;> rename_i outcome
    · cases failed
      have effects := fault_of_submit informed.keyed informed.found (congrArg Prod.fst outcome)
      rw [Transition.effects_singleton] at effects
      exact Transition.not_missesReference_of_documents rfl effects
    · cases failed

theorem Informed.not_missesReference_of_fileChanged (informed : session.Informed project)
    {path : String} (failed : (session.fileChanged path).1 = .error (.store (.fault fault))) :
    ¬ fault.MissesReference := by
  rw [fileChanged] at failed
  split at failed
  · cases failed
  · have advances := session.reload_advances .source path
    split at failed <;> rename_i outcome
    · have stopped : (session.reload .source path).1 = .error (.store (.fault fault)) := by
        rw [outcome]
        exact congrArg _ (Except.error.inj failed)
      exact informed.not_missesReference_of_reload stopped
    · rw [outcome] at advances
      obtain ⟨changed, first_informed⟩ := informed.advance advances
      split at failed <;> rename_i later
      · rename_i first _ _ _
        have stopped : (first.reload .additional path).1 = .error (.store (.fault fault)) := by
          rw [later]
          exact congrArg _ (Except.error.inj failed)
        exact first_informed.not_missesReference_of_reload stopped
      · cases failed

/-- No edit misses a reference. -/
theorem Informed.not_missesReference_of_perform (informed : session.Informed project)
    (failed : (session.perform edit).1 = .error (.store (.fault fault))) :
    ¬ fault.MissesReference := by
  by_cases mutation : edit.isMutation = true
  · cases objection : edit.objection? session.draft.id with
    | some failure =>
      rw [perform_of_objection objection] at failed
      cases Except.error.inj failed
      exact absurd objection objection?_ne_store
    | none =>
      obtain ⟨operation, performed, reacts⟩ := exists_operation mutation
      rw [performed session objection] at failed
      exact informed.not_missesReference_of_update reacts failed
  · cases edit with
    | commitPending =>
      have failed : session.commitPending.1 = .error (.store (.fault fault)) := error_of_map failed
      rw [commitPending] at failed
      split at failed
      · cases failed
      · split at failed
        · cases failed
        · exact informed.not_missesReference_of_flushAndNotify failed
    | fileChanged path => exact informed.not_missesReference_of_fileChanged (error_of_map failed)
    | _ => exact absurd rfl mutation

/-- Closing a batch misses no reference. -/
theorem Informed.not_missesReference_of_endBatch (informed : session.Informed project)
    (failed : session.endBatch.1 = .error (.store (.fault fault))) : ¬ fault.MissesReference := by
  rw [endBatch] at failed
  split at failed
  · exact (informed.withBatches _).not_missesReference_of_flushAndNotify failed
  · cases failed

theorem not_missesReference_of_removeProject
    (failed : session.removeProject.1 = .error (.store (.fault fault))) :
    ¬ fault.MissesReference := by
  rw [removeProject] at failed
  split at failed
  · cases failed
  · cases outcome : session.host.store.transform session.draft.id fun snapshot =>
      snapshot.removeProject session.draft.id with
    | mk result store =>
      simp only [transform, outcome] at failed
      cases result with
      | ok done => cases failed
      | error error =>
        cases failed
        have taken := Store.fault_of_transform (congrArg Prod.fst outcome)
        rw [Snapshot.removeProject] at taken
        split at taken <;> cases taken
        exact not_false

end Session

end CodeWorkspace
