import CodeWorkspace.Proofs.Session.Commit

/-!
# What cannot be committed

Over a store that refuses nothing, an operation on a project whose draft is in step with it fails
for a reason of the store only if a change that was accepted is out of date: a metadata reference
that is to be added as itself is still listed, or the target of a reference that waits has come to
lead back to the project.
-/

namespace CodeWorkspace

/-- Putting a result into another form makes nothing fail. -/
theorem error_of_map {ε α β : Type} {result : Except ε α} {form : α → β} {failure : ε}
    (failed : result.map form = .error failure) : result = .error failure := by
  cases result with
  | error other => exact congrArg _ (Except.error.inj failed)
  | ok value => cases failed

namespace Session

variable {comparison : PathComparison} {session ready : Session} {project changed : Project}
  {edit : Edit} {action : Draft.Action} {fault : Fault} {error : StoreError}

/-- Why something that was accepted cannot be committed. -/
inductive Stale (session : Session) (project : Project) (edit? : Option Edit) : Fault → Prop where
  /-- A metadata reference is to be added as itself that the project lists already. -/
  | listed {reference : MetadataReference}
      (adds : reference ∈ session.draft.changes.metadataReferences.added ∨
        edit? = some (.addMetadataReference reference))
      (represented : session.represent reference = .content reference)
      (present : reference ∈ project.metadataReferences) :
      Stale session project edit? (.duplicateReference session.draft.id reference.path)
  /-- A reference to a project waits whose target has come to lead back to its source. -/
  | closing {reference : ProjectReference}
      (waits : reference ∈ session.draft.changes.projectReferences.added)
      (leads : Relation.ReflTransGen session.current.Refers reference.target session.draft.id) :
      Stale session project edit? (.cycleDetected session.draft.id reference.target)

theorem Tracked.stale (tracked : session.Tracked comparison project) (edit? : Option Edit)
    (stale : Transition.Stale session.closing session.represent project session.draft.changes
      fault) : session.Stale project edit? fault := by
  cases stale with
  | listed waits represented present =>
    cases session.sensible_represent.same _ _ represented
    rw [tracked.id_eq]
    exact .listed (Or.inl waits) represented present
  | closing waits closed =>
    rw [closing, Snapshot.closes, Snapshot.wouldCreateCycle_ofSnapshot tracked.keyed,
      Snapshot.closes_iff_chain] at closed
    rw [tracked.id_eq]
    exact .closing waits closed

theorem decide_ne_store : session.decide edit ≠ .error (.store error) := by
  intro decided
  cases edit with
  | addFile collection path kind folders id =>
    have refused := error_of_map decided
    rw [Registry.ensureCanAdd] at refused
    split at refused <;> cases refused
  | removeFile collection path =>
    have refused := error_of_map decided
    rw [Registry.lookupPath] at refused
    split at refused <;> cases refused
  | addBuffer collection held path? kind folders id =>
    have refused := error_of_map decided
    rw [Registry.ensureCanAdd] at refused
    split at refused <;> cases refused
  | removeBuffer collection held =>
    have refused := error_of_map decided
    rw [Registry.lookupBuffer] at refused
    split at refused <;> cases refused
  | addProjectReference reference =>
    simp only [decide] at decided
    split at decided <;> first | cases decided | (split at decided <;> cases decided)
  | commitPending => cases decided
  | fileChanged path => cases decided
  | _ =>
    simp only [decide] at decided
    split at decided <;> cases decided

theorem objection?_ne_store {owner : ProjectId} : edit.objection? owner ≠ some (.store error) := by
  cases edit <;> simp [Edit.objection?]

theorem result_ne_store_of_batching {reply : Reply Answer} (reacts : session.Reacts edit reply)
    (batching : session.draft.isBatching = true) : reply.result ≠ .error (.store error) := by
  intro failed
  rw [Reacts] at reacts
  split at reacts
  · rename_i failure decided
    rw [reacts.1] at failed
    cases Except.error.inj failed
    exact decide_ne_store decided
  · rw [reacts.1] at failed
    cases failed
  · rw [CarriesOut, if_pos batching] at reacts
    rw [reacts.1] at failed
    cases failed

theorem Tracked.advance {drawn : List DocumentId} {after : Session}
    (tracked : session.Tracked comparison project) (advances : Advances drawn session after)
    (distinct : drawn.Nodup) (fresh : ∀ id ∈ drawn, id ∉ session.draft.ids) :
    ∃ changed, after.Tracked comparison changed := by
  obtain ⟨changed, moves, replaced⟩ := advances.moves project tracked.keyed tracked.found
  refine ⟨changed, fun attempt => ?_, ?_, ?_, ?_⟩
  · rw [advances.refusals]
    exact tracked.accepting attempt
  · exact replaced.keyed tracked.keyed (moves.project_id.trans tracked.id_eq)
  · rw [moves.sameIdentity.id_eq]
    exact replaced.found
  · exact moves.keep (Draft.kept_inStep comparison).moved distinct fresh tracked.inStep

/-- An action that a session is ready for fails for a reason of the store only if it adds a
metadata reference that is still listed. -/
theorem Ready.stale_of_reacts_error {reply : Reply Answer}
    (readied : session.Ready comparison project ready changed) (reacts : ready.Reacts edit reply)
    (fresh : ∀ id ∈ edit.drawn, id ∉ session.draft.ids)
    (failed : reply.result = .error (.store error)) :
    ∃ fault, error = .fault fault ∧ session.Stale project (some edit) fault := by
  rw [Reacts] at reacts
  split at reacts
  · rename_i failure decided
    rw [reacts.1] at failed
    cases Except.error.inj failed
    exact absurd decided decide_ne_store
  · rw [reacts.1] at failed
    cases failed
  · rename_i action decided
    have accepted := accepted_of_decide decided
    obtain ⟨allowed, drawn_eq⟩ := accepted.allowed
    rw [CarriesOut] at reacts
    split at reacts
    · rw [reacts.1] at failed
      cases failed
    · have tracked := readied.tracked
      rcases Store.transform_accepting tracked.accepting tracked.keyed tracked.found
        fun snapshot => [action.transition (representing ready snapshot)] with
        ⟨fault, effects, stopped⟩ | ⟨after, next, effects, committed, _⟩
      · rw [stopped] at reacts
        rw [reacts.1] at failed
        cases failed
        rw [Transition.effects_singleton] at effects
        have open_target : ∀ reference, action = .addProjectReference reference →
            ready.closing reference.target = false := by
          rintro reference rfl
          cases accepted with
          | addProjectReference _ unclosed => exact unclosed
        obtain ⟨reference, rfl, represented, present, rfl⟩ :=
          tracked.inStep.listed_of_action_error ready.sensible_represent readied.settled allowed
            (fun id drawn known => fresh id (drawn_eq ▸ drawn) (readied.ids id known)) open_target
            effects
        cases accepted
        refine ⟨_, rfl, ?_⟩
        rw [tracked.id_eq, readied.id_eq]
        rw [readied.represent_eq] at represented
        exact .listed (Or.inr rfl) represented (readied.listed reference present allowed)
      · rw [committed] at reacts
        rw [reacts.1] at failed
        cases failed

theorem Tracked.stale_of_update_error {operation : Session → Reply Answer}
    (tracked : session.Tracked comparison project)
    (reacts : ∀ ready : Session, ready.Reacts edit (operation ready))
    (fresh : ∀ id ∈ edit.drawn, id ∉ session.draft.ids)
    (failed : (session.update operation).1 = .error (.store error)) :
    ∃ fault, error = .fault fault ∧ session.Stale project (some edit) fault := by
  rw [update] at failed
  split at failed
  · cases failed
  · by_cases batching : session.draft.isBatching = true
    · simp only [if_pos batching] at failed
      exact absurd failed (result_ne_store_of_batching (reacts session) batching)
    · simp only [if_neg batching] at failed
      rcases tracked.ready_cases with
        ⟨fault, attempted, stopped, stale⟩ | ⟨notices, ready, changed, done, readied⟩
      · rw [stopped] at failed
        cases failed
        exact ⟨fault, rfl, tracked.stale (some edit) stale⟩
      · rw [done] at failed
        exact readied.stale_of_reacts_error (reacts ready) fresh failed

theorem Tracked.stale_of_flush_error (tracked : session.Tracked comparison project)
    (edit? : Option Edit) (failed : session.flushAndNotify.1 = .error (.store error)) :
    ∃ fault, error = .fault fault ∧ session.Stale project edit? fault := by
  rw [flushAndNotify] at failed
  rcases tracked.ready_cases with ⟨fault, attempted, stopped, stale⟩ | ⟨notices, ready, _, done, _⟩
  · rw [stopped] at failed
    cases failed
    exact ⟨fault, rfl, tracked.stale edit? stale⟩
  · rw [done] at failed
    cases failed

/-- Loading a document anew cannot fail. -/
theorem Tracked.reload_completes (tracked : session.Tracked comparison project)
    (collection : DocumentCollection) (path : String) :
    ∃ happened, (session.reload collection path).1 = .ok happened := by
  rw [reload]
  split
  · exact ⟨false, rfl⟩
  · rename_i id loader target
    rw [reloadTarget?] at target
    split at target
    · cases target
    · obtain ⟨changed, completed⟩ : ∃ changed, (Transition.reloadDocument collection id
          loader).effect session.closing project = .ok changed :=
        tracked.inStep.reload_completes target
      simp only [commit, submit, transform]
      rcases Store.transform_accepting tracked.accepting tracked.keyed tracked.found
        fun _ => [.reloadDocument collection id loader] with
        ⟨fault, effects, _⟩ | ⟨after, next, _, committed, _⟩
      · rw [Transition.effects_singleton] at effects
        cases completed.symm.trans effects
      · rw [committed]
        exact ⟨true, rfl⟩

theorem Tracked.fileChanged_completes (tracked : session.Tracked comparison project)
    (path : String) : ∃ happened, (session.fileChanged path).1 = .ok happened := by
  rw [fileChanged]
  split
  · exact ⟨false, rfl⟩
  · have first_advances := session.reload_advances .source path
    obtain ⟨inSources, first_done⟩ := tracked.reload_completes .source path
    cases outcome : session.reload .source path with
    | mk result first =>
      rw [outcome] at first_advances first_done
      cases first_done
      obtain ⟨changed, first_tracked⟩ := tracked.advance first_advances List.nodup_nil
        fun _ drawn => absurd drawn List.not_mem_nil
      obtain ⟨inAdditional, second_done⟩ := first_tracked.reload_completes .additional path
      cases later : first.reload .additional path with
      | mk result second =>
        rw [later] at second_done
        cases second_done
        simp only [later]
        exact ⟨_, rfl⟩

/-- An edit fails for a reason of the store only if something is stale. -/
theorem Tracked.stale_of_perform_error (tracked : session.Tracked comparison project)
    (fresh : ∀ id ∈ edit.drawn, id ∉ session.draft.ids)
    (failed : (session.perform edit).1 = .error (.store error)) :
    ∃ fault, error = .fault fault ∧ session.Stale project (some edit) fault := by
  by_cases mutation : edit.isMutation = true
  · cases objection : edit.objection? session.draft.id with
    | some failure =>
      rw [perform_of_objection objection] at failed
      cases Except.error.inj failed
      exact absurd objection objection?_ne_store
    | none =>
      obtain ⟨operation, performed, reacts⟩ := exists_operation mutation
      rw [performed session objection] at failed
      exact tracked.stale_of_update_error reacts fresh failed
  · cases edit with
    | commitPending =>
      have failed : session.commitPending.1 = .error (.store error) := error_of_map failed
      rw [commitPending] at failed
      split at failed
      · cases failed
      · split at failed
        · cases failed
        · exact tracked.stale_of_flush_error _ failed
    | fileChanged path =>
      obtain ⟨happened, done⟩ := tracked.fileChanged_completes path
      simp only [perform, answering, done] at failed
      cases failed
    | _ => exact absurd rfl mutation

/-- Closing a batch fails for a reason of the store only if something is stale. -/
theorem Tracked.stale_of_endBatch_error (tracked : session.Tracked comparison project)
    (failed : session.endBatch.1 = .error (.store error)) :
    ∃ fault, error = .fault fault ∧ session.Stale project none fault := by
  rw [endBatch] at failed
  split at failed
  · let left : Session :=
      { session with draft := { session.draft with batches := session.draft.batches.exit } }
    have left_tracked : left.Tracked comparison project := tracked.withBatches _
    obtain ⟨fault, rfl, stale⟩ := left_tracked.stale_of_flush_error none failed
    refine ⟨fault, rfl, ?_⟩
    cases stale with
    | listed adds represented present => exact .listed adds represented present
    | closing waits leads => exact .closing waits leads
  · cases failed

end Session

end CodeWorkspace
