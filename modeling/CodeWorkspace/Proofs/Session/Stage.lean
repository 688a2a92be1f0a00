import CodeWorkspace.Proofs.Session.Reload

/-!
# Stages of an operation

Every operation on a live project goes through two stages.  In a stage what waits is settled, an
action is put off, committed or given up, a document is loaded anew, or nothing of the kind is done;
each says what becomes of the documents, of the watches, and what the editor is told.
-/

namespace CodeWorkspace

/-- The identities of documents that are introduced. -/
def identities (given : List (DocumentCollection × Document)) : List DocumentId :=
  given.map fun new => new.2.id

theorem Edit.drawn_eq (edit : Edit) : edit.drawn = identities edit.introduced := by
  cases edit <;> rfl

/-- Two drafts with the same documents. -/
def Draft.SameDocuments (before after : Draft) : Prop :=
  ∀ collection, after.registry collection = before.registry collection

theorem Draft.SameDocuments.refl (draft : Draft) : draft.SameDocuments draft := fun _ => rfl

theorem Editor.notifyAll_append (project : ProjectId) (editor : Editor)
    (first second : List Notice) :
    editor.notifyAll project (first ++ second) =
      (editor.notifyAll project first).notifyAll project second := List.foldl_append

namespace Session

variable {session ready before after : Session} {edit : Edit}
  {given : List (DocumentCollection × Document)}

/-- What is done in a stage that may introduce some documents. -/
inductive Conduct (given : List (DocumentCollection × Document)) (before after : Session) :
    Prop where
  /-- The documents stay as they are. -/
  | rest (documents : before.draft.SameDocuments after.draft)
      (watcher : after.host.watcher = before.host.watcher)
      (editor : after.host.editor = before.host.editor)
  /-- An action is put off. -/
  | putOff {edit : Edit} {action : Draft.Action} (accepted : before.Accepted edit action)
      (introduced : edit.introduced = given)
      (documents : (action.later before.draft).SameDocuments after.draft)
      (watcher : after.host.watcher = action.watching before.draft before.host.watcher)
      (editor : after.host.editor = before.host.editor)
  /-- An action cannot be committed. -/
  | givenUp {edit : Edit} {action : Draft.Action} (accepted : before.Accepted edit action)
      (documents : before.draft.SameDocuments after.draft)
      (watcher : after.host.watcher = action.watchingStill before.draft before.host.watcher)
      (editor : after.host.editor = before.host.editor)
  /-- An action is committed. -/
  | committed {edit : Edit} {action : Draft.Action} (accepted : before.Accepted edit action)
      (introduced : edit.introduced = given) (settled : before.draft.hasPending = false)
      (documents : (action.now before.draft).SameDocuments after.draft)
      (watcher : after.host.watcher = action.watchingNow before.draft before.host.watcher)
      (editor : after.host.editor =
        before.host.editor.notifyAll before.draft.id (action.news before.draft))
  /-- What waits has been committed. -/
  | settled (documents : before.draft.settle.2.SameDocuments after.draft)
      (watcher : after.host.watcher = before.host.watcher)
      (editor : after.host.editor =
        before.host.editor.notifyAll before.draft.id before.draft.settle.1)
  /-- A document is loaded anew. -/
  | reloaded {collection : DocumentCollection} {path : String} {id : DocumentId} {loader : Loader}
      (candidate : (before.draft.registry collection).reloadCandidate? path = some (id, loader))
      (documents : (before.draft.withRegistry
        ((before.draft.registry collection).setLoader id loader) collection).SameDocuments
          after.draft)
      (watcher : after.host.watcher = before.host.watcher)
      (editor : after.host.editor = before.host.editor)

/-- A stage that may introduce some documents. -/
structure Stage (given : List (DocumentCollection × Document)) (before after : Session) :
    Prop where
  advances : ∃ part, part.Sublist (identities given) ∧ Advances part before after
  conduct : Conduct given before after

theorem Advances.stage (advances : Advances [] before after)
    (conduct : Conduct given before after) : Stage given before after :=
  ⟨⟨[], List.nil_sublist _, advances⟩, conduct⟩

theorem Stage.refl (given : List (DocumentCollection × Document)) (session : Session) :
    Stage given session session :=
  (Advances.refl session).stage (.rest (.refl _) rfl rfl)

/-! ## Committing what waits -/

theorem conduct_flush {notices : List Notice} {flushed : Session}
    (done : session.flush = (.ok notices, flushed)) :
    Conduct given session (flushed.notify notices) := by
  rw [flush] at done
  split at done
  · simp only [submit, transform] at done
    generalize session.host.store.transform session.draft.id _ = outcome at done
    obtain ⟨result, store⟩ := outcome
    cases result with
    | error error => cases done
    | ok finished =>
      cases done
      exact .settled (.refl _) rfl rfl
  · cases done
    exact .rest (.refl _) rfl rfl

theorem stage_of_flush_error {failure : Failure} {attempted : Session}
    (failed : session.flush = (.error failure, attempted)) : Stage given session attempted := by
  rcases session.flush_cases with ⟨_, outcome⟩ | ⟨_, _, outcome, _⟩
  · rw [failed] at outcome
    cases outcome
    exact Advances.stage (.of_same rfl rfl rfl rfl) (.rest (fun _ => rfl) rfl rfl)
  · rw [failed] at outcome
    cases outcome

theorem stage_of_flush_ok {notices : List Notice} {flushed : Session}
    (done : session.flush = (.ok notices, flushed)) :
    Stage given session (flushed.notify notices) ∧ flushed.draft.hasPending = false := by
  rcases session.flush_cases with ⟨_, outcome⟩ | ⟨_, _, outcome, first, settled, _⟩
  · rw [done] at outcome
    cases outcome
  · rw [done] at outcome
    cases outcome
    exact ⟨(first.trans (sameCore_notify flushed notices).advances).stage (conduct_flush done),
      settled⟩

theorem flushAndNotify_stage (session : Session) :
    Stage given session session.flushAndNotify.2 := by
  rw [flushAndNotify]
  split
  · rename_i failed
    exact stage_of_flush_error failed
  · rename_i done
    exact (stage_of_flush_ok done).1

/-! ## Edits -/

theorem notify_append (session : Session) (first second : List Notice) :
    session.notify (first ++ second) = (session.notify first).notify second := by
  simp only [notify, Host.notify, Editor.notifyAll_append]

/-- A project that is ready goes through a stage when it replies to an edit; the editor may have
to be told something else first. -/
theorem Responds.stage {reply : Reply Answer} (responds : ready.Responds edit reply)
    (settled : ready.draft.isBatching = true ∨ ready.draft.hasPending = false)
    (notices : List Notice) :
    Stage edit.introduced (ready.notify notices)
      (reply.session.notify (notices ++ reply.notices)) := by
  obtain ⟨drawn, drawn_sub, advances⟩ := responds.reacts.advances settled
  have told : SameCore (ready.notify notices) ready := ⟨rfl, rfl, rfl⟩
  have advances := told.advances.trans (advances.trans
    (sameCore_notify reply.session (notices ++ reply.notices)).advances)
  rw [List.append_nil, List.nil_append] at advances
  refine ⟨⟨drawn, edit.drawn_eq ▸ drawn_sub, advances⟩, ?_⟩
  have same_decision : (ready.notify notices).decide edit = ready.decide edit := by
    cases edit <;> rfl
  rw [Responds] at responds
  split at responds
  · rw [responds, notify_append]
    exact .rest (.refl _) rfl rfl
  · rw [responds, notify_append]
    exact .rest (.refl _) rfl rfl
  · rename_i action decided
    obtain ⟨outputs, _, rfl⟩ := responds
    have accepted := accepted_of_decide (same_decision.trans decided)
    rw [notify_append]
    simp only [carriedOut]
    split
    · refine .putOff accepted rfl (.refl _) rfl ?_
      simp only [answer, notify, Host.notify, (Draft.sameIdentity_later ready.draft action).id_eq]
      rfl
    · rename_i closed
      generalize ready.host.store.transform ready.draft.id _ = outcome
      obtain ⟨result, store⟩ := outcome
      cases result with
      | error error => exact .givenUp accepted (.refl _) rfl rfl
      | ok finished =>
        refine .committed accepted rfl (settled.resolve_left closed) (.refl _) rfl ?_
        simp only [notify, Host.notify, (Draft.sameIdentity_now ready.draft action).id_eq]

/-- An operation that replies to an edit goes through a stage in which what was left waiting is
committed, and one in which it replies. -/
theorem update_stages {operation : Session → Reply Answer}
    (responds : ∀ ready : Session, ready.Responds edit (operation ready))
    (live : session.draft.removed = false) :
    ∃ middle, Stage [] session middle ∧ Stage edit.introduced middle (session.update operation).2 ∧
      (middle.host.editor = session.host.editor ∨ middle.current = session.flush.2.current) := by
  have present : ¬ session.draft.removed = true := Bool.eq_false_iff.mp live
  rw [update, if_neg present]
  by_cases batching : session.draft.isBatching = true
  · simp only [if_pos batching]
    exact ⟨session, .refl [] session, (responds session).stage (Or.inl batching) [], Or.inl rfl⟩
  · simp only [if_neg batching]
    cases outcome : session.flush with
    | mk result flushed =>
      cases result with
      | error failure =>
        exact ⟨session, .refl [] session, stage_of_flush_error outcome, Or.inl rfl⟩
      | ok notices =>
        obtain ⟨first, settled⟩ := stage_of_flush_ok outcome
        exact ⟨_, first, (responds flushed).stage (Or.inr settled) notices, Or.inr rfl⟩

/-! ## Changes of files -/

theorem reload_stage (session : Session) (collection : DocumentCollection) (path : String) :
    Stage [] session (session.reload collection path).2 := by
  refine (session.reload_advances collection path).stage ?_
  rw [reload]
  split
  · exact .rest (.refl _) rfl rfl
  · rename_i id loader target
    have candidate : (session.draft.registry collection).reloadCandidate? path =
        some (id, loader) := by
      rw [reloadTarget?] at target
      split at target
      · cases target
      · exact target
    simp only [commit, submit, transform]
    generalize session.host.store.transform session.draft.id _ = outcome
    obtain ⟨result, store⟩ := outcome
    cases result with
    | error error => exact .rest (.refl _) rfl rfl
    | ok finished => exact .reloaded candidate (.refl _) rfl rfl

theorem fileChanged_stages (session : Session) (path : String) :
    ∃ middle, Stage [] session middle ∧ Stage [] middle (session.fileChanged path).2 ∧
      middle.host.editor = session.host.editor := by
  rw [fileChanged]
  split
  · exact ⟨session, .refl [] session, .refl [] session, rfl⟩
  · have first := session.reload_stage .source path
    have same_editor : (session.reload .source path).2.host.editor = session.host.editor :=
      (congrArg Host.editor (session.reload_effect .source path).1).trans rfl
    split
    · rename_i outcome
      rw [outcome] at first same_editor
      exact ⟨_, first, .refl [] _, same_editor⟩
    · rename_i inSources reached outcome
      rw [outcome] at first same_editor
      have second := reached.reload_stage .additional path
      split <;> rename_i later <;> rw [later] at second <;>
        exact ⟨reached, first, second, same_editor⟩

/-! ## Operations -/

/-- The number of open batches is of no concern to the documents. -/
theorem batches_stage (session : Session) (batches : BatchCounter) :
    Stage [] session { session with draft := { session.draft with batches } } :=
  (session.batches_advances batches).stage
    (.rest (fun collection => by cases collection <;> rfl) rfl rfl)

theorem perform_stages (live : session.draft.removed = false) (edit : Edit) :
    ∃ middle, Stage [] session middle ∧ Stage edit.introduced middle (session.perform edit).2 ∧
      (middle.host.editor = session.host.editor ∨ middle.current = session.flush.2.current) := by
  by_cases mutation : edit.isMutation = true
  · cases objection : edit.objection? session.draft.id with
    | some failure =>
      rw [perform_of_objection objection]
      exact ⟨session, .refl [] session, .refl _ session, Or.inl rfl⟩
    | none =>
      obtain ⟨operation, performed, responds⟩ := exists_response mutation
      rw [performed session objection]
      exact update_stages responds live
  · cases edit with
    | commitPending =>
      have present : ¬ session.draft.removed = true := Bool.eq_false_iff.mp live
      refine ⟨session, .refl [] session, ?_, Or.inl rfl⟩
      show Stage [] session session.commitPending.2
      rw [commitPending, if_neg present]
      split
      · exact .refl [] session
      · exact session.flushAndNotify_stage
    | fileChanged path =>
      obtain ⟨middle, first, second, same_editor⟩ := session.fileChanged_stages path
      exact ⟨middle, first, second, Or.inl same_editor⟩
    | _ => exact absurd rfl mutation

/-- Every operation on a live project goes through two stages.  The editor hears of the first one
only when what was left waiting has been committed in it on occasion of an edit. -/
theorem operate_stages (live : session.draft.removed = false) (operation : Operation) :
    ∃ middle, Stage [] session middle ∧
      Stage operation.introduced middle (session.operate operation) ∧
      (middle.host.editor = session.host.editor ∨
        (∃ edit, operation = .perform edit) ∧ middle.current = session.flush.2.current) := by
  cases operation with
  | perform edit =>
    obtain ⟨middle, first, second, heard⟩ := perform_stages live edit
    exact ⟨middle, first, second, heard.imp_right fun current => ⟨⟨edit, rfl⟩, current⟩⟩
  | beginBatch =>
    have present : ¬ session.draft.removed = true := Bool.eq_false_iff.mp live
    refine ⟨session, .refl [] session, ?_, Or.inl rfl⟩
    show Stage [] session session.beginBatch.2
    rw [beginBatch, if_neg present]
    exact session.batches_stage _
  | endBatch =>
    refine ⟨_, session.batches_stage session.draft.batches.exit, ?_, Or.inl rfl⟩
    show Stage [] _ session.endBatch.2
    rw [endBatch]
    split
    · exact flushAndNotify_stage _
    · exact .refl [] _

/-! ## What stages keep -/

variable {comparison : PathComparison} {project : Project}

/-- The registries of the draft mirror the documents of its project, and no document is in two of
them. -/
structure Mirrored (comparison : PathComparison) (session : Session) (project : Project) :
    Prop where
  keyed : session.current.Keyed
  found : session.current.project? session.draft.id = some project
  mirrors : session.draft.Mirrors comparison project
  separate : session.draft.Separate

/-- A stage that introduces each document once leaves the project there, and no other documents are
known after it. -/
theorem Stage.mirrored (stage : Stage given before after)
    (mirrored : before.Mirrored comparison project) (distinct : (identities given).Nodup)
    (fresh : ∀ id ∈ identities given, id ∉ before.draft.ids) :
    (∃ changed, after.Mirrored comparison changed) ∧ after.draft.id = before.draft.id ∧
      ∀ id ∈ after.draft.ids, id ∈ before.draft.ids ∨ id ∈ identities given := by
  obtain ⟨part, part_sub, advances⟩ := stage.advances
  obtain ⟨changed, moves, replaced⟩ := advances.moves project mirrored.keyed mirrored.found
  have kept := (Draft.kept_mirrors comparison).and (Draft.kept_separate comparison)
  obtain ⟨mirrors, separate⟩ := moves.keep kept.moved (distinct.sublist part_sub)
    (fun id id_mem => fresh id (part_sub.subset id_mem)) ⟨mirrored.mirrors, mirrored.separate⟩
  have id_eq := moves.sameIdentity.id_eq
  have changed_id := moves.project_id.trans (mirrored.keyed _ _ mirrored.found)
  refine ⟨⟨changed, replaced.keyed mirrored.keyed changed_id, ?_, mirrors, separate⟩, id_eq,
    fun id known => (moves.ids_subset known).imp_right fun new => part_sub.subset new⟩
  rw [id_eq]
  exact replaced.found

theorem Operation.drawn_eq (operation : Operation) :
    operation.drawn = identities operation.introduced := by
  cases operation with
  | perform edit => exact edit.drawn_eq
  | _ => rfl

end Session

end CodeWorkspace
