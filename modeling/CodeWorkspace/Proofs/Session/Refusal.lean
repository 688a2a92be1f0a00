import CodeWorkspace.Proofs.Host.Upkeep
import CodeWorkspace.Proofs.Session.Perform
import CodeWorkspace.Proofs.Workspace.Change

/-!
# Operations that are turned down

An operation keeps the index of outputs and the watcher in order, whether it succeeds or not.  If
it is turned down nothing that can be observed has changed: what was done before the store was
asked, a watch that was taken or a property that was replaced, has been undone.
-/

namespace CodeWorkspace

namespace Session

variable {α β : Type} {before between after session ready watched : Session} {edit : Edit}
  {failure : Failure}

/-- The index of outputs and the watcher stay in order. -/
structure Upholds (before after : Session) : Prop where
  numbered : before.host.watcher.Numbered → after.host.watcher.Numbered
  elsewhere : OutputIndex.SameElsewhere before.draft.id before.host.outputs after.host.outputs
  shows : before.host.outputs.Shows before.draft.id before.draft.properties →
    after.host.outputs.Shows after.draft.id after.draft.properties
  occupied : before.host.outputs.Occupied → after.host.outputs.Occupied
  same_comparison : after.host.comparison = before.host.comparison
  same_id : after.draft.id = before.draft.id

theorem Upholds.of_same (outputs : after.host.outputs = before.host.outputs)
    (watcher : after.host.watcher = before.host.watcher)
    (properties : after.draft.properties = before.draft.properties)
    (same_id : after.draft.id = before.draft.id) : Upholds before after where
  numbered numbered := watcher ▸ numbered
  elsewhere other key _ := by rw [outputs]
  shows shows := by
    rw [outputs, properties, same_id]
    exact shows
  occupied occupied := outputs ▸ occupied
  same_comparison := congrArg OutputIndex.comparison outputs
  same_id := same_id

theorem Upholds.refl (session : Session) : Upholds session session := .of_same rfl rfl rfl rfl

theorem Upholds.trans (first : Upholds before between) (second : Upholds between after) :
    Upholds before after where
  numbered numbered := second.numbered (first.numbered numbered)
  elsewhere other key differs :=
    (second.elsewhere other key (first.same_id ▸ differs)).trans (first.elsewhere other key differs)
  shows shows := second.shows (first.shows shows)
  occupied occupied := second.occupied (first.occupied occupied)
  same_comparison := second.same_comparison.trans first.same_comparison
  same_id := second.same_id.trans first.same_id

/-- The index of outputs and the watcher are in order. -/
structure InOrder (session : Session) : Prop where
  numbered : session.host.watcher.Numbered
  shows : session.host.outputs.Shows session.draft.id session.draft.properties

/-- Nothing that can be observed in a session has changed.  Attempts may have been made, and
tokens of the watcher may have been used up. -/
structure Unchanged (before after : Session) : Prop where
  draft : after.draft = before.draft
  current : after.current = before.current
  log : after.host.store.log = before.host.store.log
  editor : after.host.editor = before.host.editor
  active : after.host.watcher.active = before.host.watcher.active
  feed : after.host.watcher.feed = before.host.watcher.feed
  publishes : ∀ project key,
    after.host.outputs.Publishes project key ↔ before.host.outputs.Publishes project key

theorem Unchanged.refl (session : Session) : Unchanged session session :=
  ⟨rfl, rfl, rfl, rfl, rfl, rfl, fun _ _ => Iff.rfl⟩

theorem Unchanged.trans (first : Unchanged before between) (second : Unchanged between after) :
    Unchanged before after where
  draft := second.draft.trans first.draft
  current := second.current.trans first.current
  log := second.log.trans first.log
  editor := second.editor.trans first.editor
  active := second.active.trans first.active
  feed := second.feed.trans first.feed
  publishes project key := (second.publishes project key).trans (first.publishes project key)

theorem unchanged_attempted (session : Session) : Unchanged session { session with
    host := { session.host with store := { session.host.store with
      attempts := session.host.store.attempts + 1 } } } :=
  ⟨rfl, rfl, rfl, rfl, rfl, rfl, fun _ _ => Iff.rfl⟩

/-! ## Replies -/

/-- A reply keeps everything in order, and nothing has changed if it is a refusal. -/
structure Careful (ready : Session) (reply : Reply α) : Prop where
  upholds : Upholds ready reply.session
  unchanged : ∀ failure, reply.result = .error failure → ready.InOrder →
    reply.notices = [] ∧ Unchanged ready reply.session

theorem Careful.map {reply : Reply α} (careful : Careful ready reply) (form : α → β) :
    Careful ready (reply.map form) where
  upholds := careful.upholds
  unchanged failure refused := by
    obtain ⟨result, notices, session⟩ := reply
    cases result with
    | error other => exact careful.unchanged other rfl
    | ok value => cases refused

theorem careful_refuse (ready : Session) (failure : Failure) :
    Careful ready (ready.refuse (α := α) failure) where
  upholds := .refl ready
  unchanged _ _ _ := ⟨rfl, .refl ready⟩

theorem Careful.of_ok {reply : Reply α} {value : α} (completed : reply.result = .ok value)
    (upholds : Upholds ready reply.session) : Careful ready reply where
  upholds := upholds
  unchanged failure refused := by
    rw [completed] at refused
    cases refused

/-- Putting a change of references off or committing it. -/
theorem careful_submitOrDefer (ready : Session) (defer : ChangeSet → ChangeSet)
    (plan : Snapshot → List Transition) {track : Draft → Draft}
    (properties : ∀ draft, (track draft).properties = draft.properties)
    (same_id : ∀ draft, (track draft).id = draft.id) :
    Careful ready (ready.submitOrDefer defer plan track) := by
  rw [submitOrDefer]
  split
  · exact .of_ok rfl (.of_same rfl rfl (properties _) (same_id _))
  · simp only [submit, transform]
    rcases ready.host.store.transform_cases ready.draft.id fun snapshot =>
      Transition.applyAll ready.draft.id snapshot (plan snapshot) with
      ⟨error, failed⟩ | ⟨next, _, committed⟩
    · rw [failed]
      exact ⟨.of_same rfl rfl rfl rfl, fun _ _ _ => ⟨rfl, unchanged_attempted ready⟩⟩
    · rw [committed]
      exact .of_ok rfl (.of_same rfl rfl (properties _) (same_id _))

@[simp]
theorem properties_withRegistry (draft : Draft) (registry : Registry)
    (collection : DocumentCollection) :
    (draft.withRegistry registry collection).properties = draft.properties := by
  cases collection <;> rfl

@[simp]
theorem id_withRegistry (draft : Draft) (registry : Registry)
    (collection : DocumentCollection) : (draft.withRegistry registry collection).id = draft.id := by
  cases collection <;> rfl

/-- A document was added whose file was not watched for it. -/
theorem careful_insertDocument (ready : Session) (collection : DocumentCollection)
    (document : Document) (buffer? : Option BufferId) :
    Careful ready (ready.insertDocument collection document buffer? none) := by
  simp only [insertDocument]
  split
  · exact .of_ok rfl (.of_same rfl rfl (properties_withRegistry _ _ _) (id_withRegistry _ _ _))
  · simp only [commit, submit, transform]
    rcases ready.host.store.transform_cases ready.draft.id fun snapshot =>
      Transition.applyAll ready.draft.id snapshot [.addDocuments collection [document]] with
      ⟨error, failed⟩ | ⟨next, _, committed⟩
    · rw [failed]
      exact ⟨.of_same rfl rfl rfl rfl, fun _ _ _ => ⟨rfl, unchanged_attempted ready⟩⟩
    · rw [committed]
      exact .of_ok rfl
        (.of_same rfl rfl (properties_withRegistry _ _ _) (id_withRegistry _ _ _))

/-- A file is watched from now on. -/
theorem upholds_watch (path : String) (outputs : after.host.outputs = before.host.outputs)
    (watcher : after.host.watcher = (before.host.watcher.watch path).2)
    (properties : after.draft.properties = before.draft.properties)
    (same_id : after.draft.id = before.draft.id) : Upholds before after where
  numbered numbered := watcher ▸ numbered.watch path
  elsewhere other key _ := by rw [outputs]
  shows shows := by
    rw [outputs, properties, same_id]
    exact shows
  occupied occupied := outputs ▸ occupied
  same_comparison := congrArg OutputIndex.comparison outputs
  same_id := same_id

/-- A document was added whose file is watched from now on, unless the document is refused. -/
theorem careful_insertDocument_watched (ready : Session) (collection : DocumentCollection)
    (document : Document) (path : String) :
    Careful ready (insertDocument
      { ready with host := { ready.host with watcher := (ready.host.watcher.watch path).2 } }
      collection document none (some ⟨ready.host.watcher.next⟩)) := by
  simp only [insertDocument]
  split
  · exact .of_ok rfl (upholds_watch path rfl rfl (properties_withRegistry _ _ _)
      (id_withRegistry _ _ _))
  · simp only [commit, submit, transform]
    rcases ready.host.store.transform_cases ready.draft.id fun snapshot =>
      Transition.applyAll ready.draft.id snapshot [.addDocuments collection [document]] with
      ⟨error, failed⟩ | ⟨next, _, committed⟩
    · rw [failed]
      refine ⟨⟨fun numbered => (numbered.watch path).unwatch _, fun _ _ _ => Iff.rfl, id, id, rfl,
        rfl⟩, fun _ _ inOrder => ⟨rfl, rfl, rfl, rfl, rfl, ?_, rfl, fun _ _ => Iff.rfl⟩⟩
      exact inOrder.numbered.active_unwatch_watch path
    · rw [committed]
      exact .of_ok rfl (upholds_watch path rfl rfl (properties_withRegistry _ _ _)
        (id_withRegistry _ _ _))

theorem upholds_release (token? : Option WatchToken) (outputs : after.host.outputs =
      before.host.outputs) (watcher : after.host.watcher = before.host.watcher)
    (properties : after.draft.properties = before.draft.properties)
    (same_id : after.draft.id = before.draft.id) : Upholds before (after.release token?) where
  numbered numbered := (watcher ▸ numbered).unwatchAll _
  elsewhere other key _ := by
    show after.host.outputs.Publishes other key ↔ _
    rw [outputs]
  shows shows := by
    show after.host.outputs.Shows after.draft.id after.draft.properties
    rw [outputs, properties, same_id]
    exact shows
  occupied occupied := outputs ▸ occupied
  same_comparison := congrArg OutputIndex.comparison outputs
  same_id := same_id

theorem careful_removeDocument (ready : Session) (collection : DocumentCollection)
    (id : DocumentId) : Careful ready (ready.removeDocument collection id) := by
  simp only [removeDocument]
  split
  · exact .of_ok rfl
      (upholds_release _ rfl rfl (properties_withRegistry _ _ _) (id_withRegistry _ _ _))
  · simp only [commit, submit, transform]
    rcases ready.host.store.transform_cases ready.draft.id fun snapshot =>
      Transition.applyAll ready.draft.id snapshot [.removeDocuments collection [id]] with
      ⟨error, failed⟩ | ⟨next, _, committed⟩
    · rw [failed]
      exact ⟨.of_same rfl rfl rfl rfl, fun _ _ _ => ⟨rfl, unchanged_attempted ready⟩⟩
    · rw [committed]
      exact .of_ok rfl
        (upholds_release _ rfl rfl (properties_withRegistry _ _ _) (id_withRegistry _ _ _))

theorem upholds_replaceProperty (session : Session) (property : Property) :
    Upholds session (session.replaceProperty property) where
  numbered numbered := numbered
  elsewhere := OutputIndex.sameElsewhere_follow _
  shows shows := shows.follow property
  occupied occupied := occupied.follow _ _ _
  same_comparison := comparison_follow _ _ _ _
  same_id := rfl

/-! ## Edits -/

/-- An edit is carried out by an operation that is careful. -/
structure Carefully (edit : Edit) (operation : Session → Reply Answer) : Prop where
  performed : ∀ session : Session, session.perform edit =
    session.heeding (edit.objection? session.draft.id) operation
  careful : ∀ ready : Session, ready.Careful (operation ready)

theorem exists_carefully_addFile (collection : DocumentCollection) (path : String)
    (kind : SourceKind) (folders : List String) (id : DocumentId) :
    ∃ operation, Carefully (.addFile collection path kind folders id) operation := by
  refine ⟨_, fun session => answering_guarded _ _ _, fun ready => Careful.map ?_ _⟩
  cases (ready.draft.registry collection).ensureCanAdd (some path) none with
  | error failure => exact careful_refuse ready failure
  | ok free => exact careful_insertDocument_watched ready collection _ path

theorem exists_carefully_removeFile (collection : DocumentCollection) (path : String) :
    ∃ operation, Carefully (.removeFile collection path) operation := by
  refine ⟨_, fun session => answering_guarded _ _ _, fun ready => Careful.map ?_ _⟩
  cases (ready.draft.registry collection).lookupPath path with
  | error failure => exact careful_refuse ready failure
  | ok id => exact careful_removeDocument ready collection id

theorem exists_carefully_addBuffer (collection : DocumentCollection) (held : BufferId)
    (path? : Option String) (kind : SourceKind) (folders : List String) (id : DocumentId) :
    ∃ operation, Carefully (.addBuffer collection held path? kind folders id) operation := by
  refine ⟨_, fun session => answering_guarded _ _ _, fun ready => Careful.map ?_ _⟩
  cases (ready.draft.registry collection).ensureCanAdd path? (some held) with
  | error failure => exact careful_refuse ready failure
  | ok free => exact careful_insertDocument ready collection _ _

theorem exists_carefully_removeBuffer (collection : DocumentCollection) (held : BufferId) :
    ∃ operation, Carefully (.removeBuffer collection held) operation := by
  refine ⟨_, fun session => answering_update _ _ _, fun ready => Careful.map ?_ _⟩
  cases (ready.draft.registry collection).lookupBuffer held with
  | error failure => exact careful_refuse ready failure
  | ok id => exact careful_removeDocument ready collection id

theorem exists_carefully_addMetadataReference (reference : MetadataReference) :
    ∃ operation, Carefully (.addMetadataReference reference) operation := by
  refine ⟨_, fun session => answering_guarded _ _ _, fun ready => Careful.map ?_ _⟩
  split
  · exact careful_refuse ready _
  · exact careful_submitOrDefer ready _ _ (fun _ => rfl) fun _ => rfl

theorem exists_carefully_removeMetadataReference (reference : MetadataReference) :
    ∃ operation, Carefully (.removeMetadataReference reference) operation := by
  refine ⟨_, fun session => answering_guarded _ _ _, fun ready => Careful.map ?_ _⟩
  split
  · exact careful_submitOrDefer ready _ _ (fun _ => rfl) fun _ => rfl
  · exact careful_refuse ready _

theorem exists_carefully_addProjectReference (reference : ProjectReference) :
    ∃ operation, Carefully (.addProjectReference reference) operation := by
  refine ⟨_, fun session => answering_guarded _ _ _, fun ready => Careful.map ?_ _⟩
  split
  · exact careful_refuse ready _
  · split
    · exact careful_refuse ready _
    · exact careful_submitOrDefer ready _ _ (fun _ => rfl) fun _ => rfl

theorem exists_carefully_removeProjectReference (target : ProjectId) :
    ∃ operation, Carefully (.removeProjectReference target) operation := by
  refine ⟨_, fun session => answering_update _ _ _, fun ready => Careful.map ?_ _⟩
  cases ready.draft.referenceTo? target with
  | none => exact careful_refuse ready _
  | some reference => exact careful_submitOrDefer ready _ _ (fun _ => rfl) fun _ => rfl

theorem exists_carefully_addAnalyzer (path : String) :
    ∃ operation, Carefully (.addAnalyzer path) operation := by
  refine ⟨_, fun session => answering_guarded _ _ _, fun ready => Careful.map ?_ _⟩
  by_cases present : (⟨path⟩ : AnalyzerReference) ∈ ready.draft.analyzerReferences
  · rw [if_pos present]
    exact careful_refuse ready _
  · rw [if_neg present]
    exact careful_submitOrDefer ready _ _ (fun _ => rfl) fun _ => rfl

theorem exists_carefully_removeAnalyzer (path : String) :
    ∃ operation, Carefully (.removeAnalyzer path) operation := by
  refine ⟨_, fun session => answering_guarded _ _ _, fun ready => Careful.map ?_ _⟩
  by_cases present : (⟨path⟩ : AnalyzerReference) ∈ ready.draft.analyzerReferences
  · rw [if_pos present]
    exact careful_submitOrDefer ready _ _ (fun _ => rfl) fun _ => rfl
  · rw [if_neg present]
    exact careful_refuse ready _

theorem exists_carefully_setProperty (property : Property) :
    ∃ operation, Carefully (.setProperty property) operation := by
  refine ⟨_, fun session => answering_guarded _ _ _, fun ready => Careful.map ?_ _⟩
  by_cases held : ready.draft.properties.holds property = true
  · rw [if_pos held]
    exact .of_ok rfl (.refl ready)
  · rw [if_neg held]
    have replaced := ready.upholds_replaceProperty property
    split
    · exact .of_ok rfl (replaced.trans (.of_same rfl rfl rfl rfl))
    · simp only [commit, submit, transform]
      have same_store : (ready.replaceProperty property).host.store = ready.host.store := rfl
      have same_id : (ready.replaceProperty property).draft.id = ready.draft.id := rfl
      rw [same_store, same_id]
      rcases ready.host.store.transform_cases ready.draft.id fun snapshot =>
        Transition.applyAll ready.draft.id snapshot [.setProperty property] with
        ⟨error, failed⟩ | ⟨next, _, committed⟩
      · rw [failed]
        let attempted : Session := { ready.replaceProperty property with
          host := { (ready.replaceProperty property).host with
            store := { ready.host.store with attempts := ready.host.store.attempts + 1 } } }
        have unsettled : Upholds (ready.replaceProperty property) attempted :=
          .of_same rfl rfl rfl rfl
        have upholds : Upholds ready
            (attempted.replaceProperty (ready.draft.properties.now property)) :=
          (replaced.trans unsettled).trans (attempted.upholds_replaceProperty _)
        have restored := Properties.set_set_now ready.draft.properties property
        refine ⟨upholds, fun _ _ inOrder => ⟨rfl, ?_, rfl, rfl, rfl, rfl, rfl, fun _ _ => ?_⟩⟩
        · exact congrArg (fun properties => { ready.draft with properties }) restored
        · have shown := upholds.shows inOrder.shows
          rw [show (attempted.replaceProperty _).draft.properties = _ from restored] at shown
          exact OutputIndex.publishes_iff_of_shows inOrder.shows shown
            ((comparison_follow _ _ _ _).trans (comparison_follow _ _ _ _)) upholds.elsewhere
      · rw [committed]
        exact .of_ok rfl (replaced.trans (.of_same rfl rfl rfl rfl))

/-- Every mutation is a careful operation. -/
theorem exists_carefully (mutation : edit.isMutation = true) :
    ∃ operation, Carefully edit operation := by
  cases edit with
  | addFile collection path kind folders id => exact exists_carefully_addFile _ _ _ _ _
  | removeFile collection path => exact exists_carefully_removeFile _ _
  | addBuffer collection held path? kind folders id => exact exists_carefully_addBuffer _ _ _ _ _ _
  | removeBuffer collection held => exact exists_carefully_removeBuffer _ _
  | addMetadataReference reference => exact exists_carefully_addMetadataReference _
  | removeMetadataReference reference => exact exists_carefully_removeMetadataReference _
  | addProjectReference reference => exact exists_carefully_addProjectReference _
  | removeProjectReference target => exact exists_carefully_removeProjectReference _
  | addAnalyzer path => exact exists_carefully_addAnalyzer _
  | removeAnalyzer path => exact exists_carefully_removeAnalyzer _
  | setProperty property => exact exists_carefully_setProperty _
  | commitPending => cases mutation
  | fileChanged path => cases mutation

/-! ## What keeps everything in order -/

theorem upholds_notify (session : Session) (notices : List Notice) :
    Upholds session (session.notify notices) := .of_same rfl rfl rfl rfl

/-- What waits cannot be committed and nothing has changed, or it has been committed, or nothing
waits. -/
theorem flush_outcomes (session : Session) :
    (∃ failure attempted, session.flush = (.error failure, attempted) ∧
      Unchanged session attempted) ∨
    session.draft.hasPending = false ∧ session.flush = (.ok [], session) ∨
    session.draft.hasPending = true ∧ ∃ notices flushed, session.flush = (.ok notices, flushed) := by
  rw [flush]
  cases session.draft.hasPending with
  | false => exact Or.inr (Or.inl ⟨rfl, rfl⟩)
  | true =>
    simp only [if_true, submit, transform]
    rcases session.host.store.transform_cases session.draft.id fun snapshot =>
      Transition.applyAll session.draft.id snapshot
        (session.draft.plan session.host.outputs snapshot) with
      ⟨error, failed⟩ | ⟨next, _, committed⟩
    · rw [failed]
      exact Or.inl ⟨_, _, rfl, unchanged_attempted session⟩
    · rw [committed]
      exact Or.inr (Or.inr ⟨trivial, _, _, rfl⟩)

theorem upholds_flush (session : Session) : Upholds session session.flush.2 := by
  rw [flush]
  split
  · simp only [submit, transform]
    rcases session.host.store.transform_cases session.draft.id fun snapshot =>
      Transition.applyAll session.draft.id snapshot
        (session.draft.plan session.host.outputs snapshot) with
      ⟨error, failed⟩ | ⟨next, _, committed⟩
    · rw [failed]
      exact .of_same rfl rfl rfl rfl
    · rw [committed]
      exact .of_same rfl rfl rfl rfl
  · exact .refl session

theorem upholds_flushAndNotify (session : Session) :
    Upholds session session.flushAndNotify.2 :=
  holds_flushAndNotify session.upholds_flush fun _ _ upholds => upholds.trans (upholds_notify _ _)

theorem upholds_update {operation : Session → Reply Answer}
    (careful : ∀ ready : Session, ready.Careful (operation ready)) (session : Session) :
    Upholds session (session.update operation).2 :=
  holds_update (.refl session) session.upholds_flush
    (fun _ _ upholds => upholds.trans (upholds_notify _ _))
    fun ready _ upholds => upholds.trans (careful ready).upholds

theorem upholds_reload (session : Session) (collection : DocumentCollection) (path : String) :
    Upholds session (session.reload collection path).2 := by
  obtain ⟨host, effect⟩ := session.reload_effect collection path
  refine .of_same (by rw [host]) (by rw [host]) ?_ ?_
  · rcases effect with ⟨draft, _⟩ | ⟨_, _, _, _, _, draft, _⟩ <;> rw [draft]
    exact properties_withRegistry _ _ _
  · rcases effect with ⟨draft, _⟩ | ⟨_, _, _, _, _, draft, _⟩ <;> rw [draft]
    exact id_withRegistry _ _ _

theorem upholds_fileChanged (session : Session) (path : String) :
    Upholds session (session.fileChanged path).2 :=
  holds_fileChanged (.refl session) fun reached collection upholds =>
    upholds.trans (reached.upholds_reload collection path)

theorem upholds_commitPending (session : Session) : Upholds session session.commitPending.2 := by
  rw [commitPending]
  split
  · exact .refl session
  · split
    · exact .refl session
    · exact session.upholds_flushAndNotify

theorem upholds_perform (session : Session) (edit : Edit) :
    Upholds session (session.perform edit).2 := by
  by_cases mutation : edit.isMutation = true
  · obtain ⟨operation, performed, careful⟩ := exists_carefully mutation
    rw [performed]
    cases objection : edit.objection? session.draft.id with
    | some failure => exact .refl session
    | none => exact upholds_update careful session
  · cases edit with
    | commitPending => exact session.upholds_commitPending
    | fileChanged path => exact session.upholds_fileChanged path
    | _ => exact absurd rfl mutation

/-- Every operation keeps the index of outputs and the watcher in order. -/
theorem upholds_operate (session : Session) (operation : Operation) :
    Upholds session (session.operate operation) := by
  cases operation with
  | perform edit => exact session.upholds_perform edit
  | beginBatch =>
    show Upholds session session.beginBatch.2
    rw [beginBatch]
    split
    · exact .refl session
    · exact .of_same rfl rfl rfl rfl
  | endBatch =>
    show Upholds session session.endBatch.2
    let left : Session :=
      { session with draft := { session.draft with batches := session.draft.batches.exit } }
    have closed : Upholds session left := .of_same rfl rfl rfl rfl
    rw [endBatch]
    split
    · exact closed.trans (upholds_flushAndNotify left)
    · exact closed

/-! ## Refusals -/

/-- An operation that is refused has changed nothing, or nothing beyond what waited outside of a
batch, which has been committed. -/
theorem unchanged_of_update_error {operation : Session → Reply Answer}
    (careful : ∀ ready : Session, ready.Careful (operation ready))
    (live : session.draft.removed = false) (inOrder : session.InOrder)
    (refused : (session.update operation).1 = .error failure) :
    Unchanged session (session.update operation).2 ∨
    session.draft.isBatching = false ∧ session.draft.hasPending = true ∧
      (session.perform .commitPending).1 = .ok .done ∧
      Unchanged (session.perform .commitPending).2 (session.update operation).2 := by
  have alive : ¬ session.draft.removed = true := by simp [live]
  -- what is left is told of what was committed before
  have left (ready : Session) (notices : List Notice) (inOrder : ready.InOrder)
      (turned_down : (operation ready).result = .error failure) :
      Unchanged (ready.notify notices)
        ((operation ready).session.notify (notices ++ (operation ready).notices)) := by
    obtain ⟨silent, same⟩ := (careful ready).unchanged failure turned_down inOrder
    rw [silent, List.append_nil]
    refine ⟨same.draft, same.current, same.log, ?_, same.active, same.feed, same.publishes⟩
    show (operation ready).session.host.editor.notifyAll (operation ready).session.draft.id
      notices = ready.host.editor.notifyAll ready.draft.id notices
    rw [same.editor, same.draft]
  rw [update, if_neg alive] at refused ⊢
  by_cases batching : session.draft.isBatching = true
  · simp only [if_pos batching] at refused ⊢
    exact Or.inl (left session [] inOrder refused)
  · simp only [if_neg batching] at refused ⊢
    rcases session.flush_outcomes with
      ⟨_, attempted, failed, same⟩ | ⟨_, stays⟩ | ⟨pending, notices, flushed, done⟩
    · rw [failed]
      exact Or.inl same
    · rw [stays] at refused ⊢
      exact Or.inl (left session [] inOrder refused)
    · rw [done] at refused ⊢
      have upholds := session.upholds_flush
      rw [done] at upholds
      have committed : session.perform .commitPending = (.ok .done, flushed.notify notices) := by
        simp only [perform, finishing, answering, commitPending, if_neg alive, if_neg batching,
          flushAndNotify, done]
        rfl
      rw [committed]
      exact Or.inr ⟨Bool.eq_false_iff.mpr batching, pending, rfl, left flushed notices
        ⟨upholds.numbered inOrder.numbered, upholds.shows inOrder.shows⟩ refused⟩

/-- A mutation that is refused has changed nothing, or nothing beyond what waited outside of a
batch, which has been committed. -/
theorem unchanged_of_perform_error (mutation : edit.isMutation = true)
    (inOrder : session.draft.removed = false → session.InOrder)
    (refused : (session.perform edit).1 = .error failure) :
    Unchanged session (session.perform edit).2 ∨
    session.draft.isBatching = false ∧ session.draft.hasPending = true ∧
      (session.perform .commitPending).1 = .ok .done ∧
      Unchanged (session.perform .commitPending).2 (session.perform edit).2 := by
  obtain ⟨operation, performed, careful⟩ := exists_carefully mutation
  rw [performed] at refused ⊢
  cases objection : edit.objection? session.draft.id with
  | some failure => exact Or.inl (.refl session)
  | none =>
    simp only [objection, heeding] at refused ⊢
    cases removed : session.draft.removed with
    | true =>
      rw [update, if_pos removed]
      exact Or.inl (.refl session)
    | false =>
      exact unchanged_of_update_error careful removed (inOrder removed) refused

end Session

end CodeWorkspace
