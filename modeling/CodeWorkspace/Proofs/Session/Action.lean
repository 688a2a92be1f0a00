import CodeWorkspace.Session.Edit

/-!
# What an edit comes to

An edit that makes sense is looked at when the project is ready for it.  It is turned down, or
nothing has to be done, or it becomes an action.  An action is put off when a batch is open;
otherwise a single transition is submitted, and when that is committed the draft takes over the
action.  `Session.exists_operation` says that every edit works like this.
-/

namespace CodeWorkspace

namespace Draft

/-- What is done for an edit that was accepted. -/
inductive Action where
  | insert (collection : DocumentCollection) (document : Document) (buffer? : Option BufferId)
      (watch? : Option WatchToken)
  | remove (collection : DocumentCollection) (id : DocumentId)
  | addMetadataReference (reference : MetadataReference)
  | removeMetadataReference (reference : MetadataReference)
  | addProjectReference (reference : ProjectReference)
  | removeProjectReference (reference : ProjectReference)
  | addAnalyzer (reference : AnalyzerReference)
  | removeAnalyzer (reference : AnalyzerReference)
  | setProperty (property : Property)

namespace Action

/-- What is answered when the action succeeds. -/
def answer : Action → Answer
  | .insert _ document _ _ => .document document.id
  | .setProperty _ => .changed true
  | _ => .done

/-- The draft when the action was put off. -/
def later (draft : Draft) : Action → Draft
  | .insert collection document buffer? watch? =>
    draft.withRegistry
      ((draft.registry collection).insert document buffer? watch? .pendingAdd) collection
  | .remove collection id =>
    draft.withRegistry ((draft.registry collection).removeInBatch id).2 collection
  | .addMetadataReference reference =>
    { draft with
      metadataReferences := draft.metadataReferences.insert reference
      changes := { draft.changes with
        metadataReferences := draft.changes.metadataReferences.add reference } }
  | .removeMetadataReference reference =>
    { draft with
      metadataReferences := draft.metadataReferences.erase reference
      changes := { draft.changes with
        metadataReferences := draft.changes.metadataReferences.remove reference } }
  | .addProjectReference reference =>
    { draft with
      projectReferences := draft.projectReferences.insert reference
      changes := { draft.changes with
        projectReferences := draft.changes.projectReferences.add reference } }
  | .removeProjectReference reference =>
    { draft with
      projectReferences := draft.projectReferences.erase reference
      changes := { draft.changes with
        projectReferences := draft.changes.projectReferences.remove reference } }
  | .addAnalyzer reference =>
    { draft with
      analyzerReferences := draft.analyzerReferences.insert reference
      changes := { draft.changes with
        analyzerReferences := draft.changes.analyzerReferences.add reference } }
  | .removeAnalyzer reference =>
    { draft with
      analyzerReferences := draft.analyzerReferences.erase reference
      changes := { draft.changes with
        analyzerReferences := draft.changes.analyzerReferences.remove reference } }
  | .setProperty property =>
    { draft with
      properties := draft.properties.set property
      changes := draft.changes.pushProperty property }

/-- The draft when the action was committed. -/
def now (draft : Draft) : Action → Draft
  | .insert collection document buffer? watch? =>
    draft.withRegistry
      ((draft.registry collection).insert document buffer? watch? .committed) collection
  | .remove collection id =>
    draft.withRegistry ((draft.registry collection).forget id).2 collection
  | .addMetadataReference reference =>
    { draft with metadataReferences := draft.metadataReferences.insert reference }
  | .removeMetadataReference reference =>
    { draft with metadataReferences := draft.metadataReferences.erase reference }
  | .addProjectReference reference =>
    { draft with projectReferences := draft.projectReferences.insert reference }
  | .removeProjectReference reference =>
    { draft with projectReferences := draft.projectReferences.erase reference }
  | .addAnalyzer reference =>
    { draft with analyzerReferences := draft.analyzerReferences.insert reference }
  | .removeAnalyzer reference =>
    { draft with analyzerReferences := draft.analyzerReferences.erase reference }
  | .setProperty property => { draft with properties := draft.properties.set property }

/-- The transition that the action submits, by how metadata references are represented. -/
def transition (represent : MetadataReference → Representation) : Action → Transition
  | .insert collection document _ _ => .addDocuments collection [document]
  | .remove collection id => .removeDocuments collection [id]
  | .addMetadataReference reference => .addReference (represent reference)
  | .removeMetadataReference reference => .removeReference (represent reference)
  | .addProjectReference reference => .addProjectReference reference
  | .removeProjectReference reference => .removeProjectReference reference
  | .addAnalyzer reference => .addAnalyzerReference reference
  | .removeAnalyzer reference => .removeAnalyzerReference reference
  | .setProperty property => .setProperty property

/-- The watcher when the action was put off: a file that is added is watched, and the watch on one
that is removed ends. -/
def watching (draft : Draft) (watcher : Watcher) : Action → Watcher
  | .insert _ document _ (some _) =>
    match document.path? with
    | some path => (watcher.watch path).2
    | none => watcher
  | .remove collection id =>
    watcher.unwatchAll
      (((draft.registry collection).removeInBatch id).1.bind Removal.released?).toList
  | _ => watcher

/-- The watcher when the action was committed. -/
def watchingNow (draft : Draft) (watcher : Watcher) : Action → Watcher
  | .remove collection id =>
    watcher.unwatchAll (((draft.registry collection).forget id).1.bind Forgotten.watch?).toList
  | action => action.watching draft watcher

/-- The watcher when the action could not be committed: a watch that was taken for it has ended. -/
def watchingStill (draft : Draft) (watcher : Watcher) : Action → Watcher
  | .insert collection document buffer? watch? =>
    ((insert collection document buffer? watch?).watching draft watcher).unwatchAll watch?.toList
  | _ => watcher

/-- What the editor has to be told when the action was committed. -/
def news (draft : Draft) : Action → List Notice
  | .insert _ document _ _ => [arrival document]
  | .remove collection id => departures ((draft.registry collection).forget id).1.toList
  | _ => []

end Action

end Draft

namespace Edit

/-- Whether the edit is a change of the project that waits in a batch. -/
def isMutation : Edit → Bool
  | .commitPending | .fileChanged _ => false
  | _ => true

/-- Whether the edit sets a path at which the project publishes its output. -/
def isOutput : Edit → Bool
  | .setProperty property => property.isOutput
  | _ => false

/-- Why an edit of a project makes no sense, whatever state the project is in. -/
def objection? (owner : ProjectId) : Edit → Option Failure
  | .addFile _ path _ _ _ | .removeFile _ path | .addAnalyzer path | .removeAnalyzer path =>
    if Text.isBlank path then some .blankPath else none
  | .addBuffer _ _ path? _ _ _ => if path?.any Text.isBlank then some .blankPath else none
  | .addMetadataReference reference | .removeMetadataReference reference =>
    if Text.isBlank reference.path then some .blankPath else none
  | .addProjectReference reference =>
    if reference.target = owner then some (.selfReference owner) else none
  | .setProperty property =>
    if property.outputPath?.any Text.isBlank then some .blankPath else none
  | .removeBuffer _ _ | .removeProjectReference _ | .commitPending | .fileChanged _ => none

end Edit

namespace Session

/-- What becomes of an edit that makes sense when the project is ready for it. -/
def decide (session : Session) : Edit → Except Failure (Option Draft.Action)
  | .addFile collection path kind folders id =>
    ((session.draft.registry collection).ensureCanAdd (some path) none).map fun () =>
      some (.insert collection (.ofFile id path kind folders) none
        (some ⟨session.host.watcher.next⟩))
  | .removeFile collection path =>
    ((session.draft.registry collection).lookupPath path).map fun id =>
      some (.remove collection id)
  | .addBuffer collection held path? kind folders id =>
    ((session.draft.registry collection).ensureCanAdd path? (some held)).map fun () =>
      some (.insert collection (.ofBuffer id held path? kind folders) (some held) none)
  | .removeBuffer collection held =>
    ((session.draft.registry collection).lookupBuffer held).map fun id =>
      some (.remove collection id)
  | .addMetadataReference reference =>
    if reference ∈ session.draft.metadataReferences then
      .error (.tracked (.metadataReference reference.path))
    else .ok (some (.addMetadataReference reference))
  | .removeMetadataReference reference =>
    if reference ∈ session.draft.metadataReferences then
      .ok (some (.removeMetadataReference reference))
    else .error (.untracked (.metadataReference reference.path))
  | .addProjectReference reference =>
    if (session.draft.referenceTo? reference.target).isSome then
      .error (.tracked (.projectReference reference.target))
    else if (DependencyGraph.ofSnapshot session.host.store.current).wouldCreateCycle
        session.draft.id reference.target then
      .error (.impossible (.cycleDetected session.draft.id reference.target))
    else .ok (some (.addProjectReference reference))
  | .removeProjectReference target =>
    match session.draft.referenceTo? target with
    | none => .error (.untracked (.projectReference target))
    | some reference => .ok (some (.removeProjectReference reference))
  | .addAnalyzer path =>
    if (⟨path⟩ : AnalyzerReference) ∈ session.draft.analyzerReferences then
      .error (.tracked (.analyzer path))
    else .ok (some (.addAnalyzer ⟨path⟩))
  | .removeAnalyzer path =>
    if (⟨path⟩ : AnalyzerReference) ∈ session.draft.analyzerReferences then
      .ok (some (.removeAnalyzer ⟨path⟩))
    else .error (.untracked (.analyzer path))
  | .setProperty property =>
    if session.draft.properties.holds property then .ok none
    else .ok (some (.setProperty property))
  | .commitPending | .fileChanged _ => .ok none

/-- Two sessions that differ in the watcher and the editor at most. -/
structure SameCore (first second : Session) : Prop where
  draft : second.draft = first.draft
  store : second.host.store = first.host.store
  outputs : second.host.outputs = first.host.outputs

theorem SameCore.refl (session : Session) : SameCore session session := ⟨rfl, rfl, rfl⟩

theorem SameCore.trans {first second third : Session} (one : SameCore first second)
    (other : SameCore second third) : SameCore first third :=
  ⟨other.draft.trans one.draft, other.store.trans one.store, other.outputs.trans one.outputs⟩

/-- An index of outputs follows an edit: it compares paths as before, and only an edit that sets
an output changes it. -/
def Follows (edit : Edit) (before after : OutputIndex) : Prop :=
  after.comparison = before.comparison ∧ (edit.isOutput = false → after = before)

/-- A session after an action: its draft, its store, and an index that follows the edit. -/
structure Reached (ready : Session) (edit : Edit) (draft : Draft) (store : Store)
    (reached : Session) : Prop where
  draft : reached.draft = draft
  store : reached.host.store = store
  outputs : Follows edit ready.host.outputs reached.host.outputs

/-- How metadata references of the project are represented in a snapshot, as the index of outputs
is now. -/
def representing (session : Session) (snapshot : Snapshot) (reference : MetadataReference) :
    Representation :=
  reconcile session.draft.id reference session.host.outputs snapshot

/-- What comes of an action that is not put off, by what the store makes of its transition. -/
def Attempted (ready : Session) (edit : Edit) (action : Draft.Action) (reply : Reply Answer) :
    Except StoreError Unit × Store → Prop
  | (.error error, store) => reply.result = .error (.store error) ∧
      Reached ready edit ready.draft store reply.session
  | (.ok (), store) => reply.result = .ok action.answer ∧
      Reached ready edit (action.now ready.draft) store reply.session

/-- An action is put off if a batch is open, and attempted otherwise. -/
def CarriesOut (ready : Session) (edit : Edit) (action : Draft.Action) (reply : Reply Answer) :
    Prop :=
  if ready.draft.isBatching then
    reply.result = .ok action.answer ∧
      Reached ready edit (action.later ready.draft) ready.host.store reply.session
  else
    Attempted ready edit action reply (ready.host.store.transform ready.draft.id fun snapshot =>
      Transition.applyAll ready.draft.id snapshot
        [action.transition (representing ready snapshot)])

/-- An operation on a project that is ready for it does what was decided for an edit. -/
def Reacts (ready : Session) (edit : Edit) (reply : Reply Answer) : Prop :=
  match ready.decide edit with
  | .error failure => reply.result = .error failure ∧ SameCore ready reply.session
  | .ok none => reply.result = .ok (.changed false) ∧ SameCore ready reply.session
  | .ok (some action) => CarriesOut ready edit action reply

/-- The reply to an action, by the index of outputs that there is then. -/
def carriedOut (ready : Session) (action : Draft.Action) (outputs : OutputIndex) :
    Reply Answer :=
  let reached (draft : Draft) (store : Store) (watcher : Watcher) : Session :=
    { host := { ready.host with store, outputs, watcher }, draft }
  if ready.draft.isBatching then
    (reached (action.later ready.draft) ready.host.store
      (action.watching ready.draft ready.host.watcher)).answer action.answer
  else
    match ready.host.store.transform ready.draft.id fun snapshot =>
        Transition.applyAll ready.draft.id snapshot
          [action.transition (representing ready snapshot)] with
    | (.error error, store) =>
      (reached ready.draft store
        (action.watchingStill ready.draft ready.host.watcher)).refuse (.store error)
    | (.ok (), store) =>
      { result := .ok action.answer
        notices := action.news ready.draft
        session := reached (action.now ready.draft) store
          (action.watchingNow ready.draft ready.host.watcher) }

/-- What an operation on a project that is ready for it replies to an edit. -/
def Responds (ready : Session) (edit : Edit) (reply : Reply Answer) : Prop :=
  match ready.decide edit with
  | .error failure => reply = ready.refuse failure
  | .ok none => reply = ready.answer (.changed false)
  | .ok (some action) => ∃ outputs, Follows edit ready.host.outputs outputs ∧
      reply = ready.carriedOut action outputs

end Session

/-- A reply in the form of an answer. -/
def Reply.map {α β : Type} (form : α → β) (reply : Reply α) : Reply β where
  result := reply.result.map form
  notices := reply.notices
  session := reply.session

namespace Session

variable {session ready watched : Session} {edit : Edit} {action : Draft.Action}

theorem answering_update {α : Type} (form : α → Answer) (session : Session)
    (operation : Session → Reply α) :
    answering form (session.update operation) =
      session.update fun ready => (operation ready).map form := by
  simp only [answering, update]
  split
  · rfl
  · split <;> rfl

/-- Carries out an operation unless there is an objection. -/
def heeding (session : Session) (objection? : Option Failure)
    (operation : Session → Reply Answer) : Except Failure Answer × Session :=
  match objection? with
  | some failure => (.error failure, session)
  | none => session.update operation

theorem answering_guarded {α : Type} {condition : Prop} [Decidable condition] {failure : Failure}
    (form : α → Answer) (session : Session) (operation : Session → Reply α) :
    answering form (if condition then (.error failure, session) else session.update operation) =
      session.heeding (if condition then some failure else none) fun ready =>
        (operation ready).map form := by
  by_cases objectionable : condition
  · rw [if_pos objectionable, if_pos objectionable]
    rfl
  · rw [if_neg objectionable, if_neg objectionable]
    exact answering_update form session operation

theorem Follows.refl (edit : Edit) (index : OutputIndex) : Follows edit index index :=
  ⟨rfl, fun _ => rfl⟩

/-- A reply does what was decided for the edit. -/
theorem Responds.reacts {reply : Reply Answer} (responds : ready.Responds edit reply) :
    ready.Reacts edit reply := by
  rw [Responds] at responds
  rw [Reacts]
  split at responds
  · rw [responds]
    exact ⟨rfl, .refl ready⟩
  · rw [responds]
    exact ⟨rfl, .refl ready⟩
  · obtain ⟨outputs, follows, rfl⟩ := responds
    simp only [CarriesOut, carriedOut]
    split
    · exact ⟨rfl, rfl, rfl, follows⟩
    · generalize ready.host.store.transform ready.draft.id _ = outcome
      obtain ⟨result, store⟩ := outcome
      cases result with
      | error error => exact ⟨rfl, rfl, rfl, follows⟩
      | ok done => exact ⟨rfl, rfl, rfl, follows⟩

/-! ## Operations -/

theorem carriedOut_insertDocument {collection : DocumentCollection} {document : Document}
    {buffer? : Option BufferId} {watch? : Option WatchToken} {watcher : Watcher}
    (watching_eq : (Draft.Action.insert collection document buffer? watch?).watching ready.draft
      ready.host.watcher = watcher) :
    ∃ outputs, Follows edit ready.host.outputs outputs ∧
      (insertDocument { ready with host := { ready.host with watcher } } collection document
        buffer? watch?).map .document =
          ready.carriedOut (.insert collection document buffer? watch?) outputs := by
  subst watching_eq
  refine ⟨_, .refl edit _, ?_⟩
  simp only [carriedOut, insertDocument]
  split
  · rfl
  · simp only [commit, submit, transform, Draft.Action.transition]
    generalize ready.host.store.transform ready.draft.id _ = outcome
    obtain ⟨result, store⟩ := outcome
    cases result <;> rfl

theorem carriedOut_removeDocument (ready : Session) (edit : Edit)
    (collection : DocumentCollection) (id : DocumentId) :
    ∃ outputs, Follows edit ready.host.outputs outputs ∧
      (ready.removeDocument collection id).map (fun _ => .done) =
        ready.carriedOut (.remove collection id) outputs := by
  refine ⟨_, .refl edit _, ?_⟩
  simp only [carriedOut, removeDocument]
  split
  · rfl
  · simp only [commit, submit, transform, Draft.Action.transition]
    generalize ready.host.store.transform ready.draft.id _ = outcome
    obtain ⟨result, store⟩ := outcome
    cases result <;> rfl

/-- What becomes of a reference is of no concern to the watcher and to the editor. -/
theorem carriedOut_submitOrDefer {defer : ChangeSet → ChangeSet}
    {plan : Snapshot → List Transition} {track : Draft → Draft}
    (answer_eq : action.answer = .done)
    (later_eq : action.later ready.draft =
      track { ready.draft with changes := defer ready.draft.changes })
    (now_eq : action.now ready.draft = track ready.draft)
    (plan_eq : ∀ snapshot, plan snapshot = [action.transition (representing ready snapshot)])
    (watching_eq : action.watching ready.draft ready.host.watcher = ready.host.watcher)
    (now_watching_eq : action.watchingNow ready.draft ready.host.watcher = ready.host.watcher)
    (still_watching_eq : action.watchingStill ready.draft ready.host.watcher = ready.host.watcher)
    (news_eq : action.news ready.draft = []) :
    ∃ outputs, Follows edit ready.host.outputs outputs ∧
      (ready.submitOrDefer defer plan track).map (fun _ => .done) =
        ready.carriedOut action outputs := by
  refine ⟨_, .refl edit _, ?_⟩
  simp only [carriedOut, submitOrDefer, answer_eq, later_eq, now_eq, watching_eq, now_watching_eq,
    still_watching_eq, news_eq]
  split
  · rfl
  · simp only [submit, transform, plan_eq]
    generalize ready.host.store.transform ready.draft.id _ = outcome
    obtain ⟨result, store⟩ := outcome
    cases result <;> rfl

theorem comparison_follow (index : OutputIndex) (project : ProjectId) (before : Property)
    (properties : Properties) :
    (index.follow project before properties).comparison = index.comparison := by
  have registered (paths : List String) (reached : OutputIndex) :
      (paths.foldl (fun reached path => reached.register project path) reached).comparison =
        reached.comparison := by
    induction paths generalizing reached with
    | nil => rfl
    | cons path rest ih => exact ih _
  rw [OutputIndex.follow]
  split
  · rw [registered]
    split <;> rfl
  · rfl

theorem isOutput_now (properties : Properties) (property : Property) :
    (properties.now property).isOutput = property.isOutput := by
  cases property <;> rfl

/-- The index of outputs follows the setting of a property, and its being taken back. -/
theorem follows_replaceProperty (session : Session) (property setting : Property)
    (same : setting.isOutput = property.isOutput) :
    Follows (.setProperty property) session.host.outputs
      (session.replaceProperty setting).host.outputs := by
  refine ⟨comparison_follow _ _ _ _, fun quiet => ?_⟩
  have silent : (session.draft.properties.now setting).isOutput = false := by
    rw [isOutput_now, same]
    exact quiet
  simp only [replaceProperty, OutputIndex.follow, silent]
  rfl

theorem Follows.trans {first second third : OutputIndex} (one : Follows edit first second)
    (other : Follows edit second third) : Follows edit first third :=
  ⟨other.1.trans one.1, fun quiet => (other.2 quiet).trans (one.2 quiet)⟩

/-! ## Edits as operations -/

/-- An edit is carried out by an operation that replies as was decided for it. -/
structure Operates (edit : Edit) (operation : Session → Reply Answer) : Prop where
  performed : ∀ session : Session, session.perform edit =
    session.heeding (edit.objection? session.draft.id) operation
  responds : ∀ ready : Session, ready.Responds edit (operation ready)

theorem exists_operates_addFile (collection : DocumentCollection) (path : String)
    (kind : SourceKind) (folders : List String) (id : DocumentId) :
    ∃ operation, Operates (.addFile collection path kind folders id) operation := by
  refine ⟨_, fun session => answering_guarded _ _ _, fun ready => ?_⟩
  simp only [Responds, decide]
  cases (ready.draft.registry collection).ensureCanAdd (some path) none with
  | error failure => rfl
  | ok free => exact carriedOut_insertDocument rfl

theorem exists_operates_removeFile (collection : DocumentCollection) (path : String) :
    ∃ operation, Operates (.removeFile collection path) operation := by
  refine ⟨_, fun session => answering_guarded _ _ _, fun ready => ?_⟩
  simp only [Responds, decide]
  cases (ready.draft.registry collection).lookupPath path with
  | error failure => rfl
  | ok id => exact carriedOut_removeDocument ready _ collection id

theorem exists_operates_addBuffer (collection : DocumentCollection) (held : BufferId)
    (path? : Option String) (kind : SourceKind) (folders : List String) (id : DocumentId) :
    ∃ operation, Operates (.addBuffer collection held path? kind folders id) operation := by
  refine ⟨_, fun session => answering_guarded _ _ _, fun ready => ?_⟩
  simp only [Responds, decide]
  cases (ready.draft.registry collection).ensureCanAdd path? (some held) with
  | error failure => rfl
  | ok free => exact carriedOut_insertDocument rfl

theorem exists_operates_removeBuffer (collection : DocumentCollection) (held : BufferId) :
    ∃ operation, Operates (.removeBuffer collection held) operation := by
  refine ⟨_, fun session => answering_update _ _ _, fun ready => ?_⟩
  simp only [Responds, decide]
  cases (ready.draft.registry collection).lookupBuffer held with
  | error failure => rfl
  | ok id => exact carriedOut_removeDocument ready _ collection id

theorem exists_operates_addMetadataReference (reference : MetadataReference) :
    ∃ operation, Operates (.addMetadataReference reference) operation := by
  refine ⟨_, fun session => answering_guarded _ _ _, fun ready => ?_⟩
  by_cases present : reference ∈ ready.draft.metadataReferences
  · simp only [Responds, decide, if_pos present]
    rfl
  · simp only [Responds, decide, if_neg present]
    exact carriedOut_submitOrDefer rfl rfl rfl (fun _ => rfl) rfl rfl rfl rfl

theorem exists_operates_removeMetadataReference (reference : MetadataReference) :
    ∃ operation, Operates (.removeMetadataReference reference) operation := by
  refine ⟨_, fun session => answering_guarded _ _ _, fun ready => ?_⟩
  by_cases present : reference ∈ ready.draft.metadataReferences
  · simp only [Responds, decide, if_pos present]
    exact carriedOut_submitOrDefer rfl rfl rfl (fun _ => rfl) rfl rfl rfl rfl
  · simp only [Responds, decide, if_neg present]
    rfl

theorem exists_operates_addProjectReference (reference : ProjectReference) :
    ∃ operation, Operates (.addProjectReference reference) operation := by
  refine ⟨_, fun session => answering_guarded _ _ _, fun ready => ?_⟩
  by_cases present : (ready.draft.referenceTo? reference.target).isSome = true
  · simp only [Responds, decide, if_pos present]
    rfl
  · by_cases closes : (DependencyGraph.ofSnapshot ready.host.store.current).wouldCreateCycle
        ready.draft.id reference.target = true
    · simp only [Responds, decide, if_neg present, if_pos closes]
      rfl
    · simp only [Responds, decide, if_neg present, if_neg closes]
      exact carriedOut_submitOrDefer rfl rfl rfl (fun _ => rfl) rfl rfl rfl rfl

theorem exists_operates_removeProjectReference (target : ProjectId) :
    ∃ operation, Operates (.removeProjectReference target) operation := by
  refine ⟨_, fun session => answering_update _ _ _, fun ready => ?_⟩
  simp only [Responds, decide]
  cases ready.draft.referenceTo? target with
  | none => rfl
  | some reference => exact carriedOut_submitOrDefer rfl rfl rfl (fun _ => rfl) rfl rfl rfl rfl

theorem exists_operates_addAnalyzer (path : String) :
    ∃ operation, Operates (.addAnalyzer path) operation := by
  refine ⟨_, fun session => answering_guarded _ _ _, fun ready => ?_⟩
  by_cases present : (⟨path⟩ : AnalyzerReference) ∈ ready.draft.analyzerReferences
  · simp only [Responds, decide, if_pos present]
    rfl
  · simp only [Responds, decide, if_neg present]
    exact carriedOut_submitOrDefer rfl rfl rfl (fun _ => rfl) rfl rfl rfl rfl

theorem exists_operates_removeAnalyzer (path : String) :
    ∃ operation, Operates (.removeAnalyzer path) operation := by
  refine ⟨_, fun session => answering_guarded _ _ _, fun ready => ?_⟩
  by_cases present : (⟨path⟩ : AnalyzerReference) ∈ ready.draft.analyzerReferences
  · simp only [Responds, decide, if_pos present]
    exact carriedOut_submitOrDefer rfl rfl rfl (fun _ => rfl) rfl rfl rfl rfl
  · simp only [Responds, decide, if_neg present]
    rfl

theorem exists_operates_setProperty (property : Property) :
    ∃ operation, Operates (.setProperty property) operation := by
  refine ⟨_, fun session => answering_guarded _ _ _, fun ready => ?_⟩
  by_cases held : ready.draft.properties.holds property = true
  · simp only [Responds, decide, if_pos held]
    rfl
  · simp only [Responds, decide, if_neg held]
    have follows := follows_replaceProperty ready property property rfl
    simp only [carriedOut]
    split
    · exact ⟨_, follows, rfl⟩
    · simp only [commit, submit, transform, Draft.Action.transition]
      have same_store : (ready.replaceProperty property).host.store = ready.host.store := rfl
      have same_id : (ready.replaceProperty property).draft.id = ready.draft.id := rfl
      rw [same_store, same_id]
      generalize ready.host.store.transform ready.draft.id _ = outcome
      obtain ⟨result, store⟩ := outcome
      cases result with
      | error error =>
        let before := ready.draft.properties.now property
        let restored := (ready.replaceProperty property).replaceProperty before
        have same_draft : restored.draft = ready.draft :=
          congrArg (fun properties => { ready.draft with properties })
            (Properties.set_set_now ready.draft.properties property)
        refine ⟨restored.host.outputs, follows.trans (follows_replaceProperty _ property before
          (isOutput_now ready.draft.properties property)), ?_⟩
        show ({ restored with host := { restored.host with store } } : Session).refuse _ = _
        rw [← same_draft]
        rfl
      | ok done => exact ⟨_, follows, rfl⟩

/-- Every mutation is an operation that is decided once the project is ready. -/
theorem exists_operates (mutation : edit.isMutation = true) :
    ∃ operation, Operates edit operation := by
  cases edit with
  | addFile collection path kind folders id => exact exists_operates_addFile _ _ _ _ _
  | removeFile collection path => exact exists_operates_removeFile _ _
  | addBuffer collection held path? kind folders id => exact exists_operates_addBuffer _ _ _ _ _ _
  | removeBuffer collection held => exact exists_operates_removeBuffer _ _
  | addMetadataReference reference => exact exists_operates_addMetadataReference _
  | removeMetadataReference reference => exact exists_operates_removeMetadataReference _
  | addProjectReference reference => exact exists_operates_addProjectReference _
  | removeProjectReference target => exact exists_operates_removeProjectReference _
  | addAnalyzer path => exact exists_operates_addAnalyzer _
  | removeAnalyzer path => exact exists_operates_removeAnalyzer _
  | setProperty property => exact exists_operates_setProperty _
  | commitPending => cases mutation
  | fileChanged path => cases mutation

/-- An edit that makes sense updates the session by an operation that replies as was decided. -/
theorem exists_response (mutation : edit.isMutation = true) :
    ∃ operation : Session → Reply Answer,
      (∀ session : Session, edit.objection? session.draft.id = none →
        session.perform edit = session.update operation) ∧
      ∀ ready : Session, ready.Responds edit (operation ready) := by
  obtain ⟨operation, performed, responds⟩ := exists_operates mutation
  refine ⟨operation, fun session sensible => ?_, responds⟩
  rw [performed, sensible]
  rfl

theorem exists_operation (mutation : edit.isMutation = true) :
    ∃ operation : Session → Reply Answer,
      (∀ session : Session, edit.objection? session.draft.id = none →
        session.perform edit = session.update operation) ∧
      ∀ ready : Session, ready.Reacts edit (operation ready) := by
  obtain ⟨operation, performed, responds⟩ := exists_response mutation
  exact ⟨operation, performed, fun ready => (responds ready).reacts⟩

theorem isMutation_of_objection {owner : ProjectId} {failure : Failure}
    (objection : edit.objection? owner = some failure) : edit.isMutation = true := by
  cases edit with
  | commitPending => cases objection
  | fileChanged path => cases objection
  | _ => rfl

theorem perform_of_objection {failure : Failure}
    (objection : edit.objection? session.draft.id = some failure) :
    session.perform edit = (.error failure, session) := by
  obtain ⟨operation, performed, _⟩ := exists_operates (isMutation_of_objection objection)
  rw [performed, objection]
  rfl

end Session

end CodeWorkspace
