import CodeWorkspace.Proofs.Draft.Deferred
import CodeWorkspace.Proofs.Session.Commit

/-!
# Sessions in lockstep

The same edits are made in two sessions that began alike, in one of them one by one and in the other
one inside of a batch.  An edit is answered alike in both as long as it does not add a document
again that was removed, and the two sessions go on showing the same things.
-/

namespace CodeWorkspace

namespace Edit

/-- The collection that an edit adds a document to, with the path and the buffer of the document. -/
def addition? : Edit → Option (DocumentCollection × Option String × Option BufferId)
  | .addFile collection path _ _ _ => some (collection, some path, none)
  | .addBuffer collection held path? _ _ _ => some (collection, path?, some held)
  | _ => none

/-- Whether an edit adds a document at the path or in the buffer of another document. -/
def Readds (comparison : PathComparison) (collection : DocumentCollection) (document : Document)
    (edit : Edit) : Prop :=
  ∃ path? buffer?, edit.addition? = some (collection, path?, buffer?) ∧
    ((∃ path, path? = some path ∧
        document.path?.map comparison.key = some (comparison.key path)) ∨
      ∃ buffer, buffer? = some buffer ∧ document.loader.held? = some buffer)

end Edit

namespace Session

variable {comparison : PathComparison} {start session single batched reached : Session}
  {project changed : Project} {edit : Edit} {action other : Draft.Action}

/-! ## Deciding alike -/

/-- Two decisions that differ in the watch on a file at most. -/
inductive SameDecision : Except Failure (Option Draft.Action) →
    Except Failure (Option Draft.Action) → Prop where
  | turnedDown (failure : Failure) : SameDecision (.error failure) (.error failure)
  | nothing : SameDecision (.ok none) (.ok none)
  | accepted {first second : Draft.Action} (alike : first.Alike second) :
    SameDecision (.ok (some first)) (.ok (some second))

theorem SameDecision.refl (decision : Except Failure (Option Draft.Action)) :
    SameDecision decision decision := by
  cases decision with
  | error failure => exact .turnedDown failure
  | ok action? =>
    cases action? with
    | none => exact .nothing
    | some action => exact .accepted (.same action)

theorem sameDecision_map {free : Except Failure Unit} (alike : action.Alike other) :
    SameDecision (free.map fun () => some action) (free.map fun () => some other) := by
  cases free with
  | error failure => exact .turnedDown failure
  | ok done => exact .accepted alike

/-- Sessions that show the same things decide alike if no document that is about to leave stands in
the way. -/
theorem decide_alike (facade : Draft.SameFacade single.draft batched.draft)
    (single_indexed : ∀ collection, (single.draft.registry collection).Indexed)
    (batched_indexed : ∀ collection, (batched.draft.registry collection).Indexed)
    (closing_eq : batched.closing = single.closing)
    (vacant : ∀ collection path? buffer?, edit.addition? = some (collection, path?, buffer?) →
      (single.draft.registry collection).Vacant path? buffer? ∧
        (batched.draft.registry collection).Vacant path? buffer?) :
    SameDecision (single.decide edit) (batched.decide edit) := by
  cases edit with
  | addFile collection path kind folders id =>
    obtain ⟨single_vacant, batched_vacant⟩ := vacant collection (some path) none rfl
    simp only [decide, (facade.documents collection).ensureCanAdd_eq (single_indexed collection)
      (batched_indexed collection) single_vacant batched_vacant]
    exact sameDecision_map (.insert collection _ _ _ _)
  | removeFile collection path =>
    have tracked := facade.documents collection
    simp only [decide, Registry.lookupPath, tracked.collection_eq, tracked.lookupPath?_eq
      (single_indexed collection) (batched_indexed collection)]
    exact .refl _
  | addBuffer collection held path? kind folders id =>
    obtain ⟨single_vacant, batched_vacant⟩ := vacant collection path? (some held) rfl
    simp only [decide, (facade.documents collection).ensureCanAdd_eq (single_indexed collection)
      (batched_indexed collection) single_vacant batched_vacant]
    exact sameDecision_map (.same _)
  | removeBuffer collection held =>
    have tracked := facade.documents collection
    simp only [decide, Registry.lookupBuffer, tracked.collection_eq, tracked.lookupBuffer?_eq
      (single_indexed collection) (batched_indexed collection)]
    exact .refl _
  | addMetadataReference reference =>
    simp only [decide, facade.metadata_eq]
    exact .refl _
  | removeMetadataReference reference =>
    simp only [decide, facade.metadata_eq]
    exact .refl _
  | addProjectReference reference =>
    have closes_eq : (DependencyGraph.ofSnapshot batched.host.store.current).wouldCreateCycle
        single.draft.id reference.target = (DependencyGraph.ofSnapshot
          single.host.store.current).wouldCreateCycle single.draft.id reference.target := by
      have closed := congrFun closing_eq reference.target
      rwa [closing, closing, facade.id_eq] at closed
    simp only [decide, Draft.referenceTo?, facade.projects_eq, facade.id_eq, closes_eq]
    exact .refl _
  | removeProjectReference target =>
    simp only [decide, Draft.referenceTo?, facade.projects_eq]
    exact .refl _
  | addAnalyzer path =>
    simp only [decide, facade.analyzers_eq]
    exact .refl _
  | removeAnalyzer path =>
    simp only [decide, facade.analyzers_eq]
    exact .refl _
  | setProperty property =>
    simp only [decide, facade.properties_eq]
    exact .refl _
  | commitPending => exact .nothing
  | fileChanged path => exact .nothing

/-- An operation on a live project that is ready for it. -/
theorem update_of_ready {α : Type} (live : session.draft.removed = false)
    (ready : session.draft.isBatching = true ∨ session.draft.hasPending = false)
    (operation : Session → Reply α) :
    session.update operation = ((operation session).result,
      (operation session).session.notify (operation session).notices) := by
  have stays : (if session.draft.isBatching then (Except.ok [], session) else session.flush) =
      (.ok [], session) := by
    split
    · rfl
    · rename_i closed
      rw [flush, ready.resolve_left closed]
      rfl
  simp only [update, live, stays]
  rfl

/-! ## Lockstep -/

/-- Two sessions in which the same edits were made since they began alike, one by one in the first
one and in a batch in the second one. -/
structure Lockstep (comparison : PathComparison) (start : Session) (project : Project)
    (single batched : Session) (changed : Project) : Prop where
  single_tracked : single.Tracked comparison changed
  single_live : single.draft.removed = false
  single_closed : single.draft.isBatching = false
  single_settled : single.draft.hasPending = false
  single_outputs : single.host.outputs = start.host.outputs
  replaced : start.current.Replaced start.draft.id changed single.current
  language_eq : changed.language = project.language
  expresses : changed.Expresses start.represent single.draft.metadataReferences.elements
  batched_tracked : batched.Tracked comparison project
  batched_live : batched.draft.removed = false
  batches_eq : batched.draft.batches = start.draft.batches.enter
  batched_outputs : batched.host.outputs = start.host.outputs
  batched_current : batched.current = start.current
  defers : batched.draft.Defers start.closing start.draft.metadataReferences
  facade : Draft.SameFacade single.draft batched.draft
  id_eq : single.draft.id = start.draft.id

theorem Tracked.of_same (tracked : session.Tracked comparison project)
    (draft : reached.draft = session.draft) (store : reached.host.store = session.host.store) :
    reached.Tracked comparison project := by
  obtain ⟨accepting, keyed, found, inStep⟩ := tracked
  refine ⟨?_, ?_, ?_, ?_⟩
  · rw [store]
    exact accepting
  · rw [current, store]
    exact keyed
  · rw [current, store, draft]
    exact found
  · rw [draft]
    exact inStep

/-- An action that is accepted while nothing waits is committed if the project expresses what is
tracked. -/
theorem Tracked.action_completes (tracked : session.Tracked comparison project)
    (closed : session.draft.isBatching = false) (settled : session.draft.hasPending = false)
    (expresses : project.Expresses session.represent session.draft.metadataReferences.elements)
    (accepted : session.Accepted edit action) (fresh : ∀ id ∈ edit.drawn, id ∉ session.draft.ids)
    {reply : Reply Answer} (carries : session.CarriesOut edit action reply) :
    ∃ changed store, reply.result = .ok action.answer ∧
      Reached session edit (action.now session.draft) store reply.session ∧
      (action.transition session.represent).effect session.closing project = .ok changed ∧
      session.current.Replaced session.draft.id changed store.current ∧
      store.refusals = session.host.store.refusals := by
  obtain ⟨allowed, drawn_eq⟩ := accepted.allowed
  rw [CarriesOut, if_neg (by rw [closed]; exact Bool.false_ne_true)] at carries
  rcases Store.transform_accepting tracked.accepting tracked.keyed tracked.found
    fun snapshot => [action.transition (representing session snapshot)] with
    ⟨fault, effects, _⟩ | ⟨changed, next, effects, committed, replaced, refusals⟩
  · rw [Transition.effects_singleton] at effects
    have open_target : ∀ reference, action = .addProjectReference reference →
        session.closing reference.target = false := by
      rintro reference rfl
      cases accepted with
      | addProjectReference _ unclosed => exact unclosed
    obtain ⟨reference, rfl, _, listed, _⟩ := tracked.inStep.listed_of_action_error
      session.sensible_represent settled allowed (fun id drawn => fresh id (drawn_eq ▸ drawn))
      open_target effects
    exact absurd (session.sensible_represent.mem_of_listed expresses listed) allowed
  · rw [Transition.effects_singleton] at effects
    rw [committed] at carries
    exact ⟨changed, next, carries.1, carries.2, effects, replaced, refusals⟩

namespace Lockstep

variable (tracked : start.Tracked comparison project)
  (lockstep : Lockstep comparison start project single batched changed)

include lockstep

theorem batched_id : batched.draft.id = start.draft.id :=
  lockstep.facade.id_eq.trans lockstep.id_eq

theorem batching : batched.draft.isBatching = true := by
  rw [Draft.isBatching, lockstep.batches_eq]
  exact decide_eq_true (Nat.succ_pos _)

include tracked in
theorem single_represent : single.represent = start.represent :=
  represent_replaced tracked.keyed
    ((lockstep.single_tracked.id_eq).trans lockstep.id_eq) lockstep.replaced lockstep.id_eq
    lockstep.single_outputs

include tracked in
theorem single_closing : single.closing = start.closing :=
  closing_replaced tracked.keyed ((lockstep.single_tracked.id_eq).trans lockstep.id_eq)
    lockstep.replaced lockstep.id_eq

theorem batched_represent : batched.represent = start.represent := by
  funext reference
  simp only [represent, representing, lockstep.batched_id, lockstep.batched_outputs,
    lockstep.batched_current]

theorem batched_closing : batched.closing = start.closing := by
  funext target
  rw [closing, closing, lockstep.batched_id, lockstep.batched_current]

/-- Sessions that differ from these in the watcher and the editor at most are in lockstep too. -/
theorem of_sameCore {single_after batched_after : Session} (first : SameCore single single_after)
    (second : SameCore batched batched_after) :
    Lockstep comparison start project single_after batched_after changed := by
  obtain ⟨first_draft, first_store, first_outputs⟩ := first
  obtain ⟨second_draft, second_store, second_outputs⟩ := second
  exact
    { single_tracked := lockstep.single_tracked.of_same first_draft first_store
      single_live := first_draft ▸ lockstep.single_live
      single_closed := first_draft ▸ lockstep.single_closed
      single_settled := first_draft ▸ lockstep.single_settled
      single_outputs := first_outputs.trans lockstep.single_outputs
      replaced := by
        have same_current : single_after.current = single.current :=
          congrArg Store.current first_store
        rw [same_current]
        exact lockstep.replaced
      language_eq := lockstep.language_eq
      expresses := first_draft ▸ lockstep.expresses
      batched_tracked := lockstep.batched_tracked.of_same second_draft second_store
      batched_live := second_draft ▸ lockstep.batched_live
      batches_eq := second_draft ▸ lockstep.batches_eq
      batched_outputs := second_outputs.trans lockstep.batched_outputs
      batched_current := (congrArg Store.current second_store).trans lockstep.batched_current
      defers := second_draft ▸ lockstep.defers
      facade := by
        rw [first_draft, second_draft]
        exact lockstep.facade
      id_eq := first_draft ▸ lockstep.id_eq }

include tracked in
/-- An action that both sessions accept is committed in one of them and put off in the other one. -/
theorem act {single_reply batched_reply : Reply Answer} (alike : action.Alike other)
    (single_accepted : single.Accepted edit action)
    (batched_accepted : batched.Accepted edit other)
    (single_carries : single.CarriesOut edit action single_reply)
    (batched_carries : batched.CarriesOut edit other batched_reply)
    (quiet : edit.isOutput = false)
    (fresh : ∀ id ∈ edit.drawn, id ∉ single.draft.ids ∧ id ∉ batched.draft.ids) :
    batched_reply.result = single_reply.result ∧
      ∃ after, Lockstep comparison start project single_reply.session batched_reply.session
        after := by
  obtain ⟨allowed, drawn_eq⟩ := single_accepted.allowed
  obtain ⟨batched_allowed, batched_drawn_eq⟩ := batched_accepted.allowed
  have represent_eq := lockstep.single_represent tracked
  have closing_eq := lockstep.single_closing tracked
  have expresses := lockstep.expresses
  rw [← represent_eq] at expresses
  obtain ⟨after, store, single_result, single_reached, effect, replaced, refusals⟩ :=
    lockstep.single_tracked.action_completes lockstep.single_closed lockstep.single_settled
      expresses single_accepted (fun id drawn => (fresh id drawn).1) single_carries
  rw [CarriesOut, if_pos lockstep.batching] at batched_carries
  obtain ⟨batched_result, batched_reached⟩ := batched_carries
  have single_move : Draft.Move changed single.draft action.drawn after
      single_reply.session.draft := by
    rw [single_reached.draft]
    exact .now _ _ lockstep.single_settled allowed effect
  have batched_move : Draft.Move project batched.draft other.drawn project
      batched_reply.session.draft := by
    rw [batched_reached.draft]
    exact .later lockstep.batching batched_allowed
  have single_current : single_reply.session.current = store.current := by
    rw [current, single_reached.store]
  have batched_current : batched_reply.session.current = batched.current := by
    rw [current, batched_reached.store]
    rfl
  have single_replaced : single.current.Replaced single.draft.id after
      single_reply.session.current := by
    rw [single_current]
    exact replaced
  have batched_replaced : batched.current.Replaced batched.draft.id project
      batched_reply.session.current := by
    rw [batched_current]
    exact .refl lockstep.batched_tracked.found
  refine ⟨by rw [single_result, batched_result, alike.answer_eq], after, ?_⟩
  constructor
  · refine lockstep.single_tracked.move single_move
      (fun id drawn => (fresh id (drawn_eq ▸ drawn)).1) single_replaced ?_
    rw [single_reached.store, refusals]
  · exact single_move.sameIdentity.removed_eq.trans lockstep.single_live
  · rw [single_reached.draft, Draft.isBatching, Draft.batches_now]
    exact lockstep.single_closed
  · rw [single_reached.draft, Draft.hasPending_now]
    exact lockstep.single_settled
  · exact (single_reached.outputs.2 quiet).trans lockstep.single_outputs
  · exact lockstep.replaced.trans (lockstep.id_eq ▸ single_replaced)
  · exact (Project.language_of_sameBut (Transition.sameBut_of_effect effect)).trans
      lockstep.language_eq
  · rw [single_reached.draft, ← represent_eq]
    exact Draft.expresses_now lockstep.single_tracked.inStep.references.booked expresses allowed
      effect
  · refine lockstep.batched_tracked.move batched_move
      (fun id drawn => (fresh id (batched_drawn_eq ▸ drawn)).2) batched_replaced ?_
    rw [batched_reached.store]
  · exact batched_move.sameIdentity.removed_eq.trans lockstep.batched_live
  · rw [batched_reached.draft, Draft.batches_later]
    exact lockstep.batches_eq
  · exact (batched_reached.outputs.2 quiet).trans lockstep.batched_outputs
  · exact batched_current.trans lockstep.batched_current
  · rw [batched_reached.draft]
    refine lockstep.defers.later batched_allowed ?_
    rintro reference rfl
    cases batched_accepted with
    | addProjectReference _ unclosed =>
      rw [← lockstep.batched_closing]
      exact unclosed
  · rw [single_reached.draft, batched_reached.draft]
    exact lockstep.facade.act alike batched_allowed fun id drawn => fresh id (drawn_eq ▸ drawn)
  · exact single_move.sameIdentity.id_eq.trans lockstep.id_eq

/-- No document that is about to leave stands in the way of an edit that adds no document again. -/
theorem vacant (spared : ∀ collection id document,
      (id, document) ∈ (project.documents collection).entries →
        id ∉ (single.draft.registry collection).documentIds →
          ¬ edit.Readds comparison collection document)
    (collection : DocumentCollection) (path? : Option String) (buffer? : Option BufferId)
    (adds : edit.addition? = some (collection, path?, buffer?)) :
    (single.draft.registry collection).Vacant path? buffer? ∧
      (batched.draft.registry collection).Vacant path? buffer? := by
  constructor
  · intro id entry found leaves
    have single_mirrors := (lockstep.single_tracked.inStep.mirrors collection).mirrors
    have waits := (single_mirrors.mem_removes id).mpr ⟨entry, found, leaves⟩
    rw [Draft.pendingRemoves_of_settled lockstep.single_settled] at waits
    cases waits
  · intro id entry found leaves
    have serves := lockstep.batched_tracked.inStep.mirrors collection
    have held : (id, entry.document) ∈ (project.documents collection).entries := by
      rw [serves.mirrors.documents_eq]
      refine List.mem_map.mpr ⟨(id, entry), List.mem_filter.mpr
        ⟨Registry.mem_entries_iff.mpr found, ?_⟩, rfl⟩
      simp [RegistryEntry.isVisible, leaves]
    have untracked : id ∉ (single.draft.registry collection).documentIds := by
      rw [Registry.documentIds_eq, ← (lockstep.facade.documents collection).tracked_eq]
      intro known
      obtain ⟨⟨other, document⟩, shown, rfl⟩ := List.mem_map.mp known
      obtain ⟨kept, kept_found, stays, _⟩ := Registry.mem_tracked_iff.mp shown
      rw [found] at kept_found
      cases kept_found
      exact stays leaves
    have differs := spared collection id entry.document held untracked
    constructor
    · rintro path rfl picked
      rw [serves.mirrors.pathKey_eq id entry found] at picked
      refine differs ⟨_, _, adds, Or.inl ⟨path, rfl, ?_⟩⟩
      rw [← serves.comparison_eq]
      exact picked
    · rintro buffer rfl picked
      rw [serves.mirrors.buffer_eq id entry found] at picked
      exact differs ⟨_, _, adds, Or.inr ⟨buffer, rfl, picked⟩⟩

include tracked in
/-- What is decided for an edit is carried out in one of the sessions and put off in the other. -/
theorem react {single_reply batched_reply : Reply Answer}
    (single_reacts : single.Reacts edit single_reply)
    (batched_reacts : batched.Reacts edit batched_reply) (quiet : edit.isOutput = false)
    (fresh : ∀ id ∈ edit.drawn, id ∉ single.draft.ids ∧ id ∉ batched.draft.ids)
    (spared : ∀ collection id document,
      (id, document) ∈ (project.documents collection).entries →
        id ∉ (single.draft.registry collection).documentIds →
          ¬ edit.Readds comparison collection document) :
    batched_reply.result = single_reply.result ∧
      ∃ after, Lockstep comparison start project single_reply.session batched_reply.session
        after := by
  have decided := decide_alike lockstep.facade
    (fun collection => (lockstep.single_tracked.inStep.mirrors collection).mirrors.toIndexed)
    (fun collection => (lockstep.batched_tracked.inStep.mirrors collection).mirrors.toIndexed)
    (lockstep.batched_closing.trans (lockstep.single_closing tracked).symm)
    (lockstep.vacant spared)
  rw [Reacts] at single_reacts batched_reacts
  cases single_decided : single.decide edit with
  | error failure =>
    rw [single_decided] at decided single_reacts
    cases batched_decided : batched.decide edit with
    | error other =>
      rw [batched_decided] at decided batched_reacts
      cases decided
      exact ⟨batched_reacts.1.trans single_reacts.1.symm, changed,
        lockstep.of_sameCore single_reacts.2 batched_reacts.2⟩
    | ok action? =>
      rw [batched_decided] at decided
      cases decided
  | ok action? =>
    rw [single_decided] at decided single_reacts
    cases batched_decided : batched.decide edit with
    | error other =>
      rw [batched_decided] at decided
      cases decided
    | ok other? =>
      rw [batched_decided] at decided batched_reacts
      cases decided with
      | nothing =>
        exact ⟨batched_reacts.1.trans single_reacts.1.symm, changed,
          lockstep.of_sameCore single_reacts.2 batched_reacts.2⟩
      | accepted alike =>
        exact lockstep.act tracked alike (accepted_of_decide single_decided)
          (accepted_of_decide batched_decided) single_reacts batched_reacts quiet fresh

include tracked in
/-- An edit is answered alike in both sessions and leaves them in lockstep. -/
theorem step (mutation : edit.isMutation = true) (quiet : edit.isOutput = false)
    (fresh : ∀ id ∈ edit.drawn, id ∉ single.draft.ids ∧ id ∉ batched.draft.ids)
    (spared : ∀ collection id document,
      (id, document) ∈ (project.documents collection).entries →
        id ∉ (single.draft.registry collection).documentIds →
          ¬ edit.Readds comparison collection document) :
    (batched.perform edit).1 = (single.perform edit).1 ∧
      ∃ after, Lockstep comparison start project (single.perform edit).2 (batched.perform edit).2
        after := by
  have same_objection : edit.objection? batched.draft.id = edit.objection? single.draft.id := by
    rw [lockstep.facade.id_eq]
  cases objection : edit.objection? single.draft.id with
  | some failure =>
    rw [perform_of_objection objection, perform_of_objection (same_objection.trans objection)]
    exact ⟨rfl, changed, lockstep⟩
  | none =>
    obtain ⟨operation, performed, reacts⟩ := exists_operation mutation
    rw [performed single objection, performed batched (same_objection.trans objection),
      update_of_ready lockstep.single_live (Or.inr lockstep.single_settled),
      update_of_ready lockstep.batched_live (Or.inl lockstep.batching)]
    obtain ⟨result_eq, after, later⟩ :=
      lockstep.react tracked (reacts single) (reacts batched) quiet fresh spared
    exact ⟨result_eq, after, later.of_sameCore (sameCore_notify _ _) (sameCore_notify _ _)⟩

end Lockstep

end Session

end CodeWorkspace
