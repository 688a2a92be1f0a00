import CodeWorkspace.Proofs.Draft.Move

/-!
# Sessions move on

Whatever is done in a session amounts to moves of the draft and its project, and touches no other
project of the snapshot.
-/

namespace CodeWorkspace

/-- A store makes an attempt and keeps its snapshot, or commits what the change came to. -/
theorem Store.transform_cases (store : Store) (project : ProjectId)
    (change : Snapshot → Except Fault Snapshot) :
    (∃ error, store.transform project change =
      (.error error, { store with attempts := store.attempts + 1 })) ∨
    ∃ next, change store.current = .ok next ∧
      store.transform project change = (.ok (),
        { store with
          attempts := store.attempts + 1
          current := next.withVersion (store.current.version + 1)
          log := store.log ++ [⟨store.current.version + 1, project⟩] }) := by
  rw [transform]
  cases store.refusals store.attempts with
  | some reason => exact Or.inl ⟨.rejected reason, rfl⟩
  | none =>
    cases outcome : change store.current with
    | error fault => exact Or.inl ⟨.fault fault, rfl⟩
    | ok next => exact Or.inr ⟨next, rfl, rfl⟩

/-- The document whose identity was drawn for an edit. -/
def Edit.drawn : Edit → List DocumentId
  | .addFile _ _ _ _ id | .addBuffer _ _ _ _ _ id => [id]
  | _ => []

namespace Draft

theorem Move.project_id {drawn : List DocumentId} {project changed : Project}
    {draft after : Draft} (move : Move project draft drawn changed after) :
    changed.id = project.id := by
  cases move with
  | later _ _ => rfl
  | now _ _ _ _ committed => exact Transition.id_eq_of_effect committed
  | flush _ _ committed => exact Transition.id_eq_of_effects committed
  | reload _ _ _ committed => exact Transition.id_eq_of_effect committed
  | batches _ => rfl

theorem Moves.project_id {drawn : List DocumentId} {project changed : Project}
    {draft after : Draft} (moves : Moves drawn project draft changed after) :
    changed.id = project.id := by
  induction moves with
  | refl => rfl
  | step move _ ih => exact ih.trans move.project_id

end Draft

namespace Session

variable {before between after session ready : Session} {edit : Edit} {action : Draft.Action}

/-- The current snapshot. -/
def current (session : Session) : Snapshot := session.host.store.current

/-- A session moves on: its draft and its project change by moves, and no other project does. -/
structure Advances (drawn : List DocumentId) (before after : Session) : Prop where
  comparison : after.host.comparison = before.host.comparison
  refusals : after.host.store.refusals = before.host.store.refusals
  moves : ∀ project, before.current.Keyed →
    before.current.project? before.draft.id = some project →
    ∃ changed, Draft.Moves drawn project before.draft changed after.draft ∧
      before.current.Replaced before.draft.id changed after.current

theorem Advances.of_same (draft : after.draft = before.draft)
    (current : after.current = before.current)
    (comparison : after.host.comparison = before.host.comparison)
    (refusals : after.host.store.refusals = before.host.store.refusals) :
    Advances [] before after := by
  refine ⟨comparison, refusals, fun project _ found => ⟨project, ?_, ?_⟩⟩
  · rw [draft]
    exact .refl project before.draft
  · rw [current]
    exact .refl found

theorem Advances.refl (session : Session) : Advances [] session session := .of_same rfl rfl rfl rfl

theorem SameCore.advances (same : SameCore before after) : Advances [] before after :=
  .of_same same.draft (congrArg Store.current same.store)
    (congrArg OutputIndex.comparison same.outputs) (congrArg Store.refusals same.store)

theorem Advances.trans {drawn later : List DocumentId} (first : Advances drawn before between)
    (second : Advances later between after) : Advances (drawn ++ later) before after := by
  refine ⟨second.comparison.trans first.comparison, second.refusals.trans first.refusals, ?_⟩
  intro project keyed found
  obtain ⟨middle, moves, replaced⟩ := first.moves project keyed found
  have id_eq := moves.sameIdentity.id_eq
  have middle_id := moves.project_id.trans (keyed _ _ found)
  have found_middle : between.current.project? between.draft.id = some middle := by
    rw [id_eq]
    exact replaced.found
  obtain ⟨changed, later_moves, later_replaced⟩ :=
    second.moves middle (replaced.keyed keyed middle_id) found_middle
  rw [id_eq] at later_replaced
  exact ⟨changed, moves.trans later_moves, replaced.trans later_replaced⟩

/-- A session moves on when what is submitted is committed together with a move of the draft. -/
theorem advances_of_committed {drawn : List DocumentId} {transitions : List Transition}
    {next : Snapshot} {version : UInt64}
    (completed : Transition.applyAll before.draft.id before.current transitions = .ok next)
    (move : ∀ closes project changed,
      Transition.effects closes project transitions = .ok changed →
        Draft.Move project before.draft drawn changed after.draft)
    (current : after.current = next.withVersion version)
    (comparison : after.host.comparison = before.host.comparison)
    (refusals : after.host.store.refusals = before.host.store.refusals) :
    Advances drawn before after := by
  refine ⟨comparison, refusals, fun project keyed found => ?_⟩
  obtain ⟨changed, effects, replaced⟩ :=
    Transition.exists_effects_of_applyAll keyed found completed
  rw [current]
  exact ⟨changed, (move _ project changed effects).moves, replaced.withVersion version⟩

/-! ## Committing what waits -/

theorem hasPending_settle (draft : Draft) : draft.settle.2.hasPending = false := rfl

theorem flush_cases (session : Session) :
    (∃ failure, session.flush = (.error failure, { session with host := { session.host with
      store := { session.host.store with attempts := session.host.store.attempts + 1 } } })) ∨
    ∃ notices flushed, session.flush = (.ok notices, flushed) ∧ Advances [] session flushed ∧
      flushed.draft.hasPending = false ∧ flushed.draft.isBatching = session.draft.isBatching := by
  rw [flush]
  cases pending : session.draft.hasPending with
  | false => exact Or.inr ⟨[], session, rfl, .refl session, pending, rfl⟩
  | true =>
    simp only [if_true, submit, transform]
    rcases session.host.store.transform_cases session.draft.id fun snapshot =>
      Transition.applyAll session.draft.id snapshot
        (session.draft.plan session.host.outputs snapshot) with
      ⟨error, failed⟩ | ⟨next, completed, committed⟩
    · rw [failed]
      exact Or.inl ⟨_, rfl⟩
    · rw [committed]
      refine Or.inr ⟨_, _, rfl, ?_, hasPending_settle _, rfl⟩
      exact advances_of_committed completed (fun closes project changed effects =>
        .flush closes _ effects) rfl rfl rfl

/-! ## Edits -/

theorem lookupPath_tracked {registry : Registry} {path : String} {id : DocumentId}
    (found : registry.lookupPath path = .ok id) : registry.isTracked id = true := by
  rw [Registry.lookupPath] at found
  split at found
  · rename_i other found_there
    cases found
    exact (Option.filter_eq_some_iff.mp found_there).2
  · cases found

theorem lookupBuffer_tracked {registry : Registry} {buffer : BufferId} {id : DocumentId}
    (found : registry.lookupBuffer buffer = .ok id) : registry.isTracked id = true := by
  rw [Registry.lookupBuffer] at found
  split at found
  · rename_i other found_there
    cases found
    exact (Option.filter_eq_some_iff.mp found_there).2
  · cases found

private theorem map_ok {α β : Type} {result : Except Failure α} {change : α → β} {value : β}
    (completed : result.map change = .ok value) :
    ∃ input, result = .ok input ∧ change input = value := by
  cases result with
  | error failure => cases completed
  | ok input => exact ⟨input, rfl, Except.ok.inj completed⟩

/-- What an edit is accepted as, and on which conditions. -/
inductive Accepted (session : Session) : Edit → Draft.Action → Prop where
  | addFile {collection : DocumentCollection} {path : String} {kind : SourceKind}
      {folders : List String} {id : DocumentId}
      (free : (session.draft.registry collection).ensureCanAdd (some path) none = .ok ()) :
      Accepted session (.addFile collection path kind folders id)
        (.insert collection (.ofFile id path kind folders) none
          (some ⟨session.host.watcher.next⟩))
  | removeFile {collection : DocumentCollection} {path : String} {id : DocumentId}
      (found : (session.draft.registry collection).lookupPath path = .ok id) :
      Accepted session (.removeFile collection path) (.remove collection id)
  | addBuffer {collection : DocumentCollection} {held : BufferId} {path? : Option String}
      {kind : SourceKind} {folders : List String} {id : DocumentId}
      (free : (session.draft.registry collection).ensureCanAdd path? (some held) = .ok ()) :
      Accepted session (.addBuffer collection held path? kind folders id)
        (.insert collection (.ofBuffer id held path? kind folders) (some held) none)
  | removeBuffer {collection : DocumentCollection} {held : BufferId} {id : DocumentId}
      (found : (session.draft.registry collection).lookupBuffer held = .ok id) :
      Accepted session (.removeBuffer collection held) (.remove collection id)
  | addMetadataReference {reference : MetadataReference}
      (absent : reference ∉ session.draft.metadataReferences) :
      Accepted session (.addMetadataReference reference) (.addMetadataReference reference)
  | removeMetadataReference {reference : MetadataReference}
      (present : reference ∈ session.draft.metadataReferences) :
      Accepted session (.removeMetadataReference reference) (.removeMetadataReference reference)
  | addProjectReference {reference : ProjectReference}
      (untracked : session.draft.referenceTo? reference.target = none)
      (unclosed : session.current.closes session.draft.id reference.target = false) :
      Accepted session (.addProjectReference reference) (.addProjectReference reference)
  | removeProjectReference {target : ProjectId} {reference : ProjectReference}
      (found : session.draft.referenceTo? target = some reference) :
      Accepted session (.removeProjectReference target) (.removeProjectReference reference)
  | addAnalyzer {path : String} (absent : ⟨path⟩ ∉ session.draft.analyzerReferences) :
      Accepted session (.addAnalyzer path) (.addAnalyzer ⟨path⟩)
  | removeAnalyzer {path : String} (present : ⟨path⟩ ∈ session.draft.analyzerReferences) :
      Accepted session (.removeAnalyzer path) (.removeAnalyzer ⟨path⟩)
  | setProperty {property : Property}
      (differs : ¬ session.draft.properties.holds property = true) :
      Accepted session (.setProperty property) (.setProperty property)

theorem accepted_of_decide (decided : session.decide edit = .ok (some action)) :
    Accepted session edit action := by
  cases edit with
  | addFile collection path kind folders id =>
    obtain ⟨_, free, same⟩ := map_ok decided
    cases same
    exact .addFile free
  | removeFile collection path =>
    obtain ⟨id, found, same⟩ := map_ok decided
    cases same
    exact .removeFile found
  | addBuffer collection held path? kind folders id =>
    obtain ⟨_, free, same⟩ := map_ok decided
    cases same
    exact .addBuffer free
  | removeBuffer collection held =>
    obtain ⟨id, found, same⟩ := map_ok decided
    cases same
    exact .removeBuffer found
  | addMetadataReference reference =>
    simp only [decide] at decided
    split at decided <;> cases decided
    rename_i absent
    exact .addMetadataReference absent
  | removeMetadataReference reference =>
    simp only [decide] at decided
    split at decided <;> cases decided
    rename_i present
    exact .removeMetadataReference present
  | addProjectReference reference =>
    simp only [decide] at decided
    split at decided
    · cases decided
    · rename_i untracked
      split at decided <;> cases decided
      rename_i unclosed
      exact .addProjectReference (Option.not_isSome_iff_eq_none.mp untracked)
        (Bool.eq_false_iff.mpr unclosed)
  | removeProjectReference target =>
    simp only [decide] at decided
    split at decided <;> cases decided
    rename_i found
    exact .removeProjectReference found
  | addAnalyzer path =>
    simp only [decide] at decided
    split at decided <;> cases decided
    rename_i absent
    exact .addAnalyzer absent
  | removeAnalyzer path =>
    simp only [decide] at decided
    split at decided <;> cases decided
    rename_i present
    exact .removeAnalyzer present
  | setProperty property =>
    simp only [decide] at decided
    split at decided <;> cases decided
    rename_i differs
    exact .setProperty differs
  | commitPending => cases decided
  | fileChanged path => cases decided

/-- An action that an edit is accepted as is allowed, and introduces the document of the edit. -/
theorem Accepted.allowed (accepted : Accepted session edit action) :
    action.Allowed session.draft ∧ action.drawn = edit.drawn := by
  cases accepted with
  | addFile free => exact ⟨⟨free, rfl⟩, rfl⟩
  | removeFile found => exact ⟨lookupPath_tracked found, rfl⟩
  | addBuffer free => exact ⟨⟨free, rfl⟩, rfl⟩
  | removeBuffer found => exact ⟨lookupBuffer_tracked found, rfl⟩
  | addMetadataReference absent => exact ⟨absent, rfl⟩
  | removeMetadataReference present => exact ⟨present, rfl⟩
  | addProjectReference untracked _ => exact ⟨untracked, rfl⟩
  | removeProjectReference found => exact ⟨List.mem_of_find?_eq_some found, rfl⟩
  | addAnalyzer absent => exact ⟨absent, rfl⟩
  | removeAnalyzer present => exact ⟨present, rfl⟩
  | setProperty _ => exact ⟨trivial, rfl⟩

/-- A project that is ready moves on when it does what was decided for an edit. -/
theorem Reacts.advances {reply : Reply Answer} (reacts : ready.Reacts edit reply)
    (settled : ready.draft.isBatching = true ∨ ready.draft.hasPending = false) :
    ∃ drawn, drawn.Sublist edit.drawn ∧ Advances drawn ready reply.session := by
  rw [Reacts] at reacts
  split at reacts
  · exact ⟨[], List.nil_sublist _, reacts.2.advances⟩
  · exact ⟨[], List.nil_sublist _, reacts.2.advances⟩
  · rename_i action decided
    obtain ⟨allowed, drawn_eq⟩ := (accepted_of_decide decided).allowed
    rw [CarriesOut] at reacts
    split at reacts
    · rename_i batching
      obtain ⟨_, reached⟩ := reacts
      refine ⟨action.drawn, drawn_eq ▸ List.Sublist.refl _, reached.outputs.1,
        congrArg Store.refusals reached.store, fun project _ found => ⟨project, ?_, ?_⟩⟩
      · rw [reached.draft]
        exact (Draft.Move.later batching allowed).moves
      · have same_current : reply.session.current = ready.current :=
          congrArg Store.current reached.store
        rw [same_current]
        exact .refl found
    · rename_i closed
      have settled := settled.resolve_left closed
      rcases ready.host.store.transform_cases ready.draft.id fun snapshot =>
        Transition.applyAll ready.draft.id snapshot
          [action.transition (representing ready snapshot)] with
        ⟨error, failed⟩ | ⟨next, completed, committed⟩
      · rw [failed] at reacts
        obtain ⟨_, reached⟩ := reacts
        have same_current : reply.session.current = ready.current := by
          rw [current, reached.store]
          rfl
        have same_refusals : reply.session.host.store.refusals = ready.host.store.refusals := by
          rw [reached.store]
        exact ⟨[], List.nil_sublist _,
          .of_same reached.draft same_current reached.outputs.1 same_refusals⟩
      · rw [committed] at reacts
        obtain ⟨_, reached⟩ := reacts
        have next_current : reply.session.current =
            next.withVersion (ready.host.store.current.version + 1) := by
          rw [current, reached.store]
        have same_refusals : reply.session.host.store.refusals = ready.host.store.refusals := by
          rw [reached.store]
        refine ⟨action.drawn, drawn_eq ▸ List.Sublist.refl _, advances_of_committed completed
          (fun closes project changed effects => ?_) next_current reached.outputs.1
          same_refusals⟩
        rw [Transition.effects_singleton] at effects
        rw [reached.draft]
        exact .now closes _ settled allowed effects

theorem sameCore_notify (session : Session) (notices : List Notice) :
    SameCore session (session.notify notices) := ⟨rfl, rfl, rfl⟩

/-- A session moves on by an operation, once what was left waiting has been committed. -/
theorem advances_update {operation : Session → Reply Answer}
    (reacts : ∀ ready : Session, ready.Reacts edit (operation ready))
    (session : Session) :
    ∃ drawn, drawn.Sublist edit.drawn ∧ Advances drawn session (session.update operation).2 := by
  have carried_out (ready : Session) (notices : List Notice)
      (settled : ready.draft.isBatching = true ∨ ready.draft.hasPending = false)
      (first : Advances [] session ready) :
      ∃ drawn, drawn.Sublist edit.drawn ∧ Advances drawn session
        ((operation ready).session.notify (notices ++ (operation ready).notices)) := by
    obtain ⟨drawn, drawn_sub, second⟩ := (reacts ready).advances settled
    have told := (sameCore_notify (operation ready).session
      (notices ++ (operation ready).notices)).advances
    have all := first.trans (second.trans told)
    rw [List.append_nil, List.nil_append] at all
    exact ⟨drawn, drawn_sub, all⟩
  rw [update]
  split
  · exact ⟨[], List.nil_sublist _, .refl session⟩
  · by_cases batching : session.draft.isBatching = true
    · simp only [if_pos batching]
      exact carried_out session [] (Or.inl batching) (.refl session)
    · simp only [if_neg batching]
      rcases session.flush_cases with
        ⟨failure, failed⟩ | ⟨notices, flushed, done, first, settled, _⟩
      · rw [failed]
        exact ⟨[], List.nil_sublist _, .of_same rfl rfl rfl rfl⟩
      · rw [done]
        exact carried_out flushed notices (Or.inr settled) first

theorem flushAndNotify_advances (session : Session) :
    Advances [] session session.flushAndNotify.2 := by
  rw [flushAndNotify]
  rcases session.flush_cases with ⟨failure, failed⟩ | ⟨notices, flushed, done, first, _, _⟩
  · rw [failed]
    exact .of_same rfl rfl rfl rfl
  · rw [done]
    exact first.trans (sameCore_notify flushed notices).advances

theorem commitPending_advances (session : Session) :
    Advances [] session session.commitPending.2 := by
  rw [commitPending]
  split
  · exact .refl session
  · split
    · exact .refl session
    · exact session.flushAndNotify_advances

theorem reload_advances (session : Session) (collection : DocumentCollection) (path : String) :
    Advances [] session (session.reload collection path).2 := by
  rw [reload]
  split
  · exact .refl session
  · rename_i id loader target
    have candidate : (session.draft.registry collection).reloadCandidate? path =
        some (id, loader) := by
      rw [reloadTarget?] at target
      split at target
      · cases target
      · exact target
    simp only [commit, submit, transform]
    rcases session.host.store.transform_cases session.draft.id fun snapshot =>
      Transition.applyAll session.draft.id snapshot [.reloadDocument collection id loader] with
      ⟨error, failed⟩ | ⟨next, completed, committed⟩
    · rw [failed]
      exact .of_same rfl rfl rfl rfl
    · rw [committed]
      refine advances_of_committed completed (fun closes project changed effects => ?_) rfl rfl rfl
      rw [Transition.effects_singleton] at effects
      exact .reload closes collection candidate effects

theorem fileChanged_advances (session : Session) (path : String) :
    Advances [] session (session.fileChanged path).2 := by
  rw [fileChanged]
  split
  · exact .refl session
  · have first := session.reload_advances .source path
    split
    · rename_i attempted outcome
      rw [outcome] at first
      exact first
    · rename_i inSources reached outcome
      rw [outcome] at first
      have second := reached.reload_advances .additional path
      split
      · rename_i attempted outcome
        rw [outcome] at second
        exact first.trans second
      · rename_i inAdditional last outcome
        rw [outcome] at second
        exact first.trans second

/-- A session moves on by every edit, and introduces no other document than that of the edit. -/
theorem perform_advances (session : Session) (edit : Edit) :
    ∃ drawn, drawn.Sublist edit.drawn ∧ Advances drawn session (session.perform edit).2 := by
  by_cases mutation : edit.isMutation = true
  · cases objection : edit.objection? session.draft.id with
    | some failure =>
      rw [perform_of_objection objection]
      exact ⟨[], List.nil_sublist _, .refl session⟩
    | none =>
      obtain ⟨operation, performed, reacts⟩ := exists_operation mutation
      rw [performed session objection]
      exact advances_update reacts session
  · cases edit with
    | commitPending => exact ⟨[], List.nil_sublist _, session.commitPending_advances⟩
    | fileChanged path => exact ⟨[], List.nil_sublist _, session.fileChanged_advances path⟩
    | _ => exact absurd rfl mutation

/-! ## Batches -/

theorem batches_advances (session : Session) (batches : BatchCounter) :
    Advances [] session { session with draft := { session.draft with batches } } :=
  ⟨rfl, rfl, fun project _ found =>
    ⟨project, (Draft.Move.batches batches).moves, .refl found⟩⟩

theorem beginBatch_advances (session : Session) : Advances [] session session.beginBatch.2 := by
  rw [beginBatch]
  split
  · exact .refl session
  · exact session.batches_advances _

theorem endBatch_advances (session : Session) : Advances [] session session.endBatch.2 := by
  have left := session.batches_advances session.draft.batches.exit
  rw [endBatch]
  split
  · exact left.trans (flushAndNotify_advances _)
  · exact left

end Session

end CodeWorkspace
