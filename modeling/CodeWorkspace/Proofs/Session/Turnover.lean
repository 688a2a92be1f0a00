import CodeWorkspace.Proofs.Draft.Turnover
import CodeWorkspace.Proofs.Session.Commit
import CodeWorkspace.Proofs.Session.Perform

/-!
# Operations turn metadata references over

An operation on a project commits in at most two portions: what was left waiting, and what the
operation itself is about.  Each portion is a commit or changes nothing, and turns the metadata
references of the project over as they are represented at its beginning.  When a file changes,
documents may be loaded anew, but no references change.
-/

namespace CodeWorkspace

/-! ## Snapshots with the same references -/

/-- The part of a project that is about references to files and projects. -/
def Project.outline (project : Project) : ProjectId × List MetadataReference ×
    List ProjectReference × OrderedMap ProjectReference Holders :=
  (project.id, project.metadataReferences, project.projectReferences, project.holders)

theorem Project.sameReferences_of_outline {project changed : Project}
    (same : changed.outline = project.outline) :
    changed.id = project.id ∧ project.SameReferences changed := by
  simp only [outline, Prod.mk.injEq] at same
  exact ⟨same.1, same.2.1, same.2.2.1, same.2.2.2⟩

/-- The part of a draft that is about references to files. -/
def Draft.outline (draft : Draft) :
    ProjectId × Bool × OrderedSet MetadataReference × PendingSet MetadataReference :=
  (draft.id, draft.removed, draft.metadataReferences, draft.changes.metadataReferences)

namespace Snapshot

variable {snapshot middle next : Snapshot} {id : ProjectId} {project changed : Project}

/-- Two snapshots with the same projects, which have the same references. -/
def SameOutline (snapshot next : Snapshot) : Prop :=
  ∀ id, (next.project? id).map Project.outline = (snapshot.project? id).map Project.outline

theorem SameOutline.trans (first : SameOutline snapshot middle) (second : SameOutline middle next) :
    SameOutline snapshot next := fun id => (second id).trans (first id)

theorem SameOutline.of_found (same : SameOutline snapshot next)
    (found : next.project? id = some changed) : ∃ project, snapshot.project? id = some project ∧
      changed.id = project.id ∧ project.SameReferences changed := by
  have outlined := same id
  rw [found, Option.map_some, eq_comm, Option.map_eq_some_iff] at outlined
  obtain ⟨project, project_found, outline_eq⟩ := outlined
  exact ⟨project, project_found, Project.sameReferences_of_outline outline_eq.symm⟩

theorem SameOutline.contains_eq (same : SameOutline snapshot next) (id : ProjectId) :
    next.contains id = snapshot.contains id := by
  have outlined := congrArg Option.isSome (same id)
  simp only [Option.isSome_map, project?, OrderedMap.isSome_get?] at outlined
  exact outlined

/-- Snapshots with the same references are sound alike. -/
theorem SameOutline.sound (same : SameOutline snapshot next) (sound : snapshot.Sound) :
    next.Sound := by
  have shrunk : Shrunk snapshot next := by
    refine ⟨fun id changed found => ?_, ?_⟩
    · obtain ⟨project, project_found, id_eq, _⟩ := same.of_found found
      exact id_eq.trans (sound.keyed id project project_found)
    · rintro source target ⟨changed, found, refers⟩
      obtain ⟨project, project_found, _, _, references_eq, _⟩ := same.of_found found
      refine ⟨project, project_found, ?_⟩
      rwa [Project.refersTo, references_eq] at refers
  exact shrunk.sound sound

/-- Loading a document anew changes no references. -/
theorem sameOutline_reload {collection : DocumentCollection} {document : DocumentId}
    {loader : Loader} (completed : Transition.applyAll id snapshot
      [.reloadDocument collection document loader] = .ok next) : SameOutline snapshot next := by
  simp only [Transition.applyAll, Transition.apply] at completed
  cases found : snapshot.project? id with
  | none =>
    rw [modifyWhole, modify_of_missing found] at completed
    cases completed
  | some project =>
    rw [modifyWhole, modify_of_found found, Attempt.toExcept_map, Attempt.toExcept_ofExcept]
      at completed
    cases reloaded : project.replaceLoader collection document loader with
    | error fault =>
      rw [reloaded] at completed
      cases completed
    | ok changed =>
      rw [reloaded] at completed
      cases completed
      have effect : (Transition.reloadDocument collection document loader).effect
          (snapshot.closes id) project = .ok changed := reloaded
      obtain ⟨metadata_eq, references_eq, holders_eq⟩ :=
        Project.references_of_sameBut (Transition.sameBut_of_effect effect)
          (by simp [Transition.part])
      have outline_eq : changed.outline = project.outline := by
        rw [Project.outline, Project.outline, metadata_eq, references_eq, holders_eq,
          Transition.id_eq_of_effect effect]
      intro other
      rw [project?_write]
      split
      · rename_i same
        rw [same, found, Option.map_some, Option.map_some, outline_eq]
      · rfl

end Snapshot

namespace Session

variable {before between after first second session ready : Session} {edit : Edit}

/-! ## Turnover -/

/-- An operation commits transitions of the project or nothing, and turns metadata references over
as they are represented before it. -/
structure TurnsOver (before after : Session) : Prop where
  sameIdentity : before.draft.SameIdentity after.draft
  applied : after.current = before.current ∨ ∃ transitions next version,
    Transition.applyAll before.draft.id before.current transitions = .ok next ∧
      after.current = next.withVersion version
  turnover : ∀ project, before.current.Keyed →
    before.current.project? before.draft.id = some project →
      Draft.Accountable project before.draft → ∃ changed,
        before.current.Replaced before.draft.id changed after.current ∧
          Draft.Turnover before.represent project before.draft changed after.draft

theorem turnsOver_of_same (draft : after.draft = before.draft)
    (current : after.current = before.current) : TurnsOver before after where
  sameIdentity := draft ▸ ⟨rfl, rfl⟩
  applied := Or.inl current
  turnover project _ found _ := by
    refine ⟨project, ?_, ?_⟩
    · rw [current]
      exact .refl found
    · rw [draft]
      exact Draft.turnover_of_same rfl (fun _ => rfl) fun _ => Iff.rfl

theorem TurnsOver.congr (turns : TurnsOver first second) (before_same : SameCore first before)
    (after_same : SameCore second after) : TurnsOver before after := by
  have before_current : before.current = first.current := congrArg Store.current before_same.store
  have after_current : after.current = second.current := congrArg Store.current after_same.store
  have represent_eq : before.represent = first.represent := by
    funext reference
    simp only [represent, representing, before_current, before_same.draft, before_same.outputs]
  obtain ⟨sameIdentity, applied, turnover⟩ := turns
  constructor
  · rw [before_same.draft, after_same.draft]
    exact sameIdentity
  · rw [before_same.draft, before_current, after_current]
    exact applied
  · rw [before_same.draft, after_same.draft, before_current, after_current, represent_eq]
    exact turnover

theorem TurnsOver.sound (turns : TurnsOver before after) (sound : before.current.Sound) :
    after.current.Sound := by
  rcases turns.applied with same | ⟨transitions, next, version, completed, current⟩
  · rw [same]
    exact sound
  · have next_sound := Transition.sound_applyAll sound completed
    rw [current]
    exact ⟨next_sound.keyed, next_sound.acyclic⟩

/-- Transitions that are committed together with a change of the draft. -/
theorem turnsOver_of_committed {transitions : List Transition} {next : Snapshot} {version : UInt64}
    (completed : Transition.applyAll before.draft.id before.current transitions = .ok next)
    (current : after.current = next.withVersion version)
    (sameIdentity : before.draft.SameIdentity after.draft)
    (turnover : ∀ project changed, Draft.Accountable project before.draft →
      Transition.effects before.closing project transitions = .ok changed →
        Draft.Turnover before.represent project before.draft changed after.draft) :
    TurnsOver before after where
  sameIdentity := sameIdentity
  applied := Or.inr ⟨transitions, next, version, completed, current⟩
  turnover project keyed found accountable := by
    obtain ⟨changed, effects, replaced⟩ :=
      Transition.exists_effects_of_applyAll keyed found completed
    rw [current]
    exact ⟨changed, replaced.withVersion version, turnover project changed accountable effects⟩

theorem flush_turnsOver (session : Session) : TurnsOver session session.flush.2 := by
  obtain ⟨_, ⟨draft, current⟩ | ⟨next, version, completed, draft, current⟩⟩ := session.flush_effect
  · exact turnsOver_of_same draft current
  · refine turnsOver_of_committed completed current (draft ▸ ⟨rfl, rfl⟩)
      fun project changed accountable effects => ?_
    rw [draft]
    exact Draft.turnover_settle session.sensible_represent accountable effects

/-- What was decided for an edit turns over the references that it is about. -/
theorem Reacts.turnsOver {reply : Reply Answer} (reacts : ready.Reacts edit reply)
    (settled : ready.draft.isBatching = true ∨ ready.draft.hasPending = false) :
    TurnsOver ready reply.session := by
  rcases reacts.effect with ⟨draft, current⟩ | ⟨action, accepted, waits | commits⟩
  · exact turnsOver_of_same draft current
  · obtain ⟨batching, draft, current⟩ := waits
    refine ⟨draft ▸ Draft.sameIdentity_later _ _, Or.inl current,
      fun project _ found accountable => ?_⟩
    rw [current, draft]
    exact ⟨project, .refl found, Draft.turnover_later accountable accepted.allowed.1⟩
  · obtain ⟨closed, draft, next, version, completed, current⟩ := commits
    refine turnsOver_of_committed completed current (draft ▸ Draft.sameIdentity_now _ _)
      fun project changed accountable effects => ?_
    rw [Transition.effects_singleton] at effects
    rw [draft]
    refine Draft.turnover_now ready.sensible_represent accountable ?_ accepted.allowed.1 effects
    exact settled.resolve_left (closed ▸ Bool.false_ne_true)

theorem flushAndNotify_turnsOver (session : Session) :
    TurnsOver session session.flushAndNotify.2 :=
  holds_flushAndNotify session.flush_turnsOver fun _ _ turns =>
    turns.congr (.refl _) (sameCore_notify _ _)

theorem commitPending_turnsOver (session : Session) :
    TurnsOver session session.commitPending.2 := by
  rw [commitPending]
  split
  · exact turnsOver_of_same rfl rfl
  · split
    · exact turnsOver_of_same rfl rfl
    · exact session.flushAndNotify_turnsOver

/-- How many batches are open makes no difference to what is turned over. -/
theorem TurnsOver.of_batches {batches : BatchCounter}
    (turns : TurnsOver { session with draft := { session.draft with batches } } after) :
    TurnsOver session after where
  sameIdentity := ⟨turns.sameIdentity.id_eq, turns.sameIdentity.removed_eq⟩
  applied := turns.applied
  turnover project keyed found accountable := by
    obtain ⟨changed, replaced, listed, converted⟩ := turns.turnover project keyed found
      ⟨accountable.tracks.of_same ⟨rfl, rfl, rfl⟩ rfl rfl rfl rfl, accountable.distinct⟩
    exact ⟨changed, replaced, listed, converted⟩

theorem endBatch_turnsOver (session : Session) : TurnsOver session session.endBatch.2 := by
  simp only [endBatch]
  split
  · exact (flushAndNotify_turnsOver _).of_batches
  · have closed : TurnsOver
        { session with draft := { session.draft with batches := session.draft.batches.exit } }
        { session with draft := { session.draft with batches := session.draft.batches.exit } } :=
      turnsOver_of_same rfl rfl
    exact closed.of_batches

/-! ## Two portions -/

/-- The session after what was left waiting has been committed, if that is done before an edit. -/
def prepare (session : Session) (edit : Edit) : Session :=
  if edit.isMutation ∧ edit.objection? session.draft.id = none then session.commitPending.2
  else session

theorem prepare_turnsOver (session : Session) (edit : Edit) :
    TurnsOver session (session.prepare edit) := by
  rw [prepare]
  split
  · exact session.commitPending_turnsOver
  · exact turnsOver_of_same rfl rfl

/-- After what was left waiting has been committed, the rest of an operation turns over the
references that it is about. -/
theorem update_turnsOver {operation : Session → Reply Answer}
    (reacts : ∀ ready : Session, ready.Reacts edit (operation ready))
    (live : session.draft.removed = false) :
    TurnsOver session.commitPending.2 (session.update operation).2 := by
  have alive : ¬ session.draft.removed = true := Bool.eq_false_iff.mp live
  have rest (ready : Session) (notices told : List Notice)
      (settled : ready.draft.isBatching = true ∨ ready.draft.hasPending = false) :
      TurnsOver (ready.notify told)
        ((operation ready).session.notify (notices ++ (operation ready).notices)) :=
    ((reacts ready).turnsOver settled).congr (sameCore_notify _ _) (sameCore_notify _ _)
  rw [update, commitPending, if_neg alive, if_neg alive]
  by_cases batching : session.draft.isBatching = true
  · simp only [if_pos batching]
    have unchanged : SameCore (session.notify []) session := ⟨rfl, rfl, rfl⟩
    exact (rest session [] [] (Or.inl batching)).congr unchanged (.refl _)
  · simp only [if_neg batching, flushAndNotify]
    rcases session.flush_cases with ⟨failure, failed⟩ | ⟨notices, flushed, done, _, settled, _⟩
    · rw [failed]
      exact turnsOver_of_same rfl rfl
    · rw [done]
      exact rest flushed notices notices (Or.inr settled)

/-- An edit commits what was left waiting before anything else, and then turns over the references
that it is about.  A change of a file is not about references. -/
theorem perform_turnsOver (session : Session) {edit : Edit}
    (other : ∀ path, edit ≠ .fileChanged path) :
    TurnsOver (session.prepare edit) (session.perform edit).2 := by
  rw [prepare]
  by_cases mutation : edit.isMutation = true
  · cases objection : edit.objection? session.draft.id with
    | some failure =>
      rw [if_neg (by simp), perform_of_objection objection]
      exact turnsOver_of_same rfl rfl
    | none =>
      rw [if_pos ⟨mutation, rfl⟩]
      cases removed : session.draft.removed with
      | true =>
        rw [perform_of_removed removed, commitPending, if_pos removed]
        exact turnsOver_of_same rfl rfl
      | false =>
        obtain ⟨operation, performed, reacts⟩ := exists_operation mutation
        rw [performed session objection]
        exact update_turnsOver reacts removed
  · rw [if_neg fun both => mutation both.1]
    cases edit with
    | commitPending => exact session.commitPending_turnsOver
    | fileChanged path => exact absurd rfl (other path)
    | _ => exact absurd rfl mutation

/-! ## Nothing about references -/

/-- Nothing about references to files has changed in a session. -/
structure Quiet (before after : Session) : Prop where
  draft : after.draft.outline = before.draft.outline
  snapshot : before.current.SameOutline after.current

theorem quiet_of_current (draft : after.draft.outline = before.draft.outline)
    (current : after.current = before.current) : Quiet before after :=
  ⟨draft, fun id => by rw [current]⟩

theorem Quiet.refl (session : Session) : Quiet session session := quiet_of_current rfl rfl

theorem Quiet.trans (one : Quiet before between) (other : Quiet between after) :
    Quiet before after :=
  ⟨other.draft.trans one.draft, one.snapshot.trans other.snapshot⟩

theorem reload_quiet (session : Session) (collection : DocumentCollection) (path : String) :
    Quiet session (session.reload collection path).2 := by
  obtain ⟨_, ⟨draft, current⟩ | ⟨id, loader, next, version, completed, draft, current⟩⟩ :=
    session.reload_effect collection path
  · exact quiet_of_current (congrArg Draft.outline draft) current
  · have outline := Snapshot.sameOutline_reload completed
    refine ⟨?_, fun id => ?_⟩
    · rw [draft]
      cases collection <;> rfl
    · rw [current]
      exact outline id

theorem fileChanged_quiet (session : Session) (path : String) :
    Quiet session (session.fileChanged path).2 :=
  holds_fileChanged (.refl session) fun reached collection quiet =>
    quiet.trans (reached.reload_quiet collection path)

theorem beginBatch_quiet (session : Session) : Quiet session session.beginBatch.2 := by
  rw [beginBatch]
  split
  · exact .refl session
  · exact quiet_of_current rfl rfl

end Session

end CodeWorkspace
