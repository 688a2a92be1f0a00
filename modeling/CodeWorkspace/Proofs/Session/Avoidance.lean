import CodeWorkspace.Proofs.Draft.Avoidance
import CodeWorkspace.Proofs.Host.Upkeep
import CodeWorkspace.Proofs.Session.Perform
import CodeWorkspace.Proofs.Workspace.Change

/-!
# Sessions that avoid a project

As long as a project publishes nothing, no metadata reference is taken for a reference to it.  So
nothing that is done in a session whose draft avoids the project makes the draft or the snapshot
refer to it, unless the session is told to add such a reference.
-/

namespace CodeWorkspace

namespace OutputIndex

variable {index : OutputIndex} {path : String} {id : ProjectId}

/-- The owner of a path publishes there. -/
theorem publishes_of_owner? (owned : index.owner? path = some id) :
    index.Publishes id (index.comparison.key path) := by
  rw [owner?] at owned
  split at owned
  · rename_i project only
    cases owned
    rw [← mem_ownersOf, OrderedSet.mem_def, only]
    exact List.mem_singleton_self _
  · cases owned

/-- A metadata reference is not taken for a reference to a project that publishes nothing. -/
theorem target_ne_of_reconcile (unpublished : ∀ key, ¬ index.Publishes id key) {owner : ProjectId}
    {reference : MetadataReference} {snapshot : Snapshot} {line : ProjectReference}
    (converted : reconcile owner reference index snapshot = .structural line) :
    line.target ≠ id := by
  rw [reconcile] at converted
  split at converted <;> cases converted
  rename_i target found
  rw [conversionTarget?] at found
  split at found
  · have owned := (Option.filter_eq_some_iff.mp found).1
    rintro rfl
    exact unpublished _ (publishes_of_owner? owned)
  · cases found

end OutputIndex

namespace Session

variable {session reached : Session} {target : ProjectId} {edit : Edit}

/-- Neither the draft of a session nor any project of its snapshot refers to a project. -/
structure Avoids (target : ProjectId) (session : Session) : Prop where
  draft : session.draft.Avoids target
  keyed : session.current.Keyed
  found : ∃ project, session.current.project? session.draft.id = some project
  projects : ∀ id project, session.current.project? id = some project →
    project.refersTo target = false

theorem Avoids.of_current (avoids : session.Avoids target) (draft : reached.draft.Avoids target)
    (same_id : reached.draft.id = session.draft.id) (current : reached.current = session.current) :
    reached.Avoids target where
  draft := draft
  keyed := current ▸ avoids.keyed
  found := current ▸ same_id ▸ avoids.found
  projects := current ▸ avoids.projects

/-- What is committed makes no project refer to one that none of the transitions names. -/
theorem Avoids.commit (avoids : session.Avoids target) {transitions : List Transition}
    {next : Snapshot} {version : UInt64}
    (completed : Transition.applyAll session.draft.id session.current transitions = .ok next)
    (elsewhere : ∀ transition ∈ transitions, transition.target? ≠ some target)
    (draft : reached.draft.Avoids target) (same_id : reached.draft.id = session.draft.id)
    (current : reached.current = next.withVersion version) : reached.Avoids target := by
  obtain ⟨project, found⟩ := avoids.found
  obtain ⟨changed, effects, replaced⟩ :=
    Transition.exists_effects_of_applyAll avoids.keyed found completed
  have changed_id := (Transition.id_eq_of_effects effects).trans (avoids.keyed _ _ found)
  have replaced := replaced.withVersion version
  rw [← current] at replaced
  refine ⟨draft, replaced.keyed avoids.keyed changed_id, ⟨changed, ?_⟩,
    fun id there there_found => ?_⟩
  · rw [same_id]
    exact replaced.found
  · by_cases own : id = session.draft.id
    · subst own
      rw [replaced.found] at there_found
      cases there_found
      exact Transition.not_refersTo_effects elsewhere effects (avoids.projects _ _ found)
    · rw [replaced.project?_of_ne own] at there_found
      exact avoids.projects id there there_found

theorem Avoids.flush (avoids : session.Avoids target)
    (unpublished : ∀ key, ¬ session.host.outputs.Publishes target key) :
    session.flush.2.Avoids target := by
  obtain ⟨_, ⟨draft, current⟩ | ⟨next, version, completed, draft, current⟩⟩ := session.flush_effect
  · exact avoids.of_current (draft ▸ avoids.draft) (congrArg Draft.id draft) current
  · refine avoids.commit completed ?_ (draft ▸ avoids.draft.settle) (by rw [draft]; rfl) current
    exact avoids.draft.target?_planBy_ne fun _ _ converted =>
      OutputIndex.target_ne_of_reconcile unpublished converted

theorem Avoids.react {ready : Session} {reply : Reply Answer} (avoids : ready.Avoids target)
    (unpublished : ∀ key, ¬ ready.host.outputs.Publishes target key)
    (spares : edit.Spares target) (reacts : ready.Reacts edit reply) :
    reply.session.Avoids target := by
  rcases reacts.effect with ⟨draft, current⟩ | ⟨action, accepted,
    ⟨_, draft, current⟩ | ⟨_, draft, next, version, completed, current⟩⟩
  · exact avoids.of_current (draft ▸ avoids.draft) (congrArg Draft.id draft) current
  · refine avoids.of_current ?_ ?_ current
    · rw [draft]
      exact avoids.draft.later (fun _ => Draft.target_ne_of_accepted spares accepted)
        accepted.allowed.1
    · rw [draft]
      exact (Draft.sameIdentity_later _ action).id_eq
  · have elsewhere (reference : ProjectReference)
        (adds : action = .addProjectReference reference) : reference.target ≠ target :=
      Draft.target_ne_of_accepted spares accepted adds
    refine avoids.commit completed (fun transition submitted => ?_) ?_ ?_ current
    · rw [List.mem_singleton.mp submitted]
      exact Draft.target?_transition_ne elsewhere fun _ _ converted =>
        OutputIndex.target_ne_of_reconcile unpublished converted
    · rw [draft]
      exact avoids.draft.now elsewhere
    · rw [draft]
      exact (Draft.sameIdentity_now _ action).id_eq

theorem Avoids.notify (avoids : session.Avoids target) (notices : List Notice) :
    (session.notify notices).Avoids target := avoids.of_current avoids.draft rfl rfl

theorem Avoids.reload (avoids : session.Avoids target) (collection : DocumentCollection)
    (path : String) : (session.reload collection path).2.Avoids target := by
  obtain ⟨_, ⟨draft, current⟩ | ⟨id, loader, next, version, completed, draft, current⟩⟩ :=
    session.reload_effect collection path
  · exact avoids.of_current (draft ▸ avoids.draft) (congrArg Draft.id draft) current
  · refine avoids.commit completed (by simp [Transition.target?]) ?_ ?_ current
    · rw [draft]
      exact avoids.draft.withRegistry _ collection
    · rw [draft]
      exact (Draft.sameIdentity_withRegistry _ _ collection).id_eq

theorem Avoids.fileChanged (avoids : session.Avoids target) (path : String) :
    (session.fileChanged path).2.Avoids target :=
  holds_fileChanged avoids fun _ collection held => held.reload collection path

/-- An operation adds no reference to a project that publishes nothing, unless it is told to. -/
theorem Avoids.operate (avoids : session.Avoids target)
    (unpublished : ∀ key, ¬ session.host.outputs.Publishes target key) {operation : Operation}
    (spares : ∀ edit, operation = .perform edit → edit.Spares target) :
    (session.operate operation).Avoids target := by
  cases operation with
  | perform edit =>
    by_cases file : ∃ path, edit = .fileChanged path
    · obtain ⟨path, rfl⟩ := file
      exact avoids.fileChanged path
    · refine holds_perform avoids (avoids.flush unpublished) (fun _ notices held =>
        held.notify notices) (fun ready reply stage reacts held => ?_) fun path same =>
          file ⟨path, same⟩
      refine held.react ?_ (spares edit rfl) reacts
      rcases stage with rfl | rfl
      · exact unpublished
      · rw [session.flush_effect.1]
        exact unpublished
  | beginBatch =>
    show session.beginBatch.2.Avoids target
    rw [beginBatch]
    split
    · exact avoids
    · exact avoids.of_current (avoids.draft.of_same rfl rfl) rfl rfl
  | endBatch =>
    show session.endBatch.2.Avoids target
    let left : Session :=
      { session with draft := { session.draft with batches := session.draft.batches.exit } }
    have closed : left.Avoids target := avoids.of_current (avoids.draft.of_same rfl rfl) rfl rfl
    rw [endBatch]
    split
    · exact holds_flushAndNotify (closed.flush unpublished) fun _ notices held =>
        held.notify notices
    · exact closed

end Session

end CodeWorkspace
