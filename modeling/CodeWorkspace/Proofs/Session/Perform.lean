import CodeWorkspace.Proofs.Session.Advance

/-!
# The course of an operation

Whatever is done in a session goes the same way: what was left waiting is committed, an action is
put off or committed, and the editor is told.  What each of these keeps is kept by every operation
but the change of a file, which loads documents anew and does nothing else.
-/

namespace CodeWorkspace

namespace Session

variable {session ready : Session} {edit : Edit} {holds : Session → Prop}

/-! ## Stages -/

/-- Committing what waits leaves the draft and the snapshot alone, or settles the draft and brings
its plan into the snapshot. -/
theorem flush_effect (session : Session) :
    session.flush.2.host.outputs = session.host.outputs ∧
      (session.flush.2.draft = session.draft ∧ session.flush.2.current = session.current ∨
        ∃ next version, Transition.applyAll session.draft.id session.current
            (session.draft.plan session.host.outputs session.current) = .ok next ∧
          session.flush.2.draft = session.draft.settle.2 ∧
          session.flush.2.current = next.withVersion version) := by
  rw [flush]
  split
  · simp only [submit, transform]
    rcases session.host.store.transform_cases session.draft.id fun snapshot =>
      Transition.applyAll session.draft.id snapshot
        (session.draft.plan session.host.outputs snapshot) with
      ⟨error, failed⟩ | ⟨next, completed, committed⟩
    · rw [failed]
      exact ⟨rfl, Or.inl ⟨rfl, rfl⟩⟩
    · rw [committed]
      exact ⟨rfl, Or.inr ⟨next, _, completed, rfl, rfl⟩⟩
  · exact ⟨rfl, Or.inl ⟨rfl, rfl⟩⟩

/-- An edit leaves the draft and the snapshot alone, or the action that it is accepted as is put
off or committed. -/
theorem Reacts.effect {reply : Reply Answer} (reacts : ready.Reacts edit reply) :
    reply.session.draft = ready.draft ∧ reply.session.current = ready.current ∨
    ∃ action, ready.Accepted edit action ∧
      (ready.draft.isBatching = true ∧ reply.session.draft = action.later ready.draft ∧
          reply.session.current = ready.current ∨
        ready.draft.isBatching = false ∧ reply.session.draft = action.now ready.draft ∧
          ∃ next version, Transition.applyAll ready.draft.id ready.current
              [action.transition (ready.representing ready.current)] = .ok next ∧
            reply.session.current = next.withVersion version) := by
  have of_same {reached : Session} (same : SameCore ready reached) :
      reached.draft = ready.draft ∧ reached.current = ready.current :=
    ⟨same.draft, congrArg Store.current same.store⟩
  rw [Reacts] at reacts
  split at reacts
  · exact Or.inl (of_same reacts.2)
  · exact Or.inl (of_same reacts.2)
  · rename_i action decided
    rw [CarriesOut] at reacts
    split at reacts
    · rename_i batching
      obtain ⟨_, reached⟩ := reacts
      exact Or.inr ⟨action, accepted_of_decide decided, Or.inl ⟨batching, reached.draft,
        congrArg Store.current reached.store⟩⟩
    · rename_i closed
      rcases ready.host.store.transform_cases ready.draft.id fun snapshot =>
        Transition.applyAll ready.draft.id snapshot
          [action.transition (representing ready snapshot)] with
        ⟨error, failed⟩ | ⟨next, completed, committed⟩
      · rw [failed] at reacts
        obtain ⟨_, reached⟩ := reacts
        refine Or.inl ⟨reached.draft, ?_⟩
        rw [current, reached.store]
        rfl
      · rw [committed] at reacts
        obtain ⟨_, reached⟩ := reacts
        exact Or.inr ⟨action, accepted_of_decide decided, Or.inr
          ⟨Bool.eq_false_iff.mpr closed, reached.draft, next, _, completed,
            congrArg Store.current reached.store⟩⟩

/-- Loading a document anew leaves the draft and the snapshot alone, or brings the new loader into
both. -/
theorem reload_effect (session : Session) (collection : DocumentCollection) (path : String) :
    (session.reload collection path).2.host =
        { session.host with store := (session.reload collection path).2.host.store } ∧
      ((session.reload collection path).2.draft = session.draft ∧
          (session.reload collection path).2.current = session.current ∨
        ∃ id loader next version, Transition.applyAll session.draft.id session.current
            [.reloadDocument collection id loader] = .ok next ∧
          (session.reload collection path).2.draft = session.draft.withRegistry
            ((session.draft.registry collection).setLoader id loader) collection ∧
          (session.reload collection path).2.current = next.withVersion version) := by
  rw [reload]
  split
  · exact ⟨rfl, Or.inl ⟨rfl, rfl⟩⟩
  · rename_i id loader _
    simp only [commit, submit, transform]
    rcases session.host.store.transform_cases session.draft.id fun snapshot =>
      Transition.applyAll session.draft.id snapshot [.reloadDocument collection id loader] with
      ⟨error, failed⟩ | ⟨next, completed, committed⟩
    · rw [failed]
      exact ⟨rfl, Or.inl ⟨rfl, rfl⟩⟩
    · rw [committed]
      exact ⟨rfl, Or.inr ⟨id, loader, next, _, completed, rfl, rfl⟩⟩

/-! ## Operations -/

theorem holds_flushAndNotify (flushed : holds session.flush.2)
    (told : ∀ reached notices, holds reached → holds (reached.notify notices)) :
    holds session.flushAndNotify.2 := by
  rw [flushAndNotify]
  split <;> rename_i outcome <;> rw [outcome] at flushed
  · exact flushed
  · exact told _ _ flushed

theorem holds_update {operation : Session → Reply Answer} (start : holds session)
    (flushed : holds session.flush.2)
    (told : ∀ reached notices, holds reached → holds (reached.notify notices))
    (carried : ∀ ready, ready = session ∨ ready = session.flush.2 → holds ready →
      holds (operation ready).session) : holds (session.update operation).2 := by
  rw [update]
  split
  · exact start
  · split <;> rename_i prepared <;> split at prepared
    · cases prepared
    · rw [prepared] at flushed
      exact flushed
    · cases prepared
      exact told _ _ (carried session (Or.inl rfl) start)
    · rw [prepared] at flushed carried
      exact told _ _ (carried _ (Or.inr rfl) flushed)

/-- What is kept when what waits is committed, when an edit is carried out and when the editor is
told, is kept by the edit as a whole. -/
theorem holds_perform (start : holds session) (flushed : holds session.flush.2)
    (told : ∀ reached notices, holds reached → holds (reached.notify notices))
    (carried : ∀ ready reply, ready = session ∨ ready = session.flush.2 →
      ready.Reacts edit reply → holds ready → holds reply.session)
    (other : ∀ path, edit ≠ .fileChanged path) : holds (session.perform edit).2 := by
  by_cases mutation : edit.isMutation = true
  · cases objection : edit.objection? session.draft.id with
    | some failure =>
      rw [perform_of_objection objection]
      exact start
    | none =>
      obtain ⟨operation, performed, reacts⟩ := exists_operation mutation
      rw [performed session objection]
      exact holds_update start flushed told fun ready stage => carried ready _ stage (reacts ready)
  · cases edit with
    | commitPending =>
      show holds session.commitPending.2
      rw [commitPending]
      split
      · exact start
      · split
        · exact start
        · exact holds_flushAndNotify flushed told
    | fileChanged path => exact absurd rfl (other path)
    | _ => exact absurd rfl mutation

/-- What is kept when a document is loaded anew is kept by the change of a file. -/
theorem holds_fileChanged {path : String} (start : holds session)
    (reloaded : ∀ reached collection, holds reached → holds (reached.reload collection path).2) :
    holds (session.fileChanged path).2 := by
  rw [fileChanged]
  split
  · exact start
  · have first := reloaded session .source start
    split <;> rename_i outcome <;> rw [outcome] at first
    · exact first
    · have second := reloaded _ .additional first
      split <;> rename_i later <;> rw [later] at second <;> exact second

end Session

end CodeWorkspace
