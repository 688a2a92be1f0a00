import CodeWorkspace.Proofs.Session.Lockstep
import CodeWorkspace.Proofs.Workspace.Invariant

/-!
# Edits that wait

While a batch is open, an edit that is accepted changes the draft and the watcher, and the index of
outputs if it sets an output; the store and the editor learn nothing of it.
-/

namespace CodeWorkspace

namespace Session

variable {session ready : Session} {edit : Edit} {action : Draft.Action}

/-- The session after an action was put off, with the index of outputs that there is then. -/
def putOff (ready : Session) (action : Draft.Action) (outputs : OutputIndex) : Session where
  host := { ready.host with
    outputs
    watcher := action.watching ready.draft ready.host.watcher }
  draft := action.later ready.draft

theorem carriedOut_of_batching (batching : ready.draft.isBatching = true) (action : Draft.Action)
    (outputs : OutputIndex) :
    ready.carriedOut action outputs = (ready.putOff action outputs).answer action.answer := by
  simp only [carriedOut, batching, if_true]
  rfl

/-- While a batch of a live project is open, an edit that reports no change of a file leaves the
session as it is, or is accepted as an action that is put off. -/
theorem perform_of_batching (live : session.draft.removed = false)
    (batching : session.draft.isBatching = true) (unreported : ∀ path, edit ≠ .fileChanged path) :
    ((session.perform edit).2 = session ∧ (session.perform edit).1 ≠ .ok (.changed true)) ∨
    ∃ action outputs, session.Accepted edit action ∧
      session.perform edit = (.ok action.answer, session.putOff action outputs) := by
  by_cases mutation : edit.isMutation = true
  · cases objection : edit.objection? session.draft.id with
    | some failure =>
      rw [perform_of_objection objection]
      exact Or.inl ⟨rfl, by simp⟩
    | none =>
      obtain ⟨operation, performed, responds⟩ := exists_response mutation
      have responding := responds session
      rw [performed session objection, update_of_ready live (Or.inl batching)]
      rw [Responds] at responding
      split at responding
      · rw [responding]
        exact Or.inl ⟨rfl, by simp [refuse]⟩
      · rw [responding]
        exact Or.inl ⟨rfl, by simp [answer]⟩
      · rename_i action decided
        obtain ⟨outputs, _, responding⟩ := responding
        rw [responding, carriedOut_of_batching batching]
        exact Or.inr ⟨action, outputs, accepted_of_decide decided, rfl⟩
  · cases edit with
    | commitPending =>
      left
      have present : ¬ session.draft.removed = true := Bool.eq_false_iff.mp live
      simp [perform, commitPending, present, batching, finishing, answering, Except.map]
    | fileChanged path => exact absurd rfl (unreported path)
    | _ => exact absurd rfl mutation

/-- While a batch is open, nothing is submitted for an edit that reports no change of a file. -/
theorem store_perform_of_batching (batching : session.draft.isBatching = true)
    (unreported : ∀ path, edit ≠ .fileChanged path) :
    (session.perform edit).2.host.store = session.host.store := by
  cases removed : session.draft.removed with
  | true => rw [perform_of_removed removed]
  | false =>
    rcases perform_of_batching removed batching unreported with
      ⟨same, _⟩ | ⟨action, outputs, _, performed⟩
    · rw [same]
    · rw [performed]
      rfl

end Session

end CodeWorkspace
