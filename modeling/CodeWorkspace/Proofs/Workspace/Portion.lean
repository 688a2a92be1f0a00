import CodeWorkspace.Proofs.Session.Account
import CodeWorkspace.Proofs.Workspace.Change

/-!
# Commands in portions

An edit commits what was left waiting before it commits anything of its own, so the references of a
project may be turned over twice by one command.  `Workspace.prepare` is the workspace in between.
Each of the two portions changes nothing about references, or turns over the references of one
draft, or puts a project in; only a command that removes a project takes one out.
-/

namespace CodeWorkspace

namespace Draft

variable {draft after : Draft}

theorem committedReferences_of_outline (same : after.outline = draft.outline) :
    after.committedReferences = draft.committedReferences := by
  simp only [outline, Prod.mk.injEq] at same
  rw [committedReferences, committedReferences, same.2.2.1, same.2.2.2]

theorem id_of_outline (same : after.outline = draft.outline) : after.id = draft.id :=
  congrArg Prod.fst same

theorem removed_of_outline (same : after.outline = draft.outline) :
    after.removed = draft.removed := congrArg (fun part => part.2.1) same

end Draft

namespace Session

variable {session : Session}

theorem prepare_of_removed (removed : session.draft.removed = true) (edit : Edit) :
    session.prepare edit = session := by
  rw [prepare, commitPending, if_pos removed]
  split <;> rfl

theorem endBatch_quiet_of_removed (removed : session.draft.removed = true) :
    Quiet session session.endBatch.2 := by
  have stays : (session.draft.batches.isOutermost && !session.draft.removed) = false := by
    rw [removed, Bool.not_true, Bool.and_false]
  simp only [endBatch, stays]
  exact quiet_of_current rfl rfl

end Session

namespace Workspace

variable {before between after workspace : Workspace}

/-- The workspace after what was left waiting has been committed, if a command does that before
anything else. -/
def prepare (workspace : Workspace) : Command → Workspace
  | .edit place edit => (workspace.onDraft place () fun session => ((), session.prepare edit)).2
  | _ => workspace

/-! ## Nothing about references -/

/-- Nothing about references to files has changed in a workspace. -/
structure Quiet (before after : Workspace) : Prop where
  drafts : ∀ place : Nat,
    (after.drafts[place]?).map Draft.outline = (before.drafts[place]?).map Draft.outline
  snapshot : before.snapshot.SameOutline after.snapshot

theorem quiet_of_same (drafts : after.drafts = before.drafts)
    (snapshot : after.snapshot = before.snapshot) : Quiet before after :=
  ⟨fun place => by rw [drafts], fun id => by rw [snapshot]⟩

theorem Quiet.refl (workspace : Workspace) : Quiet workspace workspace := quiet_of_same rfl rfl

theorem Quiet.trans (one : Quiet before between) (other : Quiet between after) :
    Quiet before after :=
  ⟨fun place => (other.drafts place).trans (one.drafts place), one.snapshot.trans other.snapshot⟩

theorem Quiet.of_draft (quiet : Quiet before after) {place : Nat} {there : Draft}
    (found : after.drafts[place]? = some there) :
    ∃ draft, before.drafts[place]? = some draft ∧ there.outline = draft.outline := by
  have outlined := quiet.drafts place
  rw [found, Option.map_some, eq_comm, Option.map_eq_some_iff] at outlined
  obtain ⟨draft, draft_found, outline_eq⟩ := outlined
  exact ⟨draft, draft_found, outline_eq.symm⟩

theorem quiet_worked {place : Nat} {draft : Draft} {reached : Session}
    (found : workspace.drafts[place]? = some draft)
    (quiet : Session.Quiet { host := workspace.host, draft } reached) :
    Quiet workspace (workspace.worked place reached) := by
  refine ⟨fun other => ?_, quiet.snapshot⟩
  show ((workspace.drafts.set place reached.draft)[other]?).map Draft.outline = _
  rw [List.getElem?_set]
  split
  · rename_i same
    rw [← same, found, if_pos (List.getElem?_eq_some_iff.mp found).1]
    exact congrArg some quiet.draft
  · rfl

theorem quiet_dispatchTo (workspace : Workspace) (path : String) (places : List Nat) :
    Quiet workspace (workspace.dispatchTo path places).2 := by
  induction places generalizing workspace with
  | nil => exact .refl workspace
  | cons place rest ih =>
    have told : Quiet workspace
        (workspace.onDraft place (.ok false) fun session => session.fileChanged path).2 := by
      rw [onDraft]
      split
      · exact .refl workspace
      · rename_i draft found
        exact quiet_worked found (Session.fileChanged_quiet _ path)
    simp only [dispatchTo]
    split <;> exact told.trans (ih _)

theorem quiet_pump (workspace : Workspace) (paths : List String) :
    Quiet workspace (workspace.pump paths) := by
  induction paths generalizing workspace with
  | nil => exact .refl workspace
  | cons path rest ih => exact (workspace.quiet_dispatchTo path _).trans (ih _)

/-! ## Portions -/

/-- One portion of a command that removes no project. -/
inductive Portion (before : Workspace) : Workspace → Prop where
  | quiet {after : Workspace} (quiet : Quiet before after) : Portion before after
  | worked {place : Nat} {draft : Draft} {reached : Session} {after : Workspace}
      (found : before.drafts[place]? = some draft) (live : draft.removed = false)
      (turns : Session.TurnsOver { host := before.host, draft } reached)
      (host : after.host = reached.host)
      (drafts : after.drafts = before.drafts.set place reached.draft) : Portion before after
  | putIn {info : ProjectInfo} {store : Store} (absent : before.live.get? info.id = none)
      (current : store.current = (before.snapshot.write info.id (.ofInfo info)).withVersion
        (before.snapshot.version + 1)) :
      Portion before (before.putIn info store)

theorem prepare_edit {place : Nat} {draft : Draft}
    (found : workspace.drafts[place]? = some draft) (edit : Edit) :
    workspace.prepare (.edit place edit) =
      workspace.worked place ({ host := workspace.host, draft : Session }.prepare edit) := by
  simp only [prepare, onDraft, found]
  rfl

/-- The first portion of a command. -/
theorem portion_prepare (workspace : Workspace) (command : Command) :
    Portion workspace (workspace.prepare command) := by
  cases command with
  | edit place edit =>
    cases found : workspace.drafts[place]? with
    | none =>
      simp only [prepare, onDraft, found]
      exact .quiet (.refl workspace)
    | some draft =>
      rw [prepare_edit found]
      cases removed : draft.removed with
      | true =>
        rw [Session.prepare_of_removed removed, worked_self found]
        exact .quiet (.refl workspace)
      | false => exact .worked found removed (Session.prepare_turnsOver _ edit) rfl rfl
  | _ => exact .quiet (.refl workspace)

theorem portion_edit (workspace : Workspace) (place : Nat) (edit : Edit) :
    Portion (workspace.prepare (.edit place edit)) (workspace.step (.edit place edit)).2 := by
  cases found : workspace.drafts[place]? with
  | none =>
    simp only [prepare, step, onDraft, found]
    exact .quiet (.refl workspace)
  | some draft =>
    rw [prepare_edit found, step_edit found]
    let session : Session := { host := workspace.host, draft }
    cases removed : draft.removed with
    | true =>
      rw [Session.prepare_of_removed removed, Session.perform_of_removed removed]
      exact .quiet (.refl _)
    | false =>
      have prepared_found : (workspace.worked place (session.prepare edit)).drafts[place]? =
          some (session.prepare edit).draft := getElem?_worked_self found _
      have prepared_live : (session.prepare edit).draft.removed = false :=
        (session.prepare_turnsOver edit).sameIdentity.removed_eq.trans removed
      by_cases file : ∃ path, edit = .fileChanged path
      · obtain ⟨path, rfl⟩ := file
        have unprepared : session.prepare (.fileChanged path) = session := if_neg (by simp
          [Edit.isMutation])
        rw [unprepared, worked_self found]
        exact .quiet (quiet_worked found (session.fileChanged_quiet path))
      · refine .worked prepared_found prepared_live (session.perform_turnsOver fun path same =>
          file ⟨path, same⟩) rfl ?_
        exact (List.set_set _).symm

theorem portion_releaseScope (workspace : Workspace) (number : Nat) :
    Portion workspace (workspace.releaseScope number).2 := by
  rw [releaseScope]
  split
  · exact .quiet (.refl workspace)
  · rename_i scope _
    split
    · exact .quiet (.refl workspace)
    · rw [onDraft]
      split
      · exact .quiet (quiet_of_same rfl rfl)
      · rename_i draft found
        let session : Session := { host := workspace.host, draft }
        cases removed : draft.removed with
        | true =>
          have removed : session.draft.removed = true := removed
          have closed := quiet_worked found (Session.endBatch_quiet_of_removed removed)
          exact .quiet ⟨closed.drafts, closed.snapshot⟩
        | false => exact .worked found removed session.endBatch_turnsOver rfl rfl

/-- The second portion of a command that removes no project. -/
theorem portion_step (workspace : Workspace) {command : Command}
    (other : ∀ id, command ≠ .removeProject id) :
    Portion (workspace.prepare command) (workspace.step command).2 := by
  cases command with
  | edit place edit => exact workspace.portion_edit place edit
  | removeProject id => exact absurd rfl (other id)
  | createProject info =>
    show Portion workspace (workspace.createProject info).2
    rcases workspace.createProject_cases info with
      ⟨_, failed⟩ | ⟨_, failed⟩ | ⟨store, created, _, absent, current⟩
    · rw [failed]
      exact .quiet (.refl workspace)
    · rw [failed]
      exact .quiet (quiet_of_same rfl rfl)
    · rw [created]
      exact .putIn absent current
  | openScope place =>
    have opened : Quiet workspace (workspace.onDraft place (.ok 0) Session.beginBatch).2 := by
      rw [onDraft]
      split
      · exact .refl workspace
      · rename_i draft found
        exact quiet_worked found (Session.beginBatch_quiet _)
    show Portion workspace (workspace.openScope place).2
    simp only [openScope]
    split
    · exact .quiet ⟨opened.drafts, opened.snapshot⟩
    · exact .quiet opened
  | releaseScope number => exact workspace.portion_releaseScope number
  | dispatch path => exact .quiet (workspace.quiet_dispatchTo path _)
  | raise path =>
    have seen : Quiet workspace (workspace.withHost { workspace.host with
        watcher := (workspace.host.watcher.raise path).receiveAll.2 }) := quiet_of_same rfl rfl
    exact .quiet (seen.trans (quiet_pump _ _))
  | refuse reason? => exact .quiet (quiet_of_same rfl rfl)
  | openPath path => exact .quiet (quiet_of_same rfl rfl)
  | closePath path => exact .quiet (quiet_of_same rfl rfl)

end Workspace

end CodeWorkspace
