import CodeWorkspace.Proofs.Session.Advance
import CodeWorkspace.Workspace.Command

/-!
# Changes of a workspace

Whatever a command does is a sequence of changes of four kinds: something around the drafts
changes, a draft is worked on, a project is put in, or a project is taken out.  What every change
keeps is kept by every run.
-/

namespace CodeWorkspace

/-- The documents whose identities were drawn for a command. -/
def Command.drawn : Command → List DocumentId
  | .edit _ change => change.drawn
  | _ => []

/-- Two hosts with the same commits, outputs and watches, and with editors that were told the same,
if any. -/
structure Host.SameGround (before after : Host) : Prop where
  current : after.store.current = before.store.current
  log : after.store.log = before.store.log
  outputs : after.outputs = before.outputs
  active : after.watcher.active = before.watcher.active
  next : after.watcher.next = before.watcher.next
  released : after.watcher.released = before.watcher.released
  events : after.editor.events = before.editor.events
  absent : after.editor = .absent ↔ before.editor = .absent

theorem Host.SameGround.refl (host : Host) : SameGround host host :=
  ⟨rfl, rfl, rfl, rfl, rfl, rfl, rfl, .rfl⟩

theorem Host.sameGround_openPath (host : Host) (path : String) :
    host.SameGround { host with editor := host.editor.openPath path } :=
  ⟨rfl, rfl, rfl, rfl, rfl, rfl, by cases host.editor <;> rfl,
    by cases host.editor <;> simp [Editor.openPath]⟩

theorem Host.sameGround_closePath (host : Host) (path : String) :
    host.SameGround { host with editor := host.editor.closePath path } :=
  ⟨rfl, rfl, rfl, rfl, rfl, rfl, by cases host.editor <;> rfl,
    by cases host.editor <;> simp [Editor.closePath]⟩

namespace Session

/-- What can be done in a session with its draft. -/
inductive Operation where
  | perform (edit : Edit)
  | beginBatch
  | endBatch

/-- The documents whose identities were drawn for an operation. -/
def Operation.drawn : Operation → List DocumentId
  | .perform edit => edit.drawn
  | _ => []

/-- The session after an operation. -/
def operate (session : Session) : Operation → Session
  | .perform edit => (session.perform edit).2
  | .beginBatch => session.beginBatch.2
  | .endBatch => session.endBatch.2

/-- Removing a project fails and leaves the session as it is, or takes the project out. -/
theorem removeProject_cases (session : Session) (live : session.draft.removed = false) :
    (∃ failure, session.removeProject = (.error failure, { session with
      host := { session.host with store := { session.host.store with
        attempts := session.host.store.attempts + 1 } } })) ∨
    ∃ removed next, session.removeProject = (.ok (), removed) ∧
      session.current.removeProject session.draft.id = .ok next ∧
      removed.current = next.withVersion (session.current.version + 1) ∧
      removed.host.comparison = session.host.comparison ∧
      removed.draft = session.draft.discard.2 := by
  have not_removed : ¬ session.draft.removed = true := Bool.eq_false_iff.mp live
  rw [Session.removeProject, if_neg not_removed]
  simp only [Session.transform]
  rcases session.host.store.transform_cases session.draft.id fun snapshot =>
    snapshot.removeProject session.draft.id with ⟨error, failed⟩ | ⟨next, completed, committed⟩
  · rw [failed]
    exact Or.inl ⟨_, rfl⟩
  · rw [committed]
    exact Or.inr ⟨_, next, rfl, completed, rfl, rfl, rfl⟩

/-- A project that is removed gives its watches back and its outputs up, and the editor is told which
buffers are gone. -/
theorem host_of_removeProject {session removed : Session}
    (done : session.removeProject = (.ok (), removed)) :
    removed.host.watcher = session.host.watcher.unwatchAll
        (session.draft.discard.1.filterMap Forgotten.watch?) ∧
      removed.host.outputs = session.host.outputs.unregisterProject session.draft.id ∧
      removed.host.editor = session.host.editor.notifyAll session.draft.id
        (Draft.departures session.draft.discard.1) := by
  rw [Session.removeProject] at done
  split at done
  · cases done
  · simp only [Session.transform] at done
    rcases session.host.store.transform_cases session.draft.id fun snapshot =>
      snapshot.removeProject session.draft.id with ⟨error, failed⟩ | ⟨next, _, committed⟩
    · rw [failed] at done
      cases done
    · rw [committed] at done
      cases done
      exact ⟨rfl, rfl, rfl⟩

/-- A removal that fails leaves the draft as it is. -/
theorem removeProject_error {session attempted : Session} {failure : Failure}
    (failed : session.removeProject = (.error failure, attempted)) :
    attempted.draft = session.draft ∧ session.host.SameGround attempted.host := by
  cases removed : session.draft.removed with
  | true =>
    rw [Session.removeProject, if_pos removed] at failed
    cases failed
    exact ⟨rfl, .refl _⟩
  | false =>
    rcases session.removeProject_cases removed with ⟨_, outcome⟩ | ⟨_, _, outcome, _⟩
    · rw [failed] at outcome
      cases outcome
      exact ⟨rfl, rfl, rfl, rfl, rfl, rfl, rfl, rfl, .rfl⟩
    · rw [failed] at outcome
      cases outcome

end Session

namespace Workspace

variable {workspace before between after : Workspace}

/-- The workspace after a draft was worked on. -/
def worked (workspace : Workspace) (place : Nat) (after : Session) : Workspace :=
  { workspace with
    host := after.host
    drafts := workspace.drafts.set place after.draft }

theorem getElem?_worked_self {place : Nat} {draft : Draft}
    (found : workspace.drafts[place]? = some draft) (after : Session) :
    (workspace.worked place after).drafts[place]? = some after.draft :=
  List.getElem?_set_self (List.getElem?_eq_some_iff.mp found).1

theorem getElem?_worked_of_ne {place other : Nat} (differs : other ≠ place) (after : Session) :
    (workspace.worked place after).drafts[other]? = workspace.drafts[other]? :=
  List.getElem?_set_ne differs.symm

theorem worked_self {place : Nat} {draft : Draft}
    (found : workspace.drafts[place]? = some draft) :
    workspace.worked place { host := workspace.host, draft } = workspace := by
  obtain ⟨within, at_place⟩ := List.getElem?_eq_some_iff.mp found
  show { workspace with drafts := workspace.drafts.set place draft } = workspace
  rw [← at_place, List.set_getElem_self]

/-- The workspace after a project was put in, whose draft is a new one. -/
def putIn (workspace : Workspace) (info : ProjectInfo) (store : Store) : Workspace :=
  { workspace with
    host := { workspace.host with store, outputs := registerOutputs workspace.host.outputs info }
    drafts := workspace.drafts ++ [.ofInfo workspace.host.comparison info]
    live := workspace.live.insert info.id workspace.drafts.length }

/-- The workspace after a project was taken out: its draft is done with, and the others forget
it. -/
def takenOut (workspace : Workspace) (place : Nat) (id : ProjectId) (removed : Session) :
    Workspace :=
  { workspace with
    host := removed.host
    drafts := workspace.drafts.set place removed.draft
    live := workspace.live.erase id }.forgetReferencesTo id

/-- One change of a workspace, with the documents whose identities were drawn for it. -/
inductive Change (before : Workspace) : List DocumentId → Workspace → Prop where
  | around {after : Workspace} (ground : before.host.SameGround after.host)
      (drafts : after.drafts = before.drafts) (live : after.live = before.live) :
      Change before [] after
  | worked {place : Nat} {draft : Draft} (found : before.drafts[place]? = some draft)
      (operation : Session.Operation) :
      Change before operation.drawn
        (before.worked place ({ host := before.host, draft : Session }.operate operation))
  | putIn {info : ProjectInfo} {store : Store} (absent : before.live.get? info.id = none)
      (current : store.current = (before.snapshot.write info.id (.ofInfo info)).withVersion
        (before.snapshot.version + 1)) :
      Change before [] (before.putIn info store)
  | takeOut {place : Nat} {id : ProjectId} {draft : Draft} {removed : Session}
      (live : before.live.get? id = some place) (found : before.drafts[place]? = some draft)
      (done : { host := before.host, draft : Session }.removeProject = (.ok (), removed)) :
      Change before [] (before.takenOut place id removed)

/-- Changes one after another. -/
inductive Changes : List DocumentId → Workspace → Workspace → Prop where
  | refl (workspace : Workspace) : Changes [] workspace workspace
  | step {drawn later : List DocumentId} {before between after : Workspace}
      (change : Change before drawn between) (rest : Changes later between after) :
      Changes (drawn ++ later) before after

theorem Change.changes {drawn : List DocumentId} (change : Change before drawn after) :
    Changes drawn before after := by
  have changes := Changes.step change (.refl after)
  rwa [List.append_nil] at changes

theorem Changes.trans {drawn later : List DocumentId} (first : Changes drawn before between)
    (second : Changes later between after) : Changes (drawn ++ later) before after := by
  induction first with
  | refl => exact second
  | step change _ ih =>
    rw [List.append_assoc]
    exact .step change (ih second)

theorem changes_around (ground : before.host.SameGround after.host)
    (drafts : after.drafts = before.drafts) (live : after.live = before.live) :
    Changes [] before after := (Change.around ground drafts live).changes

/-! ## Commands -/

theorem step_edit {place : Nat} {draft : Draft} (found : workspace.drafts[place]? = some draft)
    (edit : Edit) : workspace.step (.edit place edit) =
      (({ host := workspace.host, draft : Session }.perform edit).1,
        workspace.worked place ({ host := workspace.host, draft : Session }.perform edit).2) := by
  simp only [step, onDraft, found]
  rfl

theorem changes_onDraft {α : Type} (workspace : Workspace) (place : Nat) (absent : α)
    (work : Session → α × Session) (operation : Session.Operation)
    (operates : ∀ session : Session, (work session).2 = session.operate operation) :
    ∃ drawn, drawn.Sublist operation.drawn ∧
      Changes drawn workspace (workspace.onDraft place absent work).2 := by
  rw [onDraft]
  split
  · exact ⟨[], List.nil_sublist _, .refl workspace⟩
  · rename_i draft found
    refine ⟨operation.drawn, List.Sublist.refl _, ?_⟩
    simp only [operates]
    exact (Change.worked found operation).changes

theorem changes_onDraft_silent {α : Type} (workspace : Workspace) (place : Nat) (absent : α)
    (work : Session → α × Session) (operation : Session.Operation)
    (operates : ∀ session : Session, (work session).2 = session.operate operation)
    (silent : operation.drawn = []) :
    Changes [] workspace (workspace.onDraft place absent work).2 := by
  obtain ⟨drawn, drawn_sub, changes⟩ :=
    workspace.changes_onDraft place absent work operation operates
  rw [silent, List.sublist_nil] at drawn_sub
  exact drawn_sub ▸ changes

/-- Creating a project fails and leaves the workspace as it is, or puts the project in. -/
theorem createProject_cases (workspace : Workspace) (info : ProjectInfo) :
    (∃ failure, workspace.createProject info = (.error failure, workspace)) ∨
    (∃ failure, workspace.createProject info = (.error failure, workspace.withHost
      { workspace.host with store := { workspace.host.store with
        attempts := workspace.host.store.attempts + 1 } })) ∨
    ∃ store, workspace.createProject info =
        (.ok workspace.drafts.length, workspace.putIn info store) ∧
      blankPart? info = none ∧ workspace.live.get? info.id = none ∧
      store.current = (workspace.snapshot.write info.id (.ofInfo info)).withVersion
        (workspace.snapshot.version + 1) := by
  rw [createProject]
  cases blank : blankPart? info with
  | some failure => exact Or.inl ⟨failure, rfl⟩
  | none =>
    simp only
    split
    · exact Or.inl ⟨_, rfl⟩
    · rename_i absent
      rw [← OrderedMap.isSome_get?, Bool.not_eq_true, Option.isSome_eq_false_iff] at absent
      rcases workspace.host.store.transform_cases info.id fun snapshot =>
        snapshot.addProject info with ⟨error, failed⟩ | ⟨added, completed, committed⟩
      · rw [failed]
        exact Or.inr (Or.inl ⟨_, rfl⟩)
      · rw [committed]
        simp only [Snapshot.addProject] at completed
        split at completed <;> cases completed
        exact Or.inr (Or.inr ⟨_, rfl, trivial, Option.isNone_iff_eq_none.mp absent, rfl⟩)

theorem changes_createProject (workspace : Workspace) (info : ProjectInfo) :
    Changes [] workspace (workspace.createProject info).2 := by
  rcases workspace.createProject_cases info with
    ⟨_, failed⟩ | ⟨_, failed⟩ | ⟨store, created, _, absent, current⟩
  · rw [failed]
    exact .refl workspace
  · rw [failed]
    exact changes_around ⟨rfl, rfl, rfl, rfl, rfl, rfl, rfl, .rfl⟩ rfl rfl
  · rw [created]
    exact (Change.putIn absent current).changes

/-- Removing a project fails and leaves everything but the number of attempts as it is, or takes the
project out. -/
theorem removeProject_cases (workspace : Workspace) (id : ProjectId) :
    (workspace.host.SameGround (workspace.removeProject id).2.host ∧
      (workspace.removeProject id).2.drafts = workspace.drafts ∧
        (workspace.removeProject id).2.live = workspace.live) ∨
    ∃ place draft removed, workspace.live.get? id = some place ∧
      workspace.drafts[place]? = some draft ∧
      ({ host := workspace.host, draft } : Session).removeProject = (.ok (), removed) ∧
      (workspace.removeProject id).2 = workspace.takenOut place id removed := by
  have stays (same : (workspace.removeProject id).2 = workspace) :
      workspace.host.SameGround (workspace.removeProject id).2.host ∧
        (workspace.removeProject id).2.drafts = workspace.drafts ∧
          (workspace.removeProject id).2.live = workspace.live := by
    rw [same]
    exact ⟨.refl _, rfl, rfl⟩
  cases live : workspace.live.get? id with
  | none => exact Or.inl (stays (by simp only [Workspace.removeProject, live]))
  | some place =>
    cases found : workspace.drafts[place]? with
    | none => exact Or.inl (stays (by simp only [Workspace.removeProject, live, onDraft, found]))
    | some draft =>
      cases outcome : ({ host := workspace.host, draft } : Session).removeProject with
      | mk result reached =>
        cases result with
        | error failure =>
          have reached_eq : (workspace.removeProject id).2 = workspace.worked place reached := by
            simp only [Workspace.removeProject, live, onDraft, found, outcome, worked]
          obtain ⟨draft_eq, ground⟩ := Session.removeProject_error outcome
          rw [reached_eq]
          refine Or.inl ⟨ground, ?_, rfl⟩
          show workspace.drafts.set place reached.draft = workspace.drafts
          rw [draft_eq]
          obtain ⟨within, at_place⟩ := List.getElem?_eq_some_iff.mp found
          exact at_place ▸ List.set_getElem_self within
        | ok done =>
          refine Or.inr ⟨place, draft, reached, rfl, found, outcome, ?_⟩
          simp only [Workspace.removeProject, live, onDraft, found, outcome, takenOut]

theorem changes_removeProject (workspace : Workspace) (id : ProjectId) :
    Changes [] workspace (workspace.removeProject id).2 := by
  rcases workspace.removeProject_cases id with
    ⟨ground, drafts, live⟩ | ⟨place, draft, removed, live, found, done, taken⟩
  · exact changes_around ground drafts live
  · rw [taken]
    exact (Change.takeOut live found done).changes

theorem changes_openScope (workspace : Workspace) (place : Nat) :
    Changes [] workspace (workspace.openScope place).2 := by
  have opened := workspace.changes_onDraft_silent place (.ok 0) Session.beginBatch .beginBatch
    (fun _ => rfl) rfl
  simp only [openScope]
  split
  · exact opened.trans (changes_around (.refl _) rfl rfl)
  · exact opened

theorem changes_releaseScope (workspace : Workspace) (number : Nat) :
    Changes [] workspace (workspace.releaseScope number).2 := by
  rw [releaseScope]
  split
  · exact .refl workspace
  · rename_i scope _
    split
    · exact .refl workspace
    · let noted : Workspace :=
        { workspace with
          scopes := workspace.scopes.set number { scope with released := true } }
      have noticed : Changes [] workspace noted := changes_around (.refl _) rfl rfl
      exact noticed.trans (noted.changes_onDraft_silent scope.draft (.ok ()) Session.endBatch
        .endBatch (fun _ => rfl) rfl)

theorem changes_dispatchTo (workspace : Workspace) (path : String) (places : List Nat) :
    Changes [] workspace (workspace.dispatchTo path places).2 := by
  induction places generalizing workspace with
  | nil => exact .refl workspace
  | cons place rest ih =>
    have told := workspace.changes_onDraft_silent place (.ok false)
      (fun session => session.fileChanged path) (.perform (.fileChanged path)) (fun _ => rfl) rfl
    simp only [dispatchTo]
    split <;> exact told.trans (ih _)

theorem changes_pump (workspace : Workspace) (paths : List String) :
    Changes [] workspace (workspace.pump paths) := by
  induction paths generalizing workspace with
  | nil => exact .refl workspace
  | cons path rest ih =>
    exact (workspace.changes_dispatchTo path workspace.live.values).trans (ih _)

theorem sameGround_raise (host : Host) (path : String) :
    host.SameGround { host with watcher := (host.watcher.raise path).receiveAll.2 } := by
  have raised : (host.watcher.raise path).active = host.watcher.active ∧
      (host.watcher.raise path).next = host.watcher.next ∧
      (host.watcher.raise path).released = host.watcher.released := by
    rw [Watcher.raise]
    split
    · split <;> exact ⟨rfl, rfl, rfl⟩
    · exact ⟨rfl, rfl, rfl⟩
  have received (watcher : Watcher) : watcher.receiveAll.2.active = watcher.active ∧
      watcher.receiveAll.2.next = watcher.next ∧
      watcher.receiveAll.2.released = watcher.released := by
    rw [Watcher.receiveAll]
    split <;> exact ⟨rfl, rfl, rfl⟩
  exact ⟨rfl, rfl, rfl, (received _).1.trans raised.1, (received _).2.1.trans raised.2.1,
    (received _).2.2.trans raised.2.2, rfl, .rfl⟩

/-- A command is a sequence of changes, and introduces no other documents than its own. -/
theorem changes_step (workspace : Workspace) (command : Command) :
    ∃ drawn, drawn.Sublist command.drawn ∧
      Changes drawn workspace (workspace.step command).2 := by
  have silent {after : Workspace} (changes : Changes [] workspace after) :
      ∃ drawn, drawn.Sublist command.drawn ∧ Changes drawn workspace after :=
    ⟨[], List.nil_sublist _, changes⟩
  cases command with
  | edit place edit =>
    exact workspace.changes_onDraft place _ _ (.perform edit) fun _ => rfl
  | createProject info => exact silent (workspace.changes_createProject info)
  | removeProject id => exact silent (workspace.changes_removeProject id)
  | openScope place => exact silent (workspace.changes_openScope place)
  | releaseScope number => exact silent (workspace.changes_releaseScope number)
  | dispatch path => exact silent (workspace.changes_dispatchTo path _)
  | raise path =>
    have seen : Changes [] workspace (workspace.withHost { workspace.host with
        watcher := (workspace.host.watcher.raise path).receiveAll.2 }) :=
      changes_around (sameGround_raise workspace.host path) rfl rfl
    exact silent (seen.trans (changes_pump _ _))
  | refuse reason? =>
    exact silent (changes_around ⟨rfl, rfl, rfl, rfl, rfl, rfl, rfl, .rfl⟩ rfl rfl)
  | openPath path => exact silent (changes_around (workspace.host.sameGround_openPath path) rfl rfl)
  | closePath path =>
    exact silent (changes_around (workspace.host.sameGround_closePath path) rfl rfl)

theorem run_append (workspace : Workspace) (front rest : List Command) :
    workspace.run (front ++ rest) = (workspace.run front).run rest :=
  List.foldl_append

/-- What every change keeps is kept by every run. -/
theorem run_of_change (holds : Workspace → Prop)
    (keep : ∀ {before after : Workspace} {drawn : List DocumentId},
      holds before → Change before drawn after → holds after)
    {workspace : Workspace} (start : holds workspace) (commands : List Command) :
    holds (workspace.run commands) := by
  have along {drawn : List DocumentId} {before after : Workspace}
      (changes : Changes drawn before after) : holds before → holds after := by
    induction changes with
    | refl => exact id
    | step change _ ih => exact fun first => ih (keep first change)
  induction commands generalizing workspace with
  | nil => exact start
  | cons command rest ih =>
    obtain ⟨_, _, changes⟩ := workspace.changes_step command
    exact ih (along changes start)

end Workspace

end CodeWorkspace
