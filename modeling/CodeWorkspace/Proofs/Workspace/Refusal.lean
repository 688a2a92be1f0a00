import CodeWorkspace.Proofs.Workspace.Outputs

/-!
# Commands that are refused

In every workspace that can be reached the index of outputs says of each live project what its
properties say, and of no other project anything.  Hence a command that is refused, for whatever
reason, leaves everything that can be observed as it was.  Only what an earlier failure had left
waiting may have been committed before the refusal.
-/

namespace CodeWorkspace

namespace Session

variable {session attempted : Session} {failure : Failure}

theorem unchanged_of_removeProject_error
    (failed : session.removeProject = (.error failure, attempted)) :
    Unchanged session attempted := by
  cases gone : session.draft.removed with
  | true =>
    rw [removeProject, if_pos gone] at failed
    cases failed
    exact .refl session
  | false =>
    rcases session.removeProject_cases gone with ⟨_, outcome⟩ | ⟨_, _, outcome, _⟩
    · rw [failed] at outcome
      cases outcome
      exact unchanged_attempted session
    · rw [failed] at outcome
      cases outcome

end Session

/-- Whether a command changes a project, or which projects there are. -/
def Command.isMutation : Command → Bool
  | .createProject _ | .removeProject _ => true
  | .edit _ change => change.isMutation
  | _ => false

namespace Workspace

variable {drawn : List DocumentId} {workspace next : Workspace} {failure : Failure}

/-! ## Outputs and watches -/

/-- The index of outputs follows the live drafts, and the watcher is in order. -/
structure Orderly (workspace : Workspace) : Prop where
  numbered : workspace.host.watcher.Numbered
  shows : ∀ (place : Nat) draft, workspace.drafts[place]? = some draft → draft.removed = false →
    workspace.host.outputs.Shows draft.id draft.properties
  owned : ∀ project key, workspace.host.outputs.Publishes project key →
    ∃ place, workspace.live.get? project = some place

/-- The tokens of the watcher stay in order, whatever changes. -/
theorem numbered_change (numbered : workspace.host.watcher.Numbered)
    (change : Change workspace drawn next) : next.host.watcher.Numbered := by
  cases change with
  | around ground drafts live =>
    rw [Watcher.Numbered, ground.active, ground.next]
    exact numbered
  | worked found operation => exact (Session.upholds_operate _ operation).numbered numbered
  | putIn absent current => exact numbered
  | takeOut live found done =>
    exact (congrArg Watcher.Numbered (Session.host_of_removeProject done).1).mpr
      (numbered.unwatchAll _)

/-- In every workspace that can be reached, the index of outputs and the watcher are in order. -/
theorem orderly_run (comparison : PathComparison) {watcher : Watcher}
    (numbered : watcher.Numbered) (editor : Editor) (refusals : Nat → Option String)
    (commands : List Command) :
    ((starting comparison watcher editor refusals).run commands).Orderly := by
  have published := published_run comparison watcher editor refusals commands
  exact ⟨run_of_change _ numbered_change numbered commands, published.shows, published.owned⟩

/-! ## Refusals -/

/-- Nothing that can be observed in a workspace has changed.  Attempts may have been made, and
tokens of the watcher may have been used up. -/
structure Unchanged (before after : Workspace) : Prop where
  snapshot : after.snapshot = before.snapshot
  log : after.host.store.log = before.host.store.log
  /-- The registries, what is tracked, what waits, the properties and the open batches. -/
  drafts : after.drafts = before.drafts
  live : after.live = before.live
  scopes : after.scopes = before.scopes
  watches : after.host.watcher.active = before.host.watcher.active
  feed : after.host.watcher.feed = before.host.watcher.feed
  editor : after.host.editor = before.host.editor
  publishes : ∀ project key,
    after.host.outputs.Publishes project key ↔ before.host.outputs.Publishes project key

theorem Unchanged.refl (workspace : Workspace) : Unchanged workspace workspace :=
  ⟨rfl, rfl, rfl, rfl, rfl, rfl, rfl, rfl, fun _ _ => Iff.rfl⟩

theorem unchanged_worked (workspace : Workspace) (place : Nat) {first second : Session}
    (unchanged : first.Unchanged second) :
    Unchanged (workspace.worked place first) (workspace.worked place second) :=
  ⟨unchanged.current, unchanged.log, congrArg (workspace.drafts.set place) unchanged.draft, rfl,
    rfl, unchanged.active, unchanged.feed, unchanged.editor, unchanged.publishes⟩

/-- A command leaves a workspace as it is, or as committing what was left waiting outside of a
batch leaves it. -/
def LeavesAlone (workspace : Workspace) (command : Command) : Prop :=
  workspace.Unchanged (workspace.step command).2 ∨
  ∃ place edit draft, command = .edit place edit ∧ workspace.drafts[place]? = some draft ∧
    draft.isBatching = false ∧ draft.hasPending = true ∧
    (workspace.step (.edit place .commitPending)).1 = .ok .done ∧
    (workspace.step (.edit place .commitPending)).2.Unchanged (workspace.step command).2

theorem leavesAlone_createProject {info : ProjectInfo}
    (refused : (workspace.step (.createProject info)).1 = .error failure) :
    workspace.LeavesAlone (.createProject info) := by
  refine Or.inl ?_
  rcases workspace.createProject_cases info with
    ⟨_, failed⟩ | ⟨_, failed⟩ | ⟨store, created, _⟩
  · simp only [step, failed]
    exact .refl workspace
  · simp only [step, failed]
    exact ⟨rfl, rfl, rfl, rfl, rfl, rfl, rfl, rfl, fun _ _ => Iff.rfl⟩
  · simp only [step, created] at refused
    cases refused

theorem leavesAlone_removeProject {id : ProjectId}
    (refused : (workspace.step (.removeProject id)).1 = .error failure) :
    workspace.LeavesAlone (.removeProject id) := by
  refine Or.inl ?_
  simp only [step, Workspace.removeProject] at refused ⊢
  split at refused
  · exact .refl workspace
  · rename_i place live
    cases found : workspace.drafts[place]? with
    | none =>
      simp only [onDraft, found]
      exact .refl workspace
    | some draft =>
      simp only [onDraft, found] at refused ⊢
      cases outcome : ({ host := workspace.host, draft } : Session).removeProject with
      | mk result attempted =>
        simp only [outcome] at refused ⊢
        cases result with
        | error failure =>
          have same := unchanged_worked workspace place
            (Session.unchanged_of_removeProject_error outcome)
          rw [worked_self found] at same
          exact same
        | ok done => cases refused

theorem Orderly.leavesAlone_edit (orderly : workspace.Orderly) {place : Nat} {edit : Edit}
    (mutation : edit.isMutation = true)
    (refused : (workspace.step (.edit place edit)).1 = .error failure) :
    workspace.LeavesAlone (.edit place edit) := by
  cases found : workspace.drafts[place]? with
  | none =>
    simp only [step, onDraft, found] at refused
    cases refused
  | some draft =>
    rw [LeavesAlone, step_edit found edit]
    rw [step_edit found edit] at refused
    rcases Session.unchanged_of_perform_error mutation
      (fun live => ⟨orderly.numbered, orderly.shows place draft found live⟩) refused with
      same | ⟨closed, pending, committed, same⟩
    · have same := unchanged_worked workspace place same
      rw [worked_self found] at same
      exact Or.inl same
    · refine Or.inr ⟨place, edit, draft, rfl, found, closed, pending, ?_, ?_⟩
      · rw [step_edit found .commitPending]
        exact committed
      · rw [step_edit found .commitPending]
        exact unchanged_worked workspace place same

/-- In every workspace that can be reached, a mutation that is refused leaves everything alone. -/
theorem leavesAlone_of_error (comparison : PathComparison) {watcher : Watcher}
    (numbered : watcher.Numbered) (editor : Editor) (refusals : Nat → Option String)
    (commands : List Command) (command : Command) (mutation : command.isMutation = true)
    (refused : (((starting comparison watcher editor refusals).run commands).step command).1 =
      .error failure) :
    ((starting comparison watcher editor refusals).run commands).LeavesAlone command := by
  have orderly := orderly_run comparison numbered editor refusals commands
  cases command with
  | createProject info => exact leavesAlone_createProject refused
  | removeProject id => exact leavesAlone_removeProject refused
  | edit place edit => exact orderly.leavesAlone_edit mutation refused
  | _ => cases mutation

/-- Both outputs of a project are the same file, another project publishes there as well, and the
store has come to refuse everything. -/
def sharedOutputs : List Command :=
  [.createProject ⟨⟨.ofNat 1⟩, "C#", { name := "A", assemblyName := "A" }⟩,
    .createProject ⟨⟨.ofNat 2⟩, "C#",
      { name := "B", assemblyName := "B", outputPath? := some "/out.dll" }⟩,
    .edit 0 (.setProperty (.outputPath (some "/out.dll"))),
    .edit 0 (.setProperty (.outputReferencePath (some "/out.dll"))),
    .refuse (some "busy")]

theorem leavesAlone_sharedOutputs :
    ({} : Watcher).Numbered ∧
      (((starting .ordinal {} .absent fun _ => none).run sharedOutputs).step
        (.edit 0 (.setProperty (.outputPath (some "/a.dll"))))).1 =
          .error (.store (.rejected "busy")) ∧
      ((starting .ordinal {} .absent fun _ => none).run sharedOutputs).LeavesAlone
        (.edit 0 (.setProperty (.outputPath (some "/a.dll")))) := by
  have numbered : ({} : Watcher).Numbered := fun _ used => absurd used List.not_mem_nil
  have refused : (((starting .ordinal {} .absent fun _ => none).run sharedOutputs).step
      (.edit 0 (.setProperty (.outputPath (some "/a.dll"))))).1 =
        .error (.store (.rejected "busy")) := by
    decide +kernel
  exact ⟨numbered, refused, leavesAlone_of_error .ordinal numbered .absent _ sharedOutputs _ rfl
    refused⟩

end Workspace

end CodeWorkspace
