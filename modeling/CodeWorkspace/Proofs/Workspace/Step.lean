import CodeWorkspace.Proofs.Session.Reload
import CodeWorkspace.Proofs.Workspace.Change

/-!
# What a command keeps

A command carries out operations of its own kind on drafts, one after another, and only a command
that creates or removes a project puts one in or takes one out.  What all of these keep is kept by
the command, even if a command of another kind would not keep it.
-/

namespace CodeWorkspace

/-- The operations on drafts that a command is made of. -/
def Command.Performs : Command → Session.Operation → Prop
  | .edit _ change, operation => operation = .perform change
  | .openScope _, operation => operation = .beginBatch
  | .releaseScope _, operation => operation = .endBatch
  | .dispatch path, operation => operation = .perform (.fileChanged path)
  | .raise _, operation => ∃ path, operation = .perform (.fileChanged path)
  | _, _ => False

/-- The document that a command introduces, if any, with its collection. -/
def Command.introduced : Command → List (DocumentCollection × Document)
  | .edit _ change => change.introduced
  | _ => []

theorem Command.drawn_of_introduced {command : Command} {given : DocumentCollection × Document}
    (introduced : given ∈ command.introduced) : given.2.id ∈ command.drawn := by
  cases command with
  | edit place edit => exact Edit.drawn_of_introduced introduced
  | _ => cases introduced

theorem Command.Performs.introduced_subset {command : Command} {operation : Session.Operation}
    (performs : command.Performs operation) : operation.introduced ⊆ command.introduced := by
  cases command with
  | edit place edit =>
    cases performs
    exact List.Subset.refl _
  | openScope place =>
    cases performs
    exact List.nil_subset _
  | releaseScope number =>
    cases performs
    exact List.nil_subset _
  | dispatch path =>
    cases performs
    exact List.nil_subset _
  | raise path =>
    obtain ⟨path, rfl⟩ := performs
    exact List.nil_subset _
  | _ => cases performs

namespace Workspace

variable {workspace : Workspace} {holds : Workspace → Prop} {command : Command}

theorem holds_onDraft {α : Type} {before : Workspace} {operation : Session.Operation}
    (worked : ∀ {place : Nat} {draft : Draft}, before.drafts[place]? = some draft →
      holds (before.worked place ({ host := before.host, draft : Session }.operate operation)))
    (place : Nat) (absent : α) (work : Session → α × Session)
    (operates : ∀ session : Session, (work session).2 = session.operate operation)
    (start : holds before) : holds (before.onDraft place absent work).2 := by
  rw [onDraft]
  split
  · exact start
  · rename_i draft found
    simp only [operates]
    exact worked found

theorem holds_dispatchTo {path : String}
    (told : ∀ {before : Workspace} {place : Nat} {draft : Draft}, holds before →
      before.drafts[place]? = some draft → holds (before.worked place
        ({ host := before.host, draft : Session }.operate (.perform (.fileChanged path)))))
    {before : Workspace} (places : List Nat) (start : holds before) :
    holds (before.dispatchTo path places).2 := by
  induction places generalizing before with
  | nil => exact start
  | cons place rest ih =>
    have reached : holds (before.onDraft place (.ok false)
        fun session => session.fileChanged path).2 :=
      holds_onDraft (told start) place _ _ (fun _ => rfl) start
    simp only [dispatchTo]
    split <;> exact ih reached

/-- What is kept by the operations that a command is made of, by what happens around the drafts,
and by putting in and taking out the project that the command creates or removes, is kept by the
command. -/
theorem holds_step
    (around : ∀ {before after : Workspace}, holds before → before.host.SameGround after.host →
      after.drafts = before.drafts → after.live = before.live → holds after)
    (worked : ∀ {before : Workspace} {place : Nat} {draft : Draft} (operation : Session.Operation),
      holds before → before.drafts[place]? = some draft → command.Performs operation →
        holds (before.worked place
          ({ host := before.host, draft : Session }.operate operation)))
    (putIn : ∀ {info : ProjectInfo} {store : Store}, command = .createProject info →
      workspace.live.get? info.id = none →
        store.current = (workspace.snapshot.write info.id (.ofInfo info)).withVersion
          (workspace.snapshot.version + 1) → holds (workspace.putIn info store))
    (takeOut : ∀ {place : Nat} {id : ProjectId} {draft : Draft} {removed : Session},
      command = .removeProject id → workspace.live.get? id = some place →
        workspace.drafts[place]? = some draft →
          { host := workspace.host, draft : Session }.removeProject = (.ok (), removed) →
            holds (workspace.takenOut place id removed))
    (start : holds workspace) : holds (workspace.step command).2 := by
  cases command with
  | createProject info =>
    show holds (workspace.createProject info).2
    rcases workspace.createProject_cases info with
      ⟨_, failed⟩ | ⟨_, failed⟩ | ⟨store, created, _, absent, current⟩
    · rw [failed]
      exact start
    · rw [failed]
      exact around start ⟨rfl, rfl, rfl, rfl, rfl, rfl, rfl, .rfl⟩ rfl rfl
    · rw [created]
      exact putIn rfl absent current
  | removeProject id =>
    show holds (workspace.removeProject id).2
    rcases workspace.removeProject_cases id with
      ⟨ground, drafts, live⟩ | ⟨place, draft, removed, live, found, done, taken⟩
    · exact around start ground drafts live
    · rw [taken]
      exact takeOut rfl live found done
  | edit place edit =>
    exact holds_onDraft (worked (.perform edit) start · rfl) place _ _ (fun _ => rfl) start
  | openScope place =>
    have opened : holds (workspace.onDraft place (.ok 0) Session.beginBatch).2 :=
      holds_onDraft (worked .beginBatch start · rfl) place _ _ (fun _ => rfl) start
    show holds (workspace.openScope place).2
    simp only [openScope]
    split
    · exact around opened (.refl _) rfl rfl
    · exact opened
  | releaseScope number =>
    show holds (workspace.releaseScope number).2
    rw [releaseScope]
    split
    · exact start
    · rename_i scope _
      split
      · exact start
      · let noted : Workspace :=
          { workspace with
            scopes := workspace.scopes.set number { scope with released := true } }
        have noticed : holds noted := around start (.refl _) rfl rfl
        exact holds_onDraft (worked .endBatch noticed · rfl) scope.draft _ _ (fun _ => rfl) noticed
  | dispatch path =>
    exact holds_dispatchTo (worked (.perform (.fileChanged path)) · · rfl) _ start
  | raise path =>
    have pumped {before : Workspace} (paths : List String) (start : holds before) :
        holds (before.pump paths) := by
      induction paths generalizing before with
      | nil => exact start
      | cons path rest ih =>
        exact ih (holds_dispatchTo (worked (.perform (.fileChanged path)) · · ⟨path, rfl⟩) _ start)
    exact pumped _ (around start (sameGround_raise workspace.host path) rfl rfl)
  | refuse reason? => exact around start ⟨rfl, rfl, rfl, rfl, rfl, rfl, rfl, .rfl⟩ rfl rfl
  | openPath path => exact around start (workspace.host.sameGround_openPath path) rfl rfl
  | closePath path => exact around start (workspace.host.sameGround_closePath path) rfl rfl

end Workspace

end CodeWorkspace
