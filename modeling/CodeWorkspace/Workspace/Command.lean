import CodeWorkspace.Workspace.Basic

/-!
# Commands

Everything that can happen to a workspace, as a type, and what happens when commands are carried
out one after another.  A command that names a draft or a scope by a number that was never given
out does nothing.
-/

namespace CodeWorkspace

/-- Something that happens to a workspace. -/
inductive Command where
  | createProject (info : ProjectInfo)
  | removeProject (id : ProjectId)
  | edit (draft : Nat) (edit : Edit)
  | openScope (draft : Nat)
  /-- A scope is released when it is given back and when it is dropped. -/
  | releaseScope (scope : Nat)
  | dispatch (path : String)
  | raise (path : String)
  /-- From now on the store refuses everything for a reason, or nothing. -/
  | refuse (reason? : Option String)
  | openPath (path : String)
  | closePath (path : String)

namespace Workspace

/-- Carries out a command. -/
def step (workspace : Workspace) : Command → Except Failure Answer × Workspace
  | .createProject info =>
    let (result, next) := workspace.createProject info
    (result.map .draft, next)
  | .removeProject id =>
    let (result, next) := workspace.removeProject id
    (result.map fun _ => .done, next)
  | .edit place edit =>
    workspace.onDraft place (.ok .done) fun session => session.perform edit
  | .openScope place =>
    let (result, next) := workspace.openScope place
    (result.map .depth, next)
  | .releaseScope number =>
    let (result, next) := workspace.releaseScope number
    (result.map fun _ => .done, next)
  | .dispatch path =>
    let (count, next) := workspace.dispatch path
    (.ok (.count count), next)
  | .raise path =>
    let (reported, next) := workspace.raise path
    (.ok (.changed reported), next)
  | .refuse reason? =>
    let host := workspace.host
    (.ok .done, workspace.withHost { host with store := host.store.refuse reason? })
  | .openPath path =>
    let host := workspace.host
    (.ok .done, workspace.withHost { host with editor := host.editor.openPath path })
  | .closePath path =>
    let host := workspace.host
    (.ok .done, workspace.withHost { host with editor := host.editor.closePath path })

/-- Carries out commands one after another. -/
def run (workspace : Workspace) (commands : List Command) : Workspace :=
  commands.foldl (fun reached command => (reached.step command).2) workspace

end Workspace

end CodeWorkspace
