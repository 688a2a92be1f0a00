import CodeWorkspace.Editor
import CodeWorkspace.OutputIndex
import CodeWorkspace.Store
import CodeWorkspace.Watcher

/-!
# The host

What the projects of a workspace share: the store of snapshots, the index of outputs, the watcher
of files and the editor.
-/

namespace CodeWorkspace

/-- What the projects of a workspace share. -/
structure Host where
  store : Store := {}
  outputs : OutputIndex
  watcher : Watcher := {}
  editor : Editor := .absent

namespace Host

/-- How paths are compared. -/
def comparison (host : Host) : PathComparison := host.outputs.comparison

/-- Ends several watches. -/
def unwatchAll (host : Host) (tokens : List WatchToken) : Host :=
  { host with watcher := host.watcher.unwatchAll tokens }

/-- Passes news about a project on to the editor. -/
def notify (host : Host) (project : ProjectId) (notices : List Notice) : Host :=
  { host with editor := host.editor.notifyAll project notices }

end Host

end CodeWorkspace
