import CodeWorkspace.Container.OrderedSet
import CodeWorkspace.Identity

/-!
# The editor

An editor has some paths open, and it is told when a document that it may show enters a snapshot
and when one that it holds in a buffer leaves.
-/

namespace CodeWorkspace

/-- What an editor is told. -/
inductive EditorEvent where
  | opened (project : ProjectId) (document : DocumentId)
  | closed (project : ProjectId) (document : DocumentId)
  deriving DecidableEq, Inhabited

/-- News about a document that is to be passed on to the editor. -/
inductive Notice where
  /-- A document in a file is there; the editor is told if it has the path open. -/
  | checkOpen (document : DocumentId) (path : String)
  /-- A document in a buffer is there. -/
  | opened (document : DocumentId)
  /-- A document in a buffer is gone. -/
  | closed (document : DocumentId)
  deriving DecidableEq, Inhabited

/-- The editor of a workspace. -/
inductive Editor where
  /-- There is none, and nothing is open. -/
  | absent
  /-- One that has some paths open and remembers what it was told, oldest first. -/
  | present (openPaths : OrderedSet String) (events : List EditorEvent)
  deriving Inhabited

namespace Editor

/-- An editor with nothing open. -/
def idle : Editor := .present .empty []

/-- Whether a path is open. -/
def isOpen : Editor → String → Bool
  | .absent, _ => false
  | .present openPaths _, path => path ∈ openPaths

/-- Opens a path. -/
def openPath : Editor → String → Editor
  | .absent, _ => .absent
  | .present openPaths events, path => .present (openPaths.insert path) events

/-- Closes a path. -/
def closePath : Editor → String → Editor
  | .absent, _ => .absent
  | .present openPaths events, path => .present (openPaths.erase path) events

/-- What the editor was told. -/
def events : Editor → List EditorEvent
  | .absent => []
  | .present _ events => events

/-- Tells the editor something. -/
def tell : Editor → EditorEvent → Editor
  | .absent, _ => .absent
  | .present openPaths events, event => .present openPaths (events ++ [event])

/-- Passes news about a project on. -/
def notify (project : ProjectId) (editor : Editor) : Notice → Editor
  | .checkOpen document path =>
    if editor.isOpen path then editor.tell (.opened project document) else editor
  | .opened document => editor.tell (.opened project document)
  | .closed document => editor.tell (.closed project document)

/-- Passes several pieces of news about a project on. -/
def notifyAll (project : ProjectId) (editor : Editor) (notices : List Notice) : Editor :=
  notices.foldl (notify project) editor

end Editor

end CodeWorkspace
