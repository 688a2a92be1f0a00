import CodeWorkspace.Dependency.BuildOrder
import CodeWorkspace.Session.Edit
import CodeWorkspace.Session.Removal

/-!
# Workspaces

A workspace is a host with the drafts of its projects.  A draft stays when its project is removed,
and is found by its place; at most one draft of each project is live.  Opening a batch yields a
scope, and releasing the scope closes the batch once.
-/

namespace CodeWorkspace

/-- An open batch in somebody's hands. -/
structure Scope where
  /-- The place of the draft whose batch it is. -/
  draft : Nat
  released : Bool := false
  deriving DecidableEq, Inhabited

/-- A host with the drafts of its projects. -/
structure Workspace where
  host : Host
  /-- All drafts there ever were, oldest first. -/
  drafts : List Draft := []
  /-- The places of the live drafts. -/
  live : OrderedMap ProjectId Nat := .empty
  /-- All scopes there ever were, oldest first. -/
  scopes : List Scope := []

namespace Workspace

/-- An empty workspace without an editor, whose watcher reports to nobody. -/
def inMemory (comparison : PathComparison) : Workspace :=
  { host := { outputs := .empty comparison } }

/-- The current snapshot. -/
def snapshot (workspace : Workspace) : Snapshot := workspace.host.store.current

/-- The projects with a live draft, in the order of the snapshot. -/
def projects (workspace : Workspace) : List ProjectId :=
  workspace.snapshot.ids.filter workspace.live.contains

/-- The projects in an order in which each comes after those that it refers to. -/
def buildOrder (workspace : Workspace) : Except Failure (List ProjectId) :=
  (DependencyGraph.ofSnapshot workspace.snapshot).buildOrder.mapError .impossible

/-- The workspace with another host. -/
def withHost (workspace : Workspace) (host : Host) : Workspace := { workspace with host }

/-- Works on the draft at a place; if there is none, answers as told. -/
def onDraft {α : Type} (workspace : Workspace) (place : Nat) (absent : α)
    (operation : Session → α × Session) : α × Workspace :=
  match workspace.drafts[place]? with
  | none => (absent, workspace)
  | some draft =>
    let (result, session) := operation { host := workspace.host, draft }
    (result, { workspace with
      host := session.host
      drafts := workspace.drafts.set place session.draft })

/-! ## Projects -/

/-- What is wrong with the description of a project, if anything is. -/
def blankPart? (info : ProjectInfo) : Option Failure :=
  if Text.isBlank info.language then some .blankLanguage
  else if Text.isBlank info.properties.name then some .blankName
  else if info.properties.outputPaths.any Text.isBlank then some .blankPath
  else none

/-- Registers the outputs of a new project. -/
def registerOutputs (index : OutputIndex) (info : ProjectInfo) : OutputIndex :=
  info.properties.outputPaths.foldl (fun reached path => reached.register info.id path) index

/-- Adds an empty project; answers the place of its draft. -/
def createProject (workspace : Workspace) (info : ProjectInfo) : Except Failure Nat × Workspace :=
  match blankPart? info with
  | some failure => (.error failure, workspace)
  | none =>
    if workspace.live.contains info.id then
      (.error (.impossible (.duplicateProject info.id)), workspace)
    else
      let host := workspace.host
      match host.store.transform info.id fun snapshot => snapshot.addProject info with
      | (.error error, store) => (.error (.store error), workspace.withHost { host with store })
      | (.ok (), store) =>
        let place := workspace.drafts.length
        (.ok place, { workspace with
          host := { host with store, outputs := registerOutputs host.outputs info }
          drafts := workspace.drafts ++ [.ofInfo host.comparison info]
          live := workspace.live.insert info.id place })

/-- Makes the live drafts forget their references to a project. -/
def forgetReferencesTo (workspace : Workspace) (target : ProjectId) : Workspace :=
  { workspace with
    drafts := workspace.drafts.mapIdx fun place draft =>
      if place ∈ workspace.live.values then draft.forgetReferencesTo target else draft }

/-- Removes a project. -/
def removeProject (workspace : Workspace) (id : ProjectId) : Except Failure Unit × Workspace :=
  match workspace.live.get? id with
  | none => (.error (.unknownProject id), workspace)
  | some place =>
    match workspace.onDraft place (.error (.unknownProject id)) Session.removeProject with
    | (.error failure, attempted) => (.error failure, attempted)
    | (.ok (), removed) =>
      (.ok (), { removed with live := removed.live.erase id }.forgetReferencesTo id)

/-! ## Batches -/

/-- Opens a batch of a draft; answers how many of its batches are open. -/
def openScope (workspace : Workspace) (place : Nat) : Except Failure Nat × Workspace :=
  let (result, opened) := workspace.onDraft place (.ok 0) Session.beginBatch
  if result.isOk ∧ place < workspace.drafts.length then
    (result, { opened with scopes := opened.scopes ++ [{ draft := place }] })
  else (result, opened)

/-- Closes the batch of a scope, unless that has been done. -/
def releaseScope (workspace : Workspace) (number : Nat) : Except Failure Unit × Workspace :=
  match workspace.scopes[number]? with
  | none => (.ok (), workspace)
  | some scope =>
    if scope.released then (.ok (), workspace)
    else
      { workspace with
        scopes := workspace.scopes.set number { scope with released := true } }.onDraft
          scope.draft (.ok ()) Session.endBatch

/-! ## Changes of files -/

/-- Tells some drafts that a file changed; answers how many loaded a document anew. -/
def dispatchTo (workspace : Workspace) (path : String) : List Nat → Nat × Workspace
  | [] => (0, workspace)
  | place :: rest =>
    let (reloaded, told) :=
      workspace.onDraft place (.ok false) fun session => session.fileChanged path
    let (others, last) := dispatchTo told path rest
    (match reloaded with
      | .ok true => (others + 1, last)
      | _ => (others, last))

/-- Tells all live drafts that a file changed; answers how many loaded a document anew. -/
def dispatch (workspace : Workspace) (path : String) : Nat × Workspace :=
  workspace.dispatchTo path workspace.live.values

/-- Tells all live drafts that some files changed, one after another. -/
def pump (workspace : Workspace) : List String → Workspace
  | [] => workspace
  | path :: rest => pump (workspace.dispatch path).2 rest

/-- Lets the watcher see a change of a file, and passes on what it reports; answers whether it
reports anything. -/
def raise (workspace : Workspace) (path : String) : Bool × Workspace :=
  let host := workspace.host
  let (paths, watcher) := (host.watcher.raise path).receiveAll
  (host.watcher.reports path, (workspace.withHost { host with watcher }).pump paths)

end Workspace

end CodeWorkspace
