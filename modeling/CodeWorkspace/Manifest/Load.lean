import CodeWorkspace.Manifest.Basic
import CodeWorkspace.Workspace.Basic

/-!
# Loading manifests

All projects of a manifest are created first, so that every output is known before any reference is
reconciled; then each of them is filled, in one batch or change by change.  The identities of
projects and documents are drawn beforehand.  Loading stops at the first failure; what was done by
then is kept, and an open batch is closed.
-/

namespace CodeWorkspace

/-- The identities drawn for a manifest. -/
structure Draws where
  /-- The identity of each project, by its place in the manifest. -/
  project : Nat → ProjectId
  /-- The identity of each document, by the place of its project and its own. -/
  document : Nat → Nat → DocumentId

/-- Why a manifest cannot be loaded. -/
inductive LoadError where
  /-- A project refers to a name that no project has. -/
  | unknownProject (name target : String)
  /-- An operation on a project fails. -/
  | project (name : String) (failure : Failure)
  deriving DecidableEq, Inhabited

/-- The message for an error. -/
def LoadError.message : LoadError → String
  | .unknownProject name target =>
    "project '" ++ name ++ "' references unknown project '" ++ target ++ "'"
  | .project name failure => "project '" ++ name ++ "': " ++ failure.message

namespace ProjectManifest

/-- The documents that are added, with their kinds. -/
def documents (entry : ProjectManifest) : List (DocumentCollection × SourceKind × String) :=
  entry.sources.map (fun path => (.source, .regular, path)) ++
    entry.scripts.map (fun path => (.source, .script, path)) ++
    entry.additional.map fun path => (.additional, .regular, path)

/-- The changes that fill the project, given the projects that it refers to. -/
def edits (entry : ProjectManifest) (targets : List ProjectId) (document : Nat → DocumentId) :
    List Edit :=
  (entry.documents.mapIdx fun place (collection, kind, path) =>
      .addFile collection path kind [] (document place)) ++
    entry.metadataReferences.map (fun reference => .addMetadataReference reference.reference) ++
    targets.map (fun target => .addProjectReference { target }) ++
    entry.analyzers.map .addAnalyzer

end ProjectManifest

namespace Workspace

/-- Carries out changes of a draft until one fails. -/
def performEach (workspace : Workspace) (place : Nat) : List Edit → Except Failure Unit × Workspace
  | [] => (.ok (), workspace)
  | edit :: rest =>
    match workspace.onDraft place (.ok .done) fun session => session.perform edit with
    | (.error failure, attempted) => (.error failure, attempted)
    | (.ok _, changed) => performEach changed place rest

/-- Carries out changes of a draft in a batch.  The batch is closed in any case. -/
def performInBatch (workspace : Workspace) (place : Nat) (edits : List Edit) :
    Except Failure Unit × Workspace :=
  let scope := workspace.scopes.length
  match workspace.openScope place with
  | (.error failure, same) => (.error failure, same)
  | (.ok _, opened) =>
    match opened.performEach place edits with
    | (.error failure, attempted) => (.error failure, (attempted.releaseScope scope).2)
    | (.ok (), changed) => changed.releaseScope scope

end Workspace

namespace Manifest

/-- Creates the projects of a manifest; yields the place of the draft of each. -/
def createEach (draws : Draws) (workspace : Workspace) (first : Nat) :
    List ProjectManifest → Except LoadError (List Nat) × Workspace
  | [] => (.ok [], workspace)
  | entry :: rest =>
    match workspace.createProject (entry.info (draws.project first)) with
    | (.error failure, attempted) => (.error (.project entry.name failure), attempted)
    | (.ok place, created) =>
      let (result, last) := createEach draws created (first + 1) rest
      (result.map (place :: ·), last)

/-- The project that a name stands for: the last one of that name. -/
def named? (manifest : Manifest) (draws : Draws) (name : String) : Option ProjectId :=
  let places := (manifest.projects.mapIdx fun place entry => (place, entry.name)).reverse
  (places.find? fun entry => entry.2 = name).map fun entry => draws.project entry.1

/-- The projects that an entry refers to. -/
def targets (manifest : Manifest) (draws : Draws) (entry : ProjectManifest) :
    Except LoadError (List ProjectId) :=
  entry.projectReferences.mapM fun name =>
    match manifest.named? draws name with
    | some id => .ok id
    | none => .error (.unknownProject entry.name name)

/-- Fills a project. -/
def fill (batched : Bool) (workspace : Workspace) (place : Nat) (edits : List Edit) :
    Except Failure Unit × Workspace :=
  if batched then workspace.performInBatch place edits else workspace.performEach place edits

/-- Fills projects, each given with the place of its draft. -/
def fillEach (manifest : Manifest) (draws : Draws) (batched : Bool) (workspace : Workspace)
    (first : Nat) : List (ProjectManifest × Nat) → Except LoadError Unit × Workspace
  | [] => (.ok (), workspace)
  | (entry, place) :: rest =>
    match manifest.targets draws entry with
    | .error error => (.error error, workspace)
    | .ok targets =>
      match fill batched workspace place (entry.edits targets (draws.document first)) with
      | (.error failure, attempted) => (.error (.project entry.name failure), attempted)
      | (.ok (), filled) => fillEach manifest draws batched filled (first + 1) rest

/-- Loads a manifest into a workspace; answers the name and identity of each project. -/
def load (manifest : Manifest) (draws : Draws) (batched : Bool) (workspace : Workspace) :
    Except LoadError (List (String × ProjectId)) × Workspace :=
  match createEach draws workspace 0 manifest.projects with
  | (.error error, attempted) => (.error error, attempted)
  | (.ok places, created) =>
    let (result, last) :=
      fillEach manifest draws batched created 0 (manifest.projects.zip places)
    (result.map fun () =>
      manifest.projects.mapIdx fun place entry => (entry.name, draws.project place), last)

end Manifest

end CodeWorkspace
