import CodeWorkspace.CommandLine.Arguments
import CodeWorkspace.CommandLine.Summary
import CodeWorkspace.Manifest.Load
import CodeWorkspace.Settings

/-!
# Carrying out a call

What a call of the program writes and the code that it ends with, given the settings, the contents
of the manifest and the identities to be used.
-/

namespace CodeWorkspace

/-- Why a file cannot be read. -/
inductive ReadError where
  /-- There is nothing at the path. -/
  | missing
  /-- A name stands behind one that leads to no directory. -/
  | notDirectory
  /-- There is a directory at the path. -/
  | isDirectory
  /-- A name or the whole path is longer than any name or path can be. -/
  | nameTooLong
  /-- It is no text in UTF-8. -/
  | notText
  | failed (message : String)
  deriving DecidableEq

namespace ReadError

/-- The error that a number of the operating system stands for. -/
def ofNumber? : Nat → Option ReadError
  | 2 => some .missing
  | 20 => some .notDirectory
  | 21 => some .isDirectory
  | 36 => some .nameTooLong
  | _ => none

/-- The message for an error. -/
def message : ReadError → String
  | .missing => "No such file or directory (os error 2)"
  | .notDirectory => "Not a directory (os error 20)"
  | .isDirectory => "Is a directory (os error 21)"
  | .nameTooLong => "File name too long (os error 36)"
  | .notText => "stream did not contain valid UTF-8"
  | .failed message => message

end ReadError

namespace CommandLine

/-- What a call comes to. -/
structure Report where
  /-- The code that the program ends with. -/
  code : Nat
  output : String := ""
  errors : String := ""
  deriving DecidableEq

/-- Why a call fails. -/
inductive CallError where
  | unreadable (error : ReadError)
  /-- The file holds no manifest. -/
  | noManifest
  | load (error : LoadError)
  /-- There is no build order. -/
  | order (failure : Failure)
  deriving DecidableEq

namespace CallError

/-- The message for an error. -/
def message : CallError → String
  | .unreadable error => "failed to read manifest: " ++ error.message
  | .noManifest => "invalid manifest: the text does not have the form of a manifest"
  | .load error => error.message
  | .order failure => failure.message

/-- The code that an error ends the program with. -/
def code : CallError → Nat
  | .unreadable _ => 3
  | _ => 1

/-- The report of an error. -/
def report (error : CallError) : Report :=
  { code := error.code, errors := "Error: " ++ error.message ++ "\n" }

end CallError

/-- How the program is called. -/
def usageText : String :=
  "Project graph loader and inspector\n\n" ++
    "Usage: codeworkspace [--case-insensitive-paths] load MANIFEST [--no-batch] [--json]\n" ++
    "       codeworkspace [--case-insensitive-paths] order MANIFEST\n"

/-- The report of a call that is not carried out. -/
def Refusal.report : Refusal → Report
  | .usage => { code := 2, errors := usageText }
  | .help => { code := 0, output := usageText }

/-- The workspace that a manifest is loaded into. -/
def loaded (contents : Except ReadError String) (comparison : PathComparison) (batched : Bool)
    (draws : Draws) : Except CallError Workspace := do
  let text ← contents.mapError .unreadable
  match Manifest.parse? text with
  | none => .error .noManifest
  | some manifest =>
    match manifest.load draws batched (.inMemory comparison) with
    | (.error error, _) => .error (.load error)
    | (.ok _, workspace) => .ok workspace

/-- The names of the projects in their build order. -/
def orderedNames (workspace : Workspace) : Except CallError (List String) := do
  let order ← workspace.buildOrder.mapError .order
  return order.filterMap fun id =>
    (workspace.snapshot.project? id).map fun project => project.properties.name

/-- What an action writes. -/
def output (read : String → Except ReadError String) (comparison : PathComparison)
    (draws : Draws) : Action → Except CallError String
  | .load manifest batched showSnapshot => do
    let workspace ← loaded (read manifest) comparison batched draws
    let tree :=
      if showSnapshot then workspace.snapshot.tree
      else summary workspace.snapshot workspace.host.store.log.length
    return tree.pretty ++ "\n"
  | .order manifest => do
    let workspace ← loaded (read manifest) comparison true draws
    let names ← orderedNames workspace
    return String.join (names.map fun name => name ++ "\n")

/-- The way of comparing paths that a request asks for. -/
def Request.comparison (request : Request) (settings : Settings) : PathComparison :=
  if request.ignoreCase then .ignoreCase else settings.comparison

/-- Carries out a call. -/
def run (settings : Settings) (read : String → Except ReadError String) (draws : Draws)
    (arguments : List String) : Report :=
  match parse arguments with
  | .error refusal => refusal.report
  | .ok request =>
    match output read (request.comparison settings) draws request.action with
    | .error error => error.report
    | .ok written => { code := 0, output := written }

end CommandLine

end CodeWorkspace
