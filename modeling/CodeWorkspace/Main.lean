import CodeWorkspace.CommandLine.Run
import CodeWorkspace.Manifest.Draws

/-!
# The program

Reads the environment and the manifest, draws a seed for the identities, and writes what the call
comes to.
-/

namespace CodeWorkspace.CommandLine

/-- The number that the operating system gave an error; it may come with its sign changed. -/
def systemNumber? : IO.Error → Option Nat
  | .noFileOrDirectory _ number _ => some number.toInt32.toInt.natAbs
  | .inappropriateType _ number _ => some number.toInt32.toInt.natAbs
  | .invalidArgument _ number _ => some number.toInt32.toInt.natAbs
  | _ => none

/-- The contents of a file. -/
def readFile (path : String) : IO (Except ReadError String) := do
  try
    let bytes ← IO.FS.readBinFile path
    match String.fromUTF8? bytes with
    | some text => return .ok text
    | none => return .error .notText
  catch error =>
    let known? := (systemNumber? error).bind ReadError.ofNumber?
    return .error (known?.getD (.failed error.toString))

/-- The contents of the manifest that a call names. -/
def readManifest (arguments : List String) : IO (Except ReadError String) :=
  match parse arguments with
  | .ok request =>
    match request.action with
    | .load manifest _ _ => readFile manifest
    | .order manifest => readFile manifest
  | .error _ => return .error .missing

/-- The settings that the environment holds. -/
def readSettings : IO Settings := do
  let ignoreCase? ← IO.getEnv Settings.ignoreCaseVariable
  let log? ← IO.getEnv Settings.logVariable
  return Settings.ofVariables fun name =>
    if name = Settings.ignoreCaseVariable then ignoreCase?
    else if name = Settings.logVariable then log?
    else none

end CodeWorkspace.CommandLine

open CodeWorkspace in
/-- Carries out a call of the program. -/
def main (arguments : List String) : IO UInt32 := do
  let settings ← CommandLine.readSettings
  let contents ← CommandLine.readManifest arguments
  let seed ← IO.getRandomBytes 32
  let draws := Draws.ofSeed seed.toList
  let report := CommandLine.run settings (fun _ => contents) draws arguments
  (← IO.getStdout).putStr report.output
  (← IO.getStderr).putStr report.errors
  return UInt32.ofNat report.code
