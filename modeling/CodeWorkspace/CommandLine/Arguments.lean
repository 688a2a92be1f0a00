/-!
# Arguments of the command line

The program is called with a command, the path of a manifest and some flags:

    load MANIFEST [--no-batch] [--json]
    order MANIFEST

The flag `--case-insensitive-paths` may stand before or behind the command.  No flag is given
twice in one place, and what stands behind `--` is no flag.
-/

namespace CodeWorkspace

namespace CommandLine

/-- What the program is asked to do. -/
inductive Action where
  /-- Load a manifest, and show the snapshot or a summary of it. -/
  | load (manifest : String) (batched showSnapshot : Bool)
  /-- Load a manifest, and show the build order. -/
  | order (manifest : String)
  deriving DecidableEq

/-- A call of the program. -/
structure Request where
  action : Action
  /-- Whether paths are compared without regard to case, whatever the settings say. -/
  ignoreCase : Bool
  deriving DecidableEq

/-- Why a call is not carried out. -/
inductive Refusal where
  /-- The arguments do not make sense. -/
  | usage
  /-- Help was asked for. -/
  | help
  deriving DecidableEq

/-- The two commands. -/
inductive Verb where
  | load
  | order
  deriving DecidableEq

/-- The flags of the commands. -/
inductive Flag where
  | ignoreCase
  | noBatch
  | json
  deriving DecidableEq

/-- The command that a word names. -/
def Verb.ofWord? : String → Option Verb
  | "load" => some .load
  | "order" => some .order
  | _ => none

/-- The flags that a command knows. -/
def Verb.flags : Verb → List (String × Flag)
  | .load => [("--case-insensitive-paths", .ignoreCase), ("--no-batch", .noBatch), ("--json", .json)]
  | .order => [("--case-insensitive-paths", .ignoreCase)]

/-- Whether a word asks for help. -/
def asksForHelp (word : String) : Bool := word = "--help" || word = "-h"

/-- Whether a word looks like a flag. -/
def looksLikeFlag (word : String) : Bool := word.startsWith "-" && word ≠ "-"

/-- What was read behind a command. -/
structure Operands where
  manifest? : Option String := none
  flags : List Flag := []
  deriving DecidableEq

/-- Takes a word as the path of the manifest. -/
def Operands.place (operands : Operands) (word : String) : Except Refusal Operands :=
  if word = "" ∨ operands.manifest?.isSome then .error .usage
  else .ok { operands with manifest? := some word }

/-- Reads the words behind a command. -/
def readOperands (verb : Verb) (operands : Operands) : List String → Except Refusal Operands
  | [] => .ok operands
  | word :: rest =>
    if word = "--" then rest.foldlM Operands.place operands
    else if asksForHelp word then .error .help
    else if looksLikeFlag word then
      match verb.flags.find? fun entry => entry.1 = word with
      | none => .error .usage
      | some (_, flag) =>
        if flag ∈ operands.flags then .error .usage
        else readOperands verb { operands with flags := flag :: operands.flags } rest
    else
      match operands.place word with
      | .error refusal => .error refusal
      | .ok placed => readOperands verb placed rest

/-- The action that a command with its operands asks for. -/
def action (verb : Verb) (operands : Operands) : Except Refusal Action :=
  match operands.manifest? with
  | none => .error .usage
  | some manifest =>
    match verb with
    | .load => .ok (.load manifest (.noBatch ∉ operands.flags) (.json ∈ operands.flags))
    | .order => .ok (.order manifest)

/-- Reads a request for help about a command. -/
def readHelp : List String → Refusal
  | [] => .help
  | [word] => if word = "help" ∨ (Verb.ofWord? word).isSome then .help else .usage
  | _ => .usage

/-- Reads the arguments of a call, given whether the flag before the command was read. -/
def read (ignoreCase : Bool) : List String → Except Refusal Request
  | [] => .error .usage
  | word :: rest =>
    if asksForHelp word then .error .help
    else if word = "--case-insensitive-paths" then
      if ignoreCase then .error .usage else read true rest
    else if word = "help" then .error (readHelp rest)
    else
      match Verb.ofWord? word with
      | none => .error .usage
      | some verb => do
        let operands ← readOperands verb {} rest
        let action ← action verb operands
        return { action, ignoreCase := ignoreCase || .ignoreCase ∈ operands.flags }

/-- The request that arguments make. -/
def parse (arguments : List String) : Except Refusal Request := read false arguments

end CommandLine

end CodeWorkspace
