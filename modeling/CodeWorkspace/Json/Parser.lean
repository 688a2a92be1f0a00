import CodeWorkspace.Json.Token

/-!
# Reading JSON

A pushdown machine reads the tokens of a text one after another.  Its stack holds the containers
that are still open, and its state says which tokens may come next.  Nesting is not limited here:
how deep a value may be is for those to say who decode it.
-/

namespace CodeWorkspace

namespace Json

/-- A container whose end is still to come, its contents last to first. -/
inductive Frame where
  | array (items : List Tree)
  | object (members : List (Option String × Tree)) (key : Option String)
  deriving Inhabited

/-- What the machine waits for. -/
inductive Machine where
  /-- A value. -/
  | atValue (stack : List Frame)
  /-- The first item of an array or its end. -/
  | atFirstItem (stack : List Frame)
  /-- The first key of an object or its end. -/
  | atFirstKey (stack : List Frame)
  /-- A further key of an object. -/
  | atKey (members : List (Option String × Tree)) (stack : List Frame)
  /-- The colon behind a key. -/
  | atColon (members : List (Option String × Tree)) (key : Option String) (stack : List Frame)
  /-- Whatever may follow a complete value. -/
  | behind (value : Tree) (stack : List Frame)
  deriving Inhabited

namespace Machine

/-- Reads the first token of a value. -/
def startValue (stack : List Frame) : Token → Option Machine
  | .null => some (.behind .null stack)
  | .bool value => some (.behind (.bool value) stack)
  | .number numeral => some (.behind (.number numeral) stack)
  | .string content? => some (.behind (.string content?) stack)
  | .openArray => some (.atFirstItem stack)
  | .openObject => some (.atFirstKey stack)
  | _ => none

/-- Reads what follows a complete value. -/
def afterValue (value : Tree) : List Frame → Token → Option Machine
  | .array items :: stack, .comma => some (.atValue (.array (value :: items) :: stack))
  | .array items :: stack, .closeArray =>
    some (.behind (.array (value :: items).reverse) stack)
  | .object members key :: stack, .comma => some (.atKey ((key, value) :: members) stack)
  | .object members key :: stack, .closeObject =>
    some (.behind (.object ((key, value) :: members).reverse) stack)
  | _, _ => none

/-- Reads one token. -/
def step : Machine → Token → Option Machine
  | .atValue stack, token => startValue stack token
  | .atFirstItem stack, .closeArray => some (.behind (.array []) stack)
  | .atFirstItem stack, token => startValue (.array [] :: stack) token
  | .atFirstKey stack, .closeObject => some (.behind (.object []) stack)
  | .atFirstKey stack, .string key => some (.atColon [] key stack)
  | .atKey members stack, .string key => some (.atColon members key stack)
  | .atColon members key stack, .colon => some (.atValue (.object members key :: stack))
  | .behind value stack, token => afterValue value stack token
  | _, _ => none

/-- Reads tokens one after another. -/
def run : Machine → List Token → Option Machine
  | machine, [] => some machine
  | machine, token :: rest =>
    match machine.step token with
    | none => none
    | some next => run next rest

/-- The value read, once no container is open. -/
def result? : Machine → Option Tree
  | .behind value [] => some value
  | _ => none

end Machine

/-- The syntax tree of a text. -/
def Tree.parseChars? (text : List Char) : Option Tree := do
  let tokens ← tokenize text
  let machine ← Machine.run (.atValue []) tokens
  machine.result?

/-- The syntax tree of a text that holds one JSON value and blanks around it. -/
def Tree.parse? (text : String) : Option Tree := Tree.parseChars? text.toList

end Json

end CodeWorkspace
