import CodeWorkspace.Container.OrderedMap

/-!
# Watching files

A watcher hands out a token for each watch and takes it back when the watch ends.  Tokens are
numbered from one and never used again; a token that stands for no watch may be given back, and
nothing comes of it.  The watcher remembers which tokens it was given back, as an editor remembers
what it was told.  A change of a watched file is put into the feed, as long as somebody listens to
it.
-/

namespace CodeWorkspace

/-- What stands for one watch. -/
structure WatchToken where
  number : Nat
  deriving DecidableEq, Inhabited

/-- Where changes are reported. -/
inductive ChangeFeed where
  /-- There is no feed. -/
  | absent
  /-- Somebody listens; the paths not yet received, oldest first. -/
  | listening (waiting : List String)
  /-- Nobody listens any more. -/
  | closed
  deriving DecidableEq, Inhabited

/-- The watches held at a moment. -/
structure Watcher where
  /-- The number of the next token. -/
  next : Nat := 1
  /-- The path that each watch covers. -/
  active : OrderedMap WatchToken String := .empty
  /-- The tokens that were given back, oldest first. -/
  released : List WatchToken := []
  feed : ChangeFeed := .absent

namespace Watcher

/-- A watcher without watches whose changes somebody listens to. -/
def listening : Watcher := { feed := .listening [] }

/-- Starts to watch a path. -/
def watch (watcher : Watcher) (path : String) : WatchToken × Watcher :=
  let token : WatchToken := ⟨watcher.next⟩
  (token, { watcher with
    next := watcher.next + 1
    active := watcher.active.insert token path })

/-- Takes a token back; if it stands for a watch, the watch ends. -/
def unwatch (watcher : Watcher) (token : WatchToken) : Watcher :=
  { watcher with
    active := watcher.active.erase token
    released := watcher.released ++ [token] }

/-- Ends several watches. -/
def unwatchAll (watcher : Watcher) (tokens : List WatchToken) : Watcher :=
  tokens.foldl unwatch watcher

/-- Whether some watch covers a path. -/
def isWatching (watcher : Watcher) (path : String) : Bool := path ∈ watcher.active.values

/-- The number of watches. -/
def activeCount (watcher : Watcher) : Nat := watcher.active.size

/-- Whether a change of a path would be reported. -/
def reports (watcher : Watcher) (path : String) : Bool :=
  watcher.isWatching path &&
    match watcher.feed with
    | .listening _ => true
    | _ => false

/-- Reports a change of a path, if it is watched and somebody listens. -/
def raise (watcher : Watcher) (path : String) : Watcher :=
  if watcher.isWatching path then
    match watcher.feed with
    | .listening waiting => { watcher with feed := .listening (waiting ++ [path]) }
    | _ => watcher
  else watcher

/-- The paths reported and not yet received. -/
def waiting (watcher : Watcher) : List String :=
  match watcher.feed with
  | .listening waiting => waiting
  | _ => []

/-- Receives the next report. -/
def receive (watcher : Watcher) : Option String × Watcher :=
  match watcher.feed with
  | .listening (path :: rest) => (some path, { watcher with feed := .listening rest })
  | _ => (none, watcher)

/-- Receives all reports. -/
def receiveAll (watcher : Watcher) : List String × Watcher :=
  match watcher.feed with
  | .listening waiting => (waiting, { watcher with feed := .listening [] })
  | _ => ([], watcher)

/-- Stops listening. -/
def closeFeed (watcher : Watcher) : Watcher :=
  match watcher.feed with
  | .listening _ => { watcher with feed := .closed }
  | _ => watcher

end Watcher

end CodeWorkspace
