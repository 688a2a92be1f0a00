import CodeWorkspace.Container.OrderedMap
import CodeWorkspace.Failure
import CodeWorkspace.PathComparison
import CodeWorkspace.Watcher

/-!
# Registries of documents

A registry keeps track of the documents of one collection while a project is worked on.  A document
that is added waits to be committed, one that is committed is in the snapshot, and one that is
removed waits to leave it; outside of a batch nothing waits.  Documents are found by the key of
their path and by their buffer, and no two of them may share either.
-/

namespace CodeWorkspace

/-- Where a document stands between the project and the snapshot. -/
inductive EntryState where
  /-- Added, and not yet in the snapshot. -/
  | pendingAdd
  /-- In the snapshot. -/
  | committed
  /-- Removed, and still in the snapshot. -/
  | pendingRemove
  deriving DecidableEq, Inhabited

/-- A document in a registry. -/
structure RegistryEntry where
  document : Document
  /-- The buffer that the document is found by. -/
  buffer? : Option BufferId
  state : EntryState
  /-- The watch on the file of the document. -/
  watch? : Option WatchToken
  /-- The key that the document is found by. -/
  pathKey? : Option String
  deriving DecidableEq

/-- Whether the document is in the snapshot. -/
def RegistryEntry.isVisible (entry : RegistryEntry) : Bool := entry.state ≠ .pendingAdd

/-- What removing a document in a batch came to. -/
inductive Removal where
  /-- The document was waiting to be added and is forgotten. -/
  | cancelled (watch? : Option WatchToken)
  /-- The document now waits to leave the snapshot. -/
  | deferred (watch? : Option WatchToken)
  deriving DecidableEq

/-- The watch that a removed document no longer needs. -/
def Removal.released? : Removal → Option WatchToken
  | .cancelled watch? | .deferred watch? => watch?

/-- What is left of a document that is forgotten. -/
structure Forgotten where
  id : DocumentId
  watch? : Option WatchToken
  /-- Whether it had a buffer and was in the snapshot. -/
  closed : Bool
  deriving DecidableEq

/-- The documents of one collection. -/
structure Registry where
  collection : DocumentCollection
  comparison : PathComparison
  byPath : OrderedMap String DocumentId := .empty
  byBuffer : OrderedMap BufferId DocumentId := .empty
  entries : OrderedMap DocumentId RegistryEntry := .empty
  /-- Documents waiting to be added, first to last. -/
  pendingAdds : List DocumentId := []
  /-- Documents waiting to leave the snapshot, first to last. -/
  pendingRemoves : List DocumentId := []

namespace Registry

/-! ## Finding documents -/

/-- The key of a path. -/
def key (registry : Registry) (path : String) : String := registry.comparison.key path

/-- The entry of a document. -/
def entry? (registry : Registry) (id : DocumentId) : Option RegistryEntry :=
  registry.entries.get? id

/-- Whether a document is there and not about to leave. -/
def isTracked (registry : Registry) (id : DocumentId) : Bool :=
  match registry.entry? id with
  | none => false
  | some entry => entry.state ≠ .pendingRemove

/-- Whether a path is taken, be it by a document that is about to leave. -/
def knowsPath (registry : Registry) (path : String) : Bool :=
  registry.byPath.contains (registry.key path)

/-- The tracked document at a path. -/
def lookupPath? (registry : Registry) (path : String) : Option DocumentId :=
  (registry.byPath.get? (registry.key path)).filter registry.isTracked

/-- The tracked document in a buffer. -/
def lookupBuffer? (registry : Registry) (buffer : BufferId) : Option DocumentId :=
  (registry.byBuffer.get? buffer).filter registry.isTracked

/-- The tracked document at a path, or the failure that there is none. -/
def lookupPath (registry : Registry) (path : String) : Except Failure DocumentId :=
  match registry.lookupPath? path with
  | some id => .ok id
  | none => .error (.untracked (.file registry.collection path))

/-- The tracked document in a buffer, or the failure that there is none. -/
def lookupBuffer (registry : Registry) (buffer : BufferId) : Except Failure DocumentId :=
  match registry.lookupBuffer? buffer with
  | some id => .ok id
  | none => .error (.untracked (.buffer registry.collection buffer))

/-- Fails if the path or the buffer is taken. -/
def ensureCanAdd (registry : Registry) (path? : Option String) (buffer? : Option BufferId) :
    Except Failure Unit :=
  match path?.filter registry.knowsPath, buffer?.filter registry.byBuffer.contains with
  | some path, _ => .error (.tracked (.file registry.collection path))
  | none, some buffer => .error (.tracked (.buffer registry.collection buffer))
  | none, none => .ok ()

/-- The tracked documents in the order in which they were added. -/
def documentIds (registry : Registry) : List DocumentId :=
  (registry.entries.filter fun _ entry => entry.state ≠ .pendingRemove).keys

/-- The committed document in the file at a path, with the loader that it has after a reload. -/
def reloadCandidate? (registry : Registry) (path : String) : Option (DocumentId × Loader) := do
  let id ← registry.byPath.get? (registry.key path)
  let entry ← registry.entry? id
  if entry.state = .committed ∧ entry.buffer? = none then
    some (id, entry.document.loader.reloaded)
  else none

/-! ## Adding and removing documents -/

/-- Adds a document. -/
def insert (registry : Registry) (document : Document) (buffer? : Option BufferId)
    (watch? : Option WatchToken) (state : EntryState) : Registry :=
  let pathKey? := document.path?.map registry.key
  { registry with
    byPath :=
      match pathKey? with
      | some key => registry.byPath.insert key document.id
      | none => registry.byPath
    byBuffer :=
      match buffer? with
      | some buffer => registry.byBuffer.insert buffer document.id
      | none => registry.byBuffer
    pendingAdds :=
      if state = .pendingAdd then registry.pendingAdds ++ [document.id]
      else registry.pendingAdds
    entries := registry.entries.insert document.id { document, buffer?, state, watch?, pathKey? } }

/-- Takes out a document and what it is found by. -/
def dropEntry (registry : Registry) (id : DocumentId) (entry : RegistryEntry) : Registry :=
  { registry with
    entries := registry.entries.erase id
    byPath :=
      match entry.pathKey? with
      | some key => registry.byPath.erase key
      | none => registry.byPath
    byBuffer :=
      match entry.buffer? with
      | some buffer => registry.byBuffer.erase buffer
      | none => registry.byBuffer }

/-- Forgets a document. -/
def forget (registry : Registry) (id : DocumentId) : Option Forgotten × Registry :=
  match registry.entry? id with
  | none => (none, registry)
  | some entry =>
    (some { id, watch? := entry.watch?, closed := entry.buffer?.isSome && entry.isVisible },
      registry.dropEntry id entry)

/-- Forgets several documents. -/
def forgetEach (registry : Registry) : List DocumentId → List Forgotten × Registry
  | [] => ([], registry)
  | id :: rest =>
    let (forgotten?, left) := registry.forget id
    let (others, last) := forgetEach left rest
    (forgotten?.toList ++ others, last)

/-- Removes a document in a batch: one that waits to be added is forgotten, and a committed one
waits to leave from now on. -/
def removeInBatch (registry : Registry) (id : DocumentId) : Option Removal × Registry :=
  match registry.entry? id with
  | none => (none, registry)
  | some entry =>
    match entry.state with
    | .pendingAdd =>
      (some (.cancelled entry.watch?),
        { registry.dropEntry id entry with
          pendingAdds := registry.pendingAdds.filter fun other => other ≠ id })
    | .committed =>
      (some (.deferred entry.watch?),
        { registry with
          entries := registry.entries.adjust id fun old =>
            { old with state := .pendingRemove, watch? := none }
          pendingRemoves := registry.pendingRemoves ++ [id] })
    | .pendingRemove => (none, registry)

/-- Gives a document another loader. -/
def setLoader (registry : Registry) (id : DocumentId) (loader : Loader) : Registry :=
  { registry with
    entries := registry.entries.adjust id fun entry =>
      { entry with document := { entry.document with loader := loader } } }

/-! ## What waits -/

/-- Whether any document waits. -/
def hasPending (registry : Registry) : Bool :=
  !registry.pendingAdds.isEmpty || !registry.pendingRemoves.isEmpty

/-- The documents waiting to be added. -/
def pendingDocuments (registry : Registry) : List Document :=
  registry.pendingAdds.filterMap fun id => (registry.entry? id).map RegistryEntry.document

/-- Marks a document as committed. -/
def settle (registry : Registry) (id : DocumentId) : Registry :=
  { registry with
    entries := registry.entries.adjust id fun entry => { entry with state := .committed } }

/-- Ends the waiting once the snapshot has been brought up to date. -/
def completeFlush (registry : Registry) : List Forgotten × Registry :=
  let settled := registry.pendingAdds.foldl settle registry
  let (forgotten, left) := settled.forgetEach registry.pendingRemoves
  (forgotten, { left with pendingAdds := [], pendingRemoves := [] })

/-- Forgets all documents. -/
def drainAll (registry : Registry) : List Forgotten × Registry :=
  let (forgotten, left) := registry.forgetEach registry.entries.keys
  (forgotten, { left with pendingAdds := [], pendingRemoves := [] })

/-- The number of documents, waiting ones included. -/
def size (registry : Registry) : Nat := registry.entries.size

/-- Whether there are no documents. -/
def isEmpty (registry : Registry) : Bool := registry.entries.isEmpty

end Registry

end CodeWorkspace
