import CodeWorkspace.Draft
import CodeWorkspace.Host
import CodeWorkspace.Text.Blank

/-!
# Working on a project

A session is a draft together with the host that it is worked on.  An operation is turned down at
once if its arguments make no sense or if the project has been removed.  Outside of a batch, what
an earlier failure left waiting is committed before anything else happens; if that fails, the
operation is turned down too.  The editor is told at the very end.
-/

namespace CodeWorkspace

/-- A draft and its host. -/
structure Session where
  host : Host
  draft : Draft

/-- What an operation comes to. -/
structure Reply (α : Type) where
  result : Except Failure α
  /-- What the editor has to be told about it. -/
  notices : List Notice := []
  session : Session

namespace Session

variable {α : Type}

/-- Turns an operation down. -/
def refuse (session : Session) (failure : Failure) : Reply α :=
  { result := .error failure, session }

/-- Answers an operation. -/
def answer (session : Session) (value : α) : Reply α :=
  { result := .ok value, session }

/-- The session with another state of a collection of documents. -/
def withRegistry (session : Session) (registry : Registry) (collection : DocumentCollection) :
    Session :=
  { session with draft := session.draft.withRegistry registry collection }

/-- Ends the watch of a document that is no longer tracked. -/
def release (session : Session) (token? : Option WatchToken) : Session :=
  { session with host := session.host.unwatchAll token?.toList }

/-- Passes news on to the editor. -/
def notify (session : Session) (notices : List Notice) : Session :=
  { session with host := session.host.notify session.draft.id notices }

/-- Attempts a change of the snapshot. -/
def transform (session : Session) (change : Snapshot → Except Fault Snapshot) :
    Except Failure Unit × Session :=
  let (result, store) := session.host.store.transform session.draft.id change
  (result.mapError .store, { session with host := { session.host with store } })

/-- Submits transitions that depend on the snapshot. -/
def submit (session : Session) (plan : Snapshot → List Transition) :
    Except Failure Unit × Session :=
  session.transform fun snapshot => Transition.applyAll session.draft.id snapshot (plan snapshot)

/-- Submits a single transition. -/
def commit (session : Session) (transition : Transition) : Except Failure Unit × Session :=
  session.submit fun _ => [transition]

/-- Commits all that waits.  If that fails it goes on waiting. -/
def flush (session : Session) : Except Failure (List Notice) × Session :=
  if session.draft.hasPending then
    match session.submit (session.draft.plan session.host.outputs) with
    | (.error failure, attempted) => (.error failure, attempted)
    | (.ok (), committed) =>
      let (notices, settled) := committed.draft.settle
      (.ok notices, { committed with draft := settled })
  else (.ok [], session)

/-- Commits all that waits and tells the editor. -/
def flushAndNotify (session : Session) : Except Failure Unit × Session :=
  match session.flush with
  | (.error failure, attempted) => (.error failure, attempted)
  | (.ok notices, flushed) => (.ok (), flushed.notify notices)

/-- Carries out an operation on a project that is not removed, after what an earlier failure left
waiting. -/
def update (session : Session) (operation : Session → Reply α) : Except Failure α × Session :=
  if session.draft.removed then (.error (.removed session.draft.id), session)
  else
    match if session.draft.isBatching then (.ok [], session) else session.flush with
    | (.error failure, attempted) => (.error failure, attempted)
    | (.ok notices, ready) =>
      let reply := operation ready
      (reply.result, reply.session.notify (notices ++ reply.notices))

/-- Carries out an operation unless its path is blank. -/
def withPath (session : Session) (path : String)
    (operation : Session → Except Failure α × Session) : Except Failure α × Session :=
  if Text.isBlank path then (.error .blankPath, session) else operation session

end Session

end CodeWorkspace
