import CodeWorkspace.Session.Basic

/-!
# Documents of a project

Documents in files are watched as long as they are tracked.  When a file changes, a committed
document in it is loaded anew, unless the editor has the file open; this is committed at once,
even inside of a batch.
-/

namespace CodeWorkspace

namespace Session

/-- Adds a document.  It is committed at once unless a batch is open; if that fails, the watch on
its file is ended. -/
def insertDocument (session : Session) (collection : DocumentCollection) (document : Document)
    (buffer? : Option BufferId) (watch? : Option WatchToken) : Reply DocumentId :=
  let track (reached : Session) (state : EntryState) : Session :=
    reached.withRegistry
      ((reached.draft.registry collection).insert document buffer? watch? state) collection
  if session.draft.isBatching then (track session .pendingAdd).answer document.id
  else
    match session.commit (.addDocuments collection [document]) with
    | (.error failure, attempted) => (attempted.release watch?).refuse failure
    | (.ok (), committed) =>
      { result := .ok document.id
        notices := [Draft.arrival document]
        session := track committed .committed }

/-- Adds a document in a file and watches the file. -/
def addFile (session : Session) (collection : DocumentCollection) (path : String)
    (kind : SourceKind) (folders : List String) (id : DocumentId) :
    Except Failure DocumentId × Session :=
  session.withPath path fun checked => checked.update fun ready =>
    match (ready.draft.registry collection).ensureCanAdd (some path) none with
    | .error failure => ready.refuse failure
    | .ok () =>
      let (token, watcher) := ready.host.watcher.watch path
      let watched : Session := { ready with host := { ready.host with watcher } }
      watched.insertDocument collection (.ofFile id path kind folders) none (some token)

/-- Adds a document in a buffer of the editor. -/
def addBuffer (session : Session) (collection : DocumentCollection) (buffer : BufferId)
    (path? : Option String) (kind : SourceKind) (folders : List String) (id : DocumentId) :
    Except Failure DocumentId × Session :=
  if path?.any Text.isBlank then (.error .blankPath, session)
  else
    session.update fun ready =>
      match (ready.draft.registry collection).ensureCanAdd path? (some buffer) with
      | .error failure => ready.refuse failure
      | .ok () =>
        ready.insertDocument collection (.ofBuffer id buffer path? kind folders) (some buffer) none

/-- Removes a tracked document.  It leaves the snapshot at once unless a batch is open. -/
def removeDocument (session : Session) (collection : DocumentCollection) (id : DocumentId) :
    Reply Unit :=
  if session.draft.isBatching then
    let (removal?, left) := (session.draft.registry collection).removeInBatch id
    ((session.withRegistry left collection).release
      (removal?.bind Removal.released?)).answer ()
  else
    match session.commit (.removeDocuments collection [id]) with
    | (.error failure, attempted) => attempted.refuse failure
    | (.ok (), committed) =>
      let (forgotten?, left) := (committed.draft.registry collection).forget id
      { result := .ok ()
        notices := Draft.departures forgotten?.toList
        session := (committed.withRegistry left collection).release
          (forgotten?.bind Forgotten.watch?) }

/-- Removes the document in a file. -/
def removeFile (session : Session) (collection : DocumentCollection) (path : String) :
    Except Failure Unit × Session :=
  session.withPath path fun checked => checked.update fun ready =>
    match (ready.draft.registry collection).lookupPath path with
    | .error failure => ready.refuse failure
    | .ok id => ready.removeDocument collection id

/-- Removes the document in a buffer. -/
def removeBuffer (session : Session) (collection : DocumentCollection) (buffer : BufferId) :
    Except Failure Unit × Session :=
  session.update fun ready =>
    match (ready.draft.registry collection).lookupBuffer buffer with
    | .error failure => ready.refuse failure
    | .ok id => ready.removeDocument collection id

/-- The document of a collection that a change of a file concerns, with its new loader. -/
def reloadTarget? (session : Session) (collection : DocumentCollection) (path : String) :
    Option (DocumentId × Loader) :=
  if session.host.editor.isOpen path then none
  else (session.draft.registry collection).reloadCandidate? path

/-- Loads the document of a collection anew that a change of a file concerns; answers whether
there is one. -/
def reload (session : Session) (collection : DocumentCollection) (path : String) :
    Except Failure Bool × Session :=
  match session.reloadTarget? collection path with
  | none => (.ok false, session)
  | some (id, loader) =>
    match session.commit (.reloadDocument collection id loader) with
    | (.error failure, attempted) => (.error failure, attempted)
    | (.ok (), committed) =>
      (.ok true, committed.withRegistry
        ((committed.draft.registry collection).setLoader id loader) collection)

/-- Loads the documents anew that a change of a file concerns; answers whether there are any. -/
def fileChanged (session : Session) (path : String) : Except Failure Bool × Session :=
  if session.draft.removed then (.ok false, session)
  else
    match session.reload .source path with
    | (.error failure, attempted) => (.error failure, attempted)
    | (.ok inSources, first) =>
      match first.reload .additional path with
      | (.error failure, attempted) => (.error failure, attempted)
      | (.ok inAdditional, second) => (.ok (inSources || inAdditional), second)

end Session

end CodeWorkspace
