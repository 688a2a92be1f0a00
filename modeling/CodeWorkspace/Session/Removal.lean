import CodeWorkspace.Session.Basic

/-!
# Removing a project

A project that is removed leaves the snapshot together with all references to it.  Its watches end,
its outputs are no longer published, and what waited is forgotten.
-/

namespace CodeWorkspace

namespace Session

/-- Removes the project from the snapshot and closes the draft. -/
def removeProject (session : Session) : Except Failure Unit × Session :=
  if session.draft.removed then (.error (.removed session.draft.id), session)
  else
    match session.transform fun snapshot => snapshot.removeProject session.draft.id with
    | (.error failure, attempted) => (.error failure, attempted)
    | (.ok (), committed) =>
      let (forgotten, draft) := committed.draft.discard
      let unwatched := committed.host.unwatchAll (forgotten.filterMap Forgotten.watch?)
      let host : Host :=
        { unwatched with outputs := unwatched.outputs.unregisterProject session.draft.id }
      (.ok (), { host, draft : Session }.notify (Draft.departures forgotten))

end Session

end CodeWorkspace
