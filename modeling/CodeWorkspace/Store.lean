import CodeWorkspace.Failure
import CodeWorkspace.Snapshot.Basic

/-!
# The store

The store holds the current snapshot.  A change to it is a function that yields the next snapshot
or a fault; the store applies it to the current one, stamps the result with the next version and
logs it.  The store may refuse any attempt; an attempt that fails for either reason changes
nothing.
-/

namespace CodeWorkspace

/-- One committed change. -/
structure CommitRecord where
  version : UInt64
  /-- The project on behalf of which it was made. -/
  project : ProjectId
  deriving DecidableEq, Inhabited

/-- The current snapshot and how it came about. -/
structure Store where
  current : Snapshot := .empty
  /-- The committed changes, oldest first. -/
  log : List CommitRecord := []
  /-- How many changes were attempted. -/
  attempts : Nat := 0
  /-- For the number of an attempt, the reason why it is refused, if it is. -/
  refusals : Nat → Option String := fun _ => none

namespace Store

/-- Attempts a change on behalf of a project. -/
def transform (store : Store) (project : ProjectId)
    (change : Snapshot → Except Fault Snapshot) : Except StoreError Unit × Store :=
  let attempted := { store with attempts := store.attempts + 1 }
  match store.refusals store.attempts with
  | some reason => (.error (.rejected reason), attempted)
  | none =>
    match change store.current with
    | .error fault => (.error (.fault fault), attempted)
    | .ok next =>
      let version := store.current.version + 1
      (.ok (), { attempted with
        current := next.withVersion version
        log := store.log ++ [{ version, project }] })

/-- Refuses all further attempts for a reason, or none of them. -/
def refuse (store : Store) (reason? : Option String) : Store :=
  { store with refusals := fun _ => reason? }

/-- The number of changes committed on behalf of a project. -/
def commitsFor (store : Store) (project : ProjectId) : Nat :=
  (store.log.filter fun record => record.project = project).length

end Store

end CodeWorkspace
