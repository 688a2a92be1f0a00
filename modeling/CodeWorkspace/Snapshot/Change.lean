import CodeWorkspace.Dependency.Reach

/-!
# Changing snapshots

Changes to the projects of a snapshot.  A change that is turned away before a project is opened
leaves the snapshot as it was; once a project is opened for a change it counts as written, whether
the change succeeds or not.
-/

namespace CodeWorkspace

namespace Snapshot

/-- The project with an identity, or the fault that there is none. -/
def require (snapshot : Snapshot) (id : ProjectId) : Except Fault Project :=
  match snapshot.project? id with
  | none => .error (.projectNotFound id)
  | some project => .ok project

/-- Opens a project for a change. -/
def modify (snapshot : Snapshot) (id : ProjectId) (change : Project → Attempt Project) :
    Attempt Snapshot :=
  match snapshot.project? id with
  | none => .stopped snapshot (.projectNotFound id)
  | some project => (change project).map fun reached => snapshot.write id reached

/-- Opens a project for a change that succeeds as a whole or not at all. -/
def modifyWhole (snapshot : Snapshot) (id : ProjectId)
    (change : Project → Except Fault Project) : Attempt Snapshot :=
  snapshot.modify id fun project => .ofExcept project (change project)

/-- Adds an empty project. -/
def addProject (snapshot : Snapshot) (info : ProjectInfo) : Except Fault Snapshot :=
  if snapshot.contains info.id then .error (.duplicateProject info.id)
  else .ok (snapshot.write info.id (.ofInfo info))

/-- Takes the references to a project out of some projects of a snapshot. -/
def dropReferencesTo (target : ProjectId) (snapshot : Snapshot)
    (contents : List (ProjectId × Project)) : Snapshot :=
  contents.foldl
    (fun reached entry =>
      if entry.2.refersTo target then reached.write entry.1 (entry.2.withoutReferencesTo target)
      else reached)
    snapshot

/-- Removes a project together with all references to it. -/
def removeProject (snapshot : Snapshot) (id : ProjectId) : Except Fault Snapshot :=
  if snapshot.contains id then
    let rest := snapshot.erase id
    .ok (rest.dropReferencesTo id rest.contents)
  else .error (.projectNotFound id)

/-- Adds a reference to a project unless it closes a cycle. -/
def addProjectReference (snapshot : Snapshot) (source : ProjectId)
    (reference : ProjectReference) : Attempt Snapshot :=
  if (DependencyGraph.ofSnapshot snapshot).wouldCreateCycle source reference.target then
    .stopped snapshot (.cycleDetected source reference.target)
  else snapshot.modifyWhole source fun project => project.addProjectReference reference

/-- Adds a holder to a reference.  The first one adds the reference itself, which is then held
directly unless something else is recorded; there may be one direct holder and any number of
others. -/
def holdProjectReference (snapshot : Snapshot) (source : ProjectId)
    (reference : ProjectReference) (holder : ReferenceHolder) : Attempt Snapshot :=
  match snapshot.project? source with
  | none => .stopped snapshot (.projectNotFound source)
  | some project =>
    if reference ∈ project.projectReferences then
      let holders := project.holdersOf reference
      if holder = .direct ∧ holders.direct then
        .stopped snapshot (.duplicateReference source reference.target.text)
      else
        snapshot.modify source fun project =>
          .done (project.setHolders reference (holders.add holder))
    else
      let added := snapshot.addProjectReference source reference
      match added.fault?, holder with
      | none, .converted =>
        added.reached.modify source fun project =>
          .done (project.setHolders reference .convertedOnce)
      | _, _ => added

/-- Takes a holder from a reference. -/
def releaseProjectReference (snapshot : Snapshot) (source : ProjectId)
    (reference : ProjectReference) (holder : ReferenceHolder) : Attempt Snapshot :=
  snapshot.modifyWhole source fun project =>
    project.releaseProjectReference reference holder

end Snapshot

end CodeWorkspace
