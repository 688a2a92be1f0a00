import CodeWorkspace.Session.Basic

/-!
# References of a project

A reference is tracked once it has been committed or, inside of a batch, put off.  How a metadata
reference is represented is found out when it is committed.  A project has at most one tracked
reference to another project, and none that closes a cycle in the current snapshot.
-/

namespace CodeWorkspace

namespace Session

/-- Puts a change off if a batch is open, and commits it otherwise; on success the draft keeps
track of it. -/
def submitOrDefer (session : Session) (defer : ChangeSet → ChangeSet)
    (plan : Snapshot → List Transition) (track : Draft → Draft) : Reply Unit :=
  if session.draft.isBatching then
    { session with
      draft := track { session.draft with changes := defer session.draft.changes } }.answer ()
  else
    match session.submit plan with
    | (.error failure, attempted) => attempted.refuse failure
    | (.ok (), committed) => { committed with draft := track committed.draft }.answer ()

/-- Adds a metadata reference. -/
def addMetadataReference (session : Session) (reference : MetadataReference) :
    Except Failure Unit × Session :=
  session.withPath reference.path fun checked => checked.update fun ready =>
    if reference ∈ ready.draft.metadataReferences then
      ready.refuse (.tracked (.metadataReference reference.path))
    else
      ready.submitOrDefer
        (fun changes =>
          { changes with metadataReferences := changes.metadataReferences.add reference })
        (fun snapshot =>
          [.addReference (reconcile ready.draft.id reference ready.host.outputs snapshot)])
        (fun draft =>
          { draft with metadataReferences := draft.metadataReferences.insert reference })

/-- Removes a metadata reference. -/
def removeMetadataReference (session : Session) (reference : MetadataReference) :
    Except Failure Unit × Session :=
  session.withPath reference.path fun checked => checked.update fun ready =>
    if reference ∈ ready.draft.metadataReferences then
      ready.submitOrDefer
        (fun changes =>
          { changes with metadataReferences := changes.metadataReferences.remove reference })
        (fun snapshot =>
          [.removeReference (reconcile ready.draft.id reference ready.host.outputs snapshot)])
        (fun draft =>
          { draft with metadataReferences := draft.metadataReferences.erase reference })
    else ready.refuse (.untracked (.metadataReference reference.path))

/-- Adds a reference to another project. -/
def addProjectReference (session : Session) (reference : ProjectReference) :
    Except Failure Unit × Session :=
  if reference.target = session.draft.id then
    (.error (.selfReference session.draft.id), session)
  else
    session.update fun ready =>
      if (ready.draft.referenceTo? reference.target).isSome then
        ready.refuse (.tracked (.projectReference reference.target))
      else if (DependencyGraph.ofSnapshot ready.host.store.current).wouldCreateCycle
          ready.draft.id reference.target then
        ready.refuse (.impossible (.cycleDetected ready.draft.id reference.target))
      else
        ready.submitOrDefer
          (fun changes =>
            { changes with projectReferences := changes.projectReferences.add reference })
          (fun _ => [.addProjectReference reference])
          (fun draft =>
            { draft with projectReferences := draft.projectReferences.insert reference })

/-- Removes the reference to another project. -/
def removeProjectReference (session : Session) (target : ProjectId) :
    Except Failure Unit × Session :=
  session.update fun ready =>
    match ready.draft.referenceTo? target with
    | none => ready.refuse (.untracked (.projectReference target))
    | some reference =>
      ready.submitOrDefer
        (fun changes =>
          { changes with projectReferences := changes.projectReferences.remove reference })
        (fun _ => [.removeProjectReference reference])
        (fun draft =>
          { draft with projectReferences := draft.projectReferences.erase reference })

/-- Adds an analyzer. -/
def addAnalyzer (session : Session) (path : String) : Except Failure Unit × Session :=
  session.withPath path fun checked => checked.update fun ready =>
    let reference : AnalyzerReference := ⟨path⟩
    if reference ∈ ready.draft.analyzerReferences then
      ready.refuse (.tracked (.analyzer path))
    else
      ready.submitOrDefer
        (fun changes =>
          { changes with analyzerReferences := changes.analyzerReferences.add reference })
        (fun _ => [.addAnalyzerReference reference])
        (fun draft =>
          { draft with analyzerReferences := draft.analyzerReferences.insert reference })

/-- Removes an analyzer. -/
def removeAnalyzer (session : Session) (path : String) : Except Failure Unit × Session :=
  session.withPath path fun checked => checked.update fun ready =>
    let reference : AnalyzerReference := ⟨path⟩
    if reference ∈ ready.draft.analyzerReferences then
      ready.submitOrDefer
        (fun changes =>
          { changes with analyzerReferences := changes.analyzerReferences.remove reference })
        (fun _ => [.removeAnalyzerReference reference])
        (fun draft =>
          { draft with analyzerReferences := draft.analyzerReferences.erase reference })
    else ready.refuse (.untracked (.analyzer path))

end Session

end CodeWorkspace
