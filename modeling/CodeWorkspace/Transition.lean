import CodeWorkspace.Snapshot.Change

/-!
# Transitions

What a project submits to the store is a list of transitions, carried out one after another on a
snapshot.  If one of them fails there is no result.
-/

namespace CodeWorkspace

/-- How a metadata reference is represented in a snapshot. -/
inductive Representation where
  /-- As a reference to the project whose output it names. -/
  | structural (reference : ProjectReference)
  /-- As itself. -/
  | content (reference : MetadataReference)
  deriving DecidableEq, Inhabited

/-- Whether a metadata reference has become a reference to a project. -/
def Representation.isStructural : Representation → Bool
  | .structural _ => true
  | .content _ => false

/-- One change to a project. -/
inductive Transition where
  | addDocuments (collection : DocumentCollection) (documents : List Document)
  | removeDocuments (collection : DocumentCollection) (ids : List DocumentId)
  | reloadDocument (collection : DocumentCollection) (id : DocumentId) (loader : Loader)
  | addReference (representation : Representation)
  /-- Does nothing if the reference is not there in this representation. -/
  | removeReference (representation : Representation)
  | addProjectReference (reference : ProjectReference)
  | removeProjectReference (reference : ProjectReference)
  | addAnalyzerReference (reference : AnalyzerReference)
  | removeAnalyzerReference (reference : AnalyzerReference)
  | setProperty (property : Property)
  deriving Inhabited

namespace Transition

/-- The name of the kind of transition. -/
def kind : Transition → String
  | .addDocuments _ _ => "add_documents"
  | .removeDocuments _ _ => "remove_documents"
  | .reloadDocument _ _ _ => "reload_document"
  | .addReference _ => "add_reference"
  | .removeReference _ => "remove_reference"
  | .addProjectReference _ => "add_project_reference"
  | .removeProjectReference _ => "remove_project_reference"
  | .addAnalyzerReference _ => "add_analyzer_reference"
  | .removeAnalyzerReference _ => "remove_analyzer_reference"
  | .setProperty _ => "set_property"

/-- Whether a project has a reference in some representation. -/
def isPresent (project : Project) : Representation → Bool
  | .structural reference => project.isHeldBy reference .converted
  | .content reference => reference ∈ project.metadataReferences

/-- Carries out a transition of a project. -/
def apply (project : ProjectId) (snapshot : Snapshot) : Transition → Except Fault Snapshot
  | .addDocuments collection documents =>
    (snapshot.modify project fun opened => opened.addDocuments collection documents).toExcept
  | .removeDocuments collection ids =>
    (snapshot.modify project fun opened => opened.removeDocuments collection ids).toExcept
  | .reloadDocument collection id loader =>
    (snapshot.modifyWhole project fun opened =>
      opened.replaceLoader collection id loader).toExcept
  | .addReference (.content reference) =>
    (snapshot.modifyWhole project fun opened => opened.addMetadataReference reference).toExcept
  | .addReference (.structural reference) =>
    (snapshot.holdProjectReference project reference .converted).toExcept
  | .removeReference representation => do
    let opened ← snapshot.require project
    if isPresent opened representation then
      match representation with
      | .content reference =>
        (snapshot.modifyWhole project fun opened =>
          opened.removeMetadataReference reference).toExcept
      | .structural reference =>
        (snapshot.releaseProjectReference project reference .converted).toExcept
    else return snapshot
  | .addProjectReference reference =>
    (snapshot.holdProjectReference project reference .direct).toExcept
  | .removeProjectReference reference =>
    (snapshot.releaseProjectReference project reference .direct).toExcept
  | .addAnalyzerReference reference =>
    (snapshot.modifyWhole project fun opened => opened.addAnalyzerReference reference).toExcept
  | .removeAnalyzerReference reference =>
    (snapshot.modifyWhole project fun opened =>
      opened.removeAnalyzerReference reference).toExcept
  | .setProperty property =>
    (snapshot.modify project fun opened => .done (opened.setProperty property)).toExcept

/-- Carries out transitions of a project one after another. -/
def applyAll (project : ProjectId) : Snapshot → List Transition → Except Fault Snapshot
  | snapshot, [] => .ok snapshot
  | snapshot, transition :: rest =>
    match transition.apply project snapshot with
    | .error fault => .error fault
    | .ok reached => applyAll project reached rest

end Transition

end CodeWorkspace
