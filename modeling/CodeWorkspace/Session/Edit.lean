import CodeWorkspace.Session.Batch
import CodeWorkspace.Session.Documents
import CodeWorkspace.Session.Properties
import CodeWorkspace.Session.References

/-!
# Edits

Everything that can be done to a project that is worked on, apart from opening and closing
batches.  The identity of a new document is drawn beforehand.
-/

namespace CodeWorkspace

/-- A change to a project. -/
inductive Edit where
  | addFile (collection : DocumentCollection) (path : String) (kind : SourceKind)
      (folders : List String) (id : DocumentId)
  | removeFile (collection : DocumentCollection) (path : String)
  | addBuffer (collection : DocumentCollection) (held : BufferId) (path? : Option String)
      (kind : SourceKind) (folders : List String) (id : DocumentId)
  | removeBuffer (collection : DocumentCollection) (held : BufferId)
  | addMetadataReference (reference : MetadataReference)
  | removeMetadataReference (reference : MetadataReference)
  | addProjectReference (reference : ProjectReference)
  | removeProjectReference (target : ProjectId)
  | addAnalyzer (path : String)
  | removeAnalyzer (path : String)
  | setProperty (property : Property)
  | commitPending
  | fileChanged (path : String)

/-- What is answered when something succeeds. -/
inductive Answer where
  | done
  /-- The document that was added. -/
  | document (id : DocumentId)
  /-- Whether anything changed. -/
  | changed (happened : Bool)
  /-- How many batches are open. -/
  | depth (number : Nat)
  /-- How many projects loaded a document anew. -/
  | count (number : Nat)
  /-- The place of a new draft among all drafts. -/
  | draft (place : Nat)
  deriving DecidableEq

namespace Session

/-- Puts the result of an operation into the form of an answer. -/
def answering {α : Type} (form : α → Answer) (outcome : Except Failure α × Session) :
    Except Failure Answer × Session :=
  (outcome.1.map form, outcome.2)

/-- The answer of an operation that has no result. -/
def finishing (outcome : Except Failure Unit × Session) : Except Failure Answer × Session :=
  answering (fun _ => .done) outcome

/-- Carries out a change. -/
def perform (session : Session) : Edit → Except Failure Answer × Session
  | .addFile collection path kind folders id =>
    answering .document (session.addFile collection path kind folders id)
  | .removeFile collection path => finishing (session.removeFile collection path)
  | .addBuffer collection held path? kind folders id =>
    answering .document (session.addBuffer collection held path? kind folders id)
  | .removeBuffer collection held => finishing (session.removeBuffer collection held)
  | .addMetadataReference reference => finishing (session.addMetadataReference reference)
  | .removeMetadataReference reference => finishing (session.removeMetadataReference reference)
  | .addProjectReference reference => finishing (session.addProjectReference reference)
  | .removeProjectReference target => finishing (session.removeProjectReference target)
  | .addAnalyzer path => finishing (session.addAnalyzer path)
  | .removeAnalyzer path => finishing (session.removeAnalyzer path)
  | .setProperty property => answering .changed (session.setProperty property)
  | .commitPending => finishing session.commitPending
  | .fileChanged path => answering .changed (session.fileChanged path)

end Session

end CodeWorkspace
