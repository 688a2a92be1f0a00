import CodeWorkspace.Transition

/-!
# Operations on snapshots

Everything that can be done to a snapshot, as a type.  An operation on several documents that
fails leaves done what was done before; a list of transitions that fails leaves nothing.
-/

namespace CodeWorkspace

namespace Snapshot

/-- An operation on a snapshot. -/
inductive Operation where
  | addProject (info : ProjectInfo)
  | removeProject (id : ProjectId)
  | addProjectReference (source : ProjectId) (reference : ProjectReference)
  | holdProjectReference (source : ProjectId) (reference : ProjectReference)
      (holder : ReferenceHolder)
  | releaseProjectReference (source : ProjectId) (reference : ProjectReference)
      (holder : ReferenceHolder)
  | removeProjectReference (source : ProjectId) (reference : ProjectReference)
  | addDocuments (project : ProjectId) (collection : DocumentCollection)
      (documents : List Document)
  | removeDocuments (project : ProjectId) (collection : DocumentCollection)
      (ids : List DocumentId)
  | replaceLoader (project : ProjectId) (collection : DocumentCollection) (id : DocumentId)
      (loader : Loader)
  | addMetadataReference (project : ProjectId) (reference : MetadataReference)
  | removeMetadataReference (project : ProjectId) (reference : MetadataReference)
  | addAnalyzerReference (project : ProjectId) (reference : AnalyzerReference)
  | removeAnalyzerReference (project : ProjectId) (reference : AnalyzerReference)
  | setProperty (project : ProjectId) (property : Property)
  | setVersion (version : UInt64)
  | applyAll (project : ProjectId) (transitions : List Transition)

/-- Carries out an operation. -/
def perform (snapshot : Snapshot) : Operation → Attempt Snapshot
  | .addProject info => .ofExcept snapshot (snapshot.addProject info)
  | .removeProject id => .ofExcept snapshot (snapshot.removeProject id)
  | .addProjectReference source reference => snapshot.addProjectReference source reference
  | .holdProjectReference source reference holder =>
    snapshot.holdProjectReference source reference holder
  | .releaseProjectReference source reference holder =>
    snapshot.releaseProjectReference source reference holder
  | .removeProjectReference source reference =>
    snapshot.modifyWhole source fun project => project.removeProjectReference reference
  | .addDocuments id collection documents =>
    snapshot.modify id fun project => project.addDocuments collection documents
  | .removeDocuments id collection ids =>
    snapshot.modify id fun project => project.removeDocuments collection ids
  | .replaceLoader id collection document loader =>
    snapshot.modifyWhole id fun project => project.replaceLoader collection document loader
  | .addMetadataReference id reference =>
    snapshot.modifyWhole id fun project => project.addMetadataReference reference
  | .removeMetadataReference id reference =>
    snapshot.modifyWhole id fun project => project.removeMetadataReference reference
  | .addAnalyzerReference id reference =>
    snapshot.modifyWhole id fun project => project.addAnalyzerReference reference
  | .removeAnalyzerReference id reference =>
    snapshot.modifyWhole id fun project => project.removeAnalyzerReference reference
  | .setProperty id property =>
    snapshot.modify id fun project => .done (project.setProperty property)
  | .setVersion version => .done (snapshot.withVersion version)
  | .applyAll id transitions =>
    .ofExcept snapshot (Transition.applyAll id snapshot transitions)

/-- Carries out operations one after another, whether they succeed or not. -/
def performAll (snapshot : Snapshot) (operations : List Operation) : Snapshot :=
  operations.foldl (fun reached operation => (reached.perform operation).reached) snapshot

end Snapshot

end CodeWorkspace
