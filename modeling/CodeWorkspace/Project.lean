import CodeWorkspace.Attempt
import CodeWorkspace.Container.OrderedMap
import CodeWorkspace.Document
import CodeWorkspace.Property
import CodeWorkspace.Reference

/-!
# Projects

A project as a snapshot records it: its properties, its two collections of documents, its
references, and who holds each reference to another project.  A reference that is held directly
and by no metadata reference needs no entry among the holders.
-/

namespace CodeWorkspace

/-- Who holds a reference to a project. -/
structure Holders where
  /-- Whether it was added as such. -/
  direct : Bool := true
  /-- How many metadata references it stands for. -/
  converted : Nat := 0
  deriving DecidableEq

namespace Holders

/-- Whether a holder is among the holders. -/
def includes (holders : Holders) : ReferenceHolder → Bool
  | .direct => holders.direct
  | .converted => 0 < holders.converted

/-- Whether nothing holds the reference. -/
def isEmpty (holders : Holders) : Bool := !holders.direct && holders.converted == 0

/-- The holders with one more. -/
def add (holders : Holders) : ReferenceHolder → Holders
  | .direct => { holders with direct := true }
  | .converted => { holders with converted := holders.converted + 1 }

/-- The holders with one less. -/
def remove (holders : Holders) : ReferenceHolder → Holders
  | .direct => { holders with direct := false }
  | .converted => { holders with converted := holders.converted - 1 }

/-- The holders of a reference that stands for one metadata reference and nothing else. -/
def convertedOnce : Holders := { direct := false, converted := 1 }

end Holders

/-- Documents by their identity. -/
abbrev Documents := OrderedMap DocumentId Document

/-- A project of a snapshot. -/
structure Project where
  id : ProjectId
  language : String
  properties : Properties
  sources : Documents := .empty
  additional : Documents := .empty
  metadataReferences : List MetadataReference := []
  projectReferences : List ProjectReference := []
  analyzerReferences : List AnalyzerReference := []
  /-- The holders of the references to projects that do not have just the direct one. -/
  holders : OrderedMap ProjectReference Holders := .empty

namespace Project

/-- The project without documents and references that some information describes. -/
def ofInfo (info : ProjectInfo) : Project :=
  { id := info.id, language := info.language, properties := info.properties }

instance : Inhabited Project := ⟨ofInfo default⟩

/-! ## Documents -/

/-- The documents of a collection. -/
def documents (project : Project) : DocumentCollection → Documents
  | .source => project.sources
  | .additional => project.additional

/-- The project with other documents in a collection. -/
def withDocuments (project : Project) (documents : Documents) : DocumentCollection → Project
  | .source => { project with sources := documents }
  | .additional => { project with additional := documents }

/-- The document with an identity. -/
def document? (project : Project) (collection : DocumentCollection) (id : DocumentId) :
    Option Document :=
  (project.documents collection).get? id

/-- The first document at a path. -/
def documentAt? (project : Project) (collection : DocumentCollection) (path : String) :
    Option Document :=
  (project.documents collection).values.find? fun document => document.path? = some path

/-- Adds documents until one has an identity that is taken. -/
def addEach (project : ProjectId) : Documents → List Document → Attempt Documents
  | documents, [] => .done documents
  | documents, document :: rest =>
    if documents.contains document.id then
      .stopped documents (.duplicateDocument project document.id)
    else addEach project (documents.insert document.id document) rest

/-- Removes documents until one is missing. -/
def removeEach (project : ProjectId) : Documents → List DocumentId → Attempt Documents
  | documents, [] => .done documents
  | documents, id :: rest =>
    if documents.contains id then removeEach project (documents.erase id) rest
    else .stopped documents (.documentNotFound project id)

/-- Adds documents to a collection until one has an identity that is taken. -/
def addDocuments (project : Project) (collection : DocumentCollection)
    (documents : List Document) : Attempt Project :=
  (addEach project.id (project.documents collection) documents).map fun reached =>
    project.withDocuments reached collection

/-- Removes documents from a collection until one is missing. -/
def removeDocuments (project : Project) (collection : DocumentCollection)
    (ids : List DocumentId) : Attempt Project :=
  (removeEach project.id (project.documents collection) ids).map fun reached =>
    project.withDocuments reached collection

/-- Gives a document another loader. -/
def replaceLoader (project : Project) (collection : DocumentCollection) (id : DocumentId)
    (loader : Loader) : Except Fault Project :=
  let documents := project.documents collection
  if documents.contains id then
    .ok (project.withDocuments
      (documents.adjust id fun document => { document with loader := loader }) collection)
  else .error (.documentNotFound project.id id)

/-! ## References to files and analyzers -/

/-- Adds a metadata reference. -/
def addMetadataReference (project : Project) (reference : MetadataReference) :
    Except Fault Project :=
  if reference ∈ project.metadataReferences then
    .error (.duplicateReference project.id reference.path)
  else
    .ok { project with metadataReferences := project.metadataReferences ++ [reference] }

/-- Removes a metadata reference. -/
def removeMetadataReference (project : Project) (reference : MetadataReference) :
    Except Fault Project :=
  if reference ∈ project.metadataReferences then
    .ok { project with metadataReferences := project.metadataReferences.erase reference }
  else .error (.referenceNotFound project.id reference.path)

/-- Adds an analyzer. -/
def addAnalyzerReference (project : Project) (reference : AnalyzerReference) :
    Except Fault Project :=
  if reference ∈ project.analyzerReferences then
    .error (.duplicateReference project.id reference.path)
  else
    .ok { project with analyzerReferences := project.analyzerReferences ++ [reference] }

/-- Removes an analyzer. -/
def removeAnalyzerReference (project : Project) (reference : AnalyzerReference) :
    Except Fault Project :=
  if reference ∈ project.analyzerReferences then
    .ok { project with analyzerReferences := project.analyzerReferences.erase reference }
  else .error (.referenceNotFound project.id reference.path)

/-! ## References to projects -/

/-- Whether any reference leads to a project. -/
def refersTo (project : Project) (target : ProjectId) : Bool :=
  project.projectReferences.any fun reference => reference.target = target

/-- Who holds a reference, provided that it is there. -/
def holdersOf (project : Project) (reference : ProjectReference) : Holders :=
  (project.holders.get? reference).getD {}

/-- Records who holds a reference. -/
def setHolders (project : Project) (reference : ProjectReference) (holders : Holders) : Project :=
  if holders = {} then { project with holders := project.holders.erase reference }
  else { project with holders := project.holders.insert reference holders }

/-- Whether a reference is there and held by a holder. -/
def isHeldBy (project : Project) (reference : ProjectReference) (holder : ReferenceHolder) :
    Bool :=
  reference ∈ project.projectReferences && (project.holdersOf reference).includes holder

/-- Adds a reference to a project, held directly. -/
def addProjectReference (project : Project) (reference : ProjectReference) :
    Except Fault Project :=
  if reference ∈ project.projectReferences then
    .error (.duplicateReference project.id reference.target.text)
  else
    .ok { project with projectReferences := project.projectReferences ++ [reference] }

/-- Removes a reference to a project, whoever holds it. -/
def removeProjectReference (project : Project) (reference : ProjectReference) :
    Except Fault Project :=
  if reference ∈ project.projectReferences then
    .ok { project with
      projectReferences := project.projectReferences.erase reference
      holders := project.holders.erase reference }
  else .error (.referenceNotFound project.id reference.target.text)

/-- Takes one holder from a reference and removes the reference when it was the last. -/
def releaseProjectReference (project : Project) (reference : ProjectReference)
    (holder : ReferenceHolder) : Except Fault Project :=
  if project.isHeldBy reference holder then
    let left := (project.holdersOf reference).remove holder
    if left.isEmpty then project.removeProjectReference reference
    else .ok (project.setHolders reference left)
  else .error (.referenceNotFound project.id reference.target.text)

/-- The project without any reference to a project that is gone. -/
def withoutReferencesTo (project : Project) (target : ProjectId) : Project :=
  { project with
    projectReferences := project.projectReferences.filter fun reference =>
      reference.target ≠ target
    holders := project.holders.filter fun reference _ => reference.target ≠ target }

/-! ## Properties -/

/-- Gives a property its value. -/
def setProperty (project : Project) (property : Property) : Project :=
  { project with properties := project.properties.set property }

end Project

end CodeWorkspace
