import CodeWorkspace.BatchCounter
import CodeWorkspace.ChangeSet
import CodeWorkspace.Editor
import CodeWorkspace.FlushPlan
import CodeWorkspace.Registry

/-!
# Drafts

A draft is a project that is being worked on: what it is to contain, and which part of that is not
yet in the snapshot.  Inside of a batch changes wait; outside of one nothing does, unless an
earlier attempt to commit what waited has failed.
-/

namespace CodeWorkspace

/-- A project that is being worked on. -/
structure Draft where
  id : ProjectId
  language : String
  /-- The batches that are open. -/
  batches : BatchCounter := {}
  sources : Registry
  additional : Registry
  /-- The references and properties that wait. -/
  changes : ChangeSet := {}
  metadataReferences : OrderedSet MetadataReference := .empty
  projectReferences : OrderedSet ProjectReference := .empty
  analyzerReferences : OrderedSet AnalyzerReference := .empty
  properties : Properties
  /-- Whether the project has been removed from the workspace. -/
  removed : Bool := false

namespace Draft

/-- The draft of a new project. -/
def ofInfo (comparison : PathComparison) (info : ProjectInfo) : Draft :=
  { id := info.id
    language := info.language
    sources := { collection := .source, comparison }
    additional := { collection := .additional, comparison }
    properties := info.properties }

/-- The documents of a collection. -/
def registry (draft : Draft) : DocumentCollection → Registry
  | .source => draft.sources
  | .additional => draft.additional

/-- The draft with other documents in a collection. -/
def withRegistry (draft : Draft) (registry : Registry) : DocumentCollection → Draft
  | .source => { draft with sources := registry }
  | .additional => { draft with additional := registry }

/-- Whether a batch is open. -/
def isBatching (draft : Draft) : Bool := draft.batches.isOpen

/-- Whether anything waits. -/
def hasPending (draft : Draft) : Bool :=
  draft.sources.hasPending || draft.additional.hasPending || !draft.changes.isEmpty

/-- How much of each kind waits. -/
def pendingCounts (draft : Draft) : PendingCounts :=
  .ofChanges draft.changes
    (draft.sources.pendingAdds.length + draft.additional.pendingAdds.length)
    (draft.sources.pendingRemoves.length + draft.additional.pendingRemoves.length)

/-- The tracked reference to a project. -/
def referenceTo? (draft : Draft) (target : ProjectId) : Option ProjectReference :=
  draft.projectReferences.elements.find? fun reference => reference.target = target

/-- The transitions for all that waits. -/
def plan (draft : Draft) (index : OutputIndex) (snapshot : Snapshot) : List Transition :=
  flushPlan draft.id draft.sources draft.additional draft.changes index snapshot

/-- The news that a document is in the snapshot. -/
def arrival (document : Document) : Notice :=
  match document.path?, document.isBuffered with
  | some path, false => .checkOpen document.id path
  | _, _ => .opened document.id

/-- The news that documents are gone from the snapshot, as far as the editor has to know. -/
def departures (forgotten : List Forgotten) : List Notice :=
  (forgotten.filter Forgotten.closed).map fun gone => .closed gone.id

/-- Settles a collection after what waited has been committed. -/
def settleCollection (draft : Draft) (collection : DocumentCollection) : List Notice × Draft :=
  let registry := draft.registry collection
  let (forgotten, settled) := registry.completeFlush
  (registry.pendingDocuments.map arrival ++ departures forgotten,
    draft.withRegistry settled collection)

/-- Settles everything after what waited has been committed. -/
def settle (draft : Draft) : List Notice × Draft :=
  let (sourceNotices, first) := draft.settleCollection .source
  let (additionalNotices, second) := first.settleCollection .additional
  (sourceNotices ++ additionalNotices, { second with changes := .empty })

/-- Forgets all references to a project, tracked and waiting. -/
def forgetReferencesTo (draft : Draft) (target : ProjectId) : Draft :=
  { draft with
    projectReferences := draft.projectReferences.filter fun reference =>
      reference.target ≠ target
    changes := draft.changes.withoutTarget target }

/-- Forgets all documents and all that waits, and marks the project as removed. -/
def discard (draft : Draft) : List Forgotten × Draft :=
  let (sources, noSources) := draft.sources.drainAll
  let (additional, noAdditional) := draft.additional.drainAll
  (sources ++ additional,
    { draft with
      sources := noSources
      additional := noAdditional
      changes := .empty
      removed := true })

end Draft

end CodeWorkspace
