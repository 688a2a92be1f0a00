import CodeWorkspace.ChangeSet
import CodeWorkspace.Reconciliation
import CodeWorkspace.Registry

/-!
# Flush plans

When a batch ends, all that waits is submitted at once: documents to be added, documents to be
removed, metadata references, references to projects, analyzers, and properties.  In each group
additions stand before removals, and a group in which nothing waits adds nothing to the plan.
-/

namespace CodeWorkspace

namespace FlushPlan

/-- The transition that adds the waiting documents of a collection. -/
def additions (registry : Registry) : List Transition :=
  match registry.pendingDocuments with
  | [] => []
  | documents => [.addDocuments registry.collection documents]

/-- The transition that removes the waiting documents of a collection. -/
def removals (registry : Registry) : List Transition :=
  match registry.pendingRemoves with
  | [] => []
  | ids => [.removeDocuments registry.collection ids]

/-- The transitions for the references and properties that wait. -/
def changes (represent : MetadataReference → Representation) (changes : ChangeSet) :
    List Transition :=
  changes.metadataReferences.added.elements.map (.addReference ∘ represent) ++
    changes.metadataReferences.removed.elements.map (.removeReference ∘ represent) ++
    changes.projectReferences.added.elements.map .addProjectReference ++
    changes.projectReferences.removed.elements.map .removeProjectReference ++
    changes.analyzerReferences.added.elements.map .addAnalyzerReference ++
    changes.analyzerReferences.removed.elements.map .removeAnalyzerReference ++
    changes.properties.map .setProperty

end FlushPlan

/-- The transitions of a project for all that waits, given the snapshot that they are applied
to. -/
def flushPlan (project : ProjectId) (sources additional : Registry) (changes : ChangeSet)
    (index : OutputIndex) (snapshot : Snapshot) : List Transition :=
  FlushPlan.additions sources ++ FlushPlan.additions additional ++
    FlushPlan.removals sources ++ FlushPlan.removals additional ++
    FlushPlan.changes (fun reference => reconcile project reference index snapshot) changes

end CodeWorkspace
