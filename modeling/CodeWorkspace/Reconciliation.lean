import CodeWorkspace.OutputIndex
import CodeWorkspace.Transition

/-!
# Reconciling references

A metadata reference whose path is the output of another project is represented by a reference to
that project.  Which representation a reference gets depends on the index of outputs and on the
snapshot, and is found out anew whenever it is needed.
-/

namespace CodeWorkspace

/-- The project that a metadata reference of an owner is to be converted to: the only one that
publishes at the path of an assembly, if it is another project of the snapshot and the reference
closes no cycle. -/
def conversionTarget? (owner : ProjectId) (reference : MetadataReference) (index : OutputIndex)
    (snapshot : Snapshot) : Option ProjectId :=
  if reference.properties.kind = .assembly then
    (index.owner? reference.path).filter fun target =>
      target ≠ owner && snapshot.contains target &&
        !(DependencyGraph.ofSnapshot snapshot).wouldCreateCycle owner target
  else none

/-- How a metadata reference of an owner is represented. -/
def reconcile (owner : ProjectId) (reference : MetadataReference) (index : OutputIndex)
    (snapshot : Snapshot) : Representation :=
  match conversionTarget? owner reference index snapshot with
  | some target => .structural (.converted target reference.properties)
  | none => .content reference

end CodeWorkspace
