import CodeWorkspace.Proofs.Draft.References

/-!
# References of a workspace

Whatever happens to a workspace, and whatever its store refuses, the references to projects and the
analyzers that a live project tracks differ from those of the snapshot by what waits in it and by
nothing else.  That a metadata reference stands behind a reference to a project makes no difference:
only direct holders count.
-/

namespace CodeWorkspace

namespace Draft

variable {comparison : PathComparison} {project : Project} {draft : Draft}

/-- The references that a draft tracks agree with those that its project has. -/
structure ReferencesAgree (project : Project) (draft : Draft) : Prop where
  direct : draft.changes.projectReferences.Bridges
    (fun reference => project.isHeldBy reference .direct = true) draft.projectReferences
  analyzers : draft.changes.analyzerReferences.Bridges
    (fun reference => reference ∈ project.analyzerReferences) draft.analyzerReferences
  analyzers_differ : project.analyzerReferences.Nodup
  targets_differ : TargetsDiffer draft

theorem TracksReferences.agree (references : TracksReferences project draft)
    (analyzers : TracksAnalyzers project draft) (differ : TargetsDiffer draft) :
    ReferencesAgree project draft where
  direct := by
    refine (references.direct.congr fun reference => ?_).bridges
    rw [project.isHeldBy_eq]
    rfl
  analyzers := analyzers.tracks.bridges
  analyzers_differ := analyzers.distinct
  targets_differ := differ

end Draft

namespace Workspace

/-- Every live project agrees with the snapshot in its references. -/
def ReferencesAgree (workspace : Workspace) : Prop :=
  ∀ (place : Nat) draft, workspace.drafts[place]? = some draft → draft.removed = false →
    ∃ project, workspace.snapshot.project? draft.id = some project ∧
      draft.ReferencesAgree project

/-- In every workspace that can be reached, the references of live projects agree with those of
the snapshot. -/
theorem referencesAgree_run (comparison : PathComparison) (watcher : Watcher) (editor : Editor)
    (refusals : Nat → Option String) (commands : List Command) :
    ((starting comparison watcher editor refusals).run commands).ReferencesAgree := by
  have lasting := (Draft.lasting_tracksReferences comparison).and
    ((Draft.lasting_tracksAnalyzers comparison).and (Draft.lasting_targetsDiffer comparison))
  have belongs := belongs_run lasting watcher editor refusals commands
  intro place draft found live
  obtain ⟨project, project_found, references, analyzers, differ⟩ :=
    belongs.related place draft found live
  exact ⟨project, project_found, references.agree analyzers differ⟩

end Workspace

end CodeWorkspace
