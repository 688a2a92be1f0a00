import CodeWorkspace.Proofs.FlushPlan.Documents
import CodeWorkspace.Proofs.FlushPlan.References

/-!
# The outcome of a plan

A plan that can be carried out brings every part of a project up to date.  It can be carried out
unless a metadata reference that is to be added is listed already, or a reference to a project that
is to be added closes a cycle.
-/

namespace CodeWorkspace

namespace Transition

variable {closes : ProjectId → Bool} {represent : MetadataReference → Representation}
  {project changed : Project} {metadata : List MetadataReference}
  {table : ProjectReference → Holders} {draft : Draft} {fault : Fault}

/-! ## Analyzers and properties -/

theorem analyzers_addAnalyzers {references : List AnalyzerReference}
    (completed : effects closes project (references.map .addAnalyzerReference) = .ok changed) :
    changed.analyzerReferences = project.analyzerReferences ++ references := by
  induction references generalizing project with
  | nil =>
    cases completed
    rw [List.append_nil]
  | cons reference rest ih =>
    obtain ⟨middle, added, completed⟩ := effects_cons_ok.mp completed
    simp only [effect, Project.addAnalyzerReference] at added
    split at added <;> cases added
    rw [ih completed, List.append_assoc, List.singleton_append]

theorem addAnalyzers_completes {references : List AnalyzerReference} (distinct : references.Nodup)
    (absent : ∀ reference ∈ references, reference ∉ project.analyzerReferences) :
    ∃ changed, effects closes project (references.map .addAnalyzerReference) = .ok changed := by
  induction references generalizing project with
  | nil => exact ⟨project, rfl⟩
  | cons reference rest ih =>
    rw [List.nodup_cons] at distinct
    have added : (addAnalyzerReference reference).effect closes project = .ok { project with
        analyzerReferences := project.analyzerReferences ++ [reference] } := by
      simp only [effect, Project.addAnalyzerReference, if_neg (absent reference List.mem_cons_self)]
    have later : ∀ other ∈ rest, other ∉ project.analyzerReferences ++ [reference] := by
      intro other other_mem
      rw [List.mem_append, List.mem_singleton]
      rintro (old | same)
      · exact absent other (List.mem_cons_of_mem _ other_mem) old
      · exact distinct.1 (same ▸ other_mem)
    obtain ⟨changed, completed⟩ := @ih { project with
      analyzerReferences := project.analyzerReferences ++ [reference] } distinct.2 later
    exact ⟨changed, effects_cons_ok.mpr ⟨_, added, completed⟩⟩

theorem analyzers_removeAnalyzers {references : List AnalyzerReference}
    (completed : effects closes project (references.map .removeAnalyzerReference) = .ok changed) :
    changed.analyzerReferences = project.analyzerReferences.diff references := by
  induction references generalizing project with
  | nil =>
    cases completed
    rw [List.diff_nil]
  | cons reference rest ih =>
    obtain ⟨middle, removed, completed⟩ := effects_cons_ok.mp completed
    simp only [effect, Project.removeAnalyzerReference] at removed
    split at removed <;> cases removed
    rw [ih completed, List.diff_cons]

theorem removeAnalyzers_completes {references : List AnalyzerReference}
    (distinct : references.Nodup)
    (present : ∀ reference ∈ references, reference ∈ project.analyzerReferences) :
    ∃ changed, effects closes project (references.map .removeAnalyzerReference) = .ok changed := by
  induction references generalizing project with
  | nil => exact ⟨project, rfl⟩
  | cons reference rest ih =>
    rw [List.nodup_cons] at distinct
    have removed : (removeAnalyzerReference reference).effect closes project = .ok { project with
        analyzerReferences := project.analyzerReferences.erase reference } := by
      simp only [effect, Project.removeAnalyzerReference,
        if_pos (present reference List.mem_cons_self)]
    have later : ∀ other ∈ rest, other ∈ project.analyzerReferences.erase reference := by
      intro other other_mem
      have differs : other ≠ reference := fun same => distinct.1 (same ▸ other_mem)
      exact (List.mem_erase_of_ne differs).mpr (present other (List.mem_cons_of_mem _ other_mem))
    obtain ⟨changed, completed⟩ := @ih { project with
      analyzerReferences := project.analyzerReferences.erase reference } distinct.2 later
    exact ⟨changed, effects_cons_ok.mpr ⟨_, removed, completed⟩⟩

theorem effects_setProperties (closes : ProjectId → Bool) (project : Project)
    (properties : List Property) :
    effects closes project (properties.map .setProperty) =
      .ok { project with properties := properties.foldl Properties.set project.properties } := by
  induction properties generalizing project with
  | nil => rfl
  | cons property rest ih => exact ih (project.setProperty property)

/-! ## Plans -/

theorem part_of_mem_additions {registry : Registry} {transition : Transition}
    (planned : transition ∈ FlushPlan.additions registry) :
    transition.part = .documents registry.collection := by
  rw [FlushPlan.additions] at planned
  split at planned
  · cases planned
  · rw [List.mem_singleton.mp planned]
    rfl

theorem part_of_mem_removals {registry : Registry} {transition : Transition}
    (planned : transition ∈ FlushPlan.removals registry) :
    transition.part = .documents registry.collection := by
  rw [FlushPlan.removals] at planned
  split at planned
  · cases planned
  · rw [List.mem_singleton.mp planned]
    rfl

/-- The transitions of a plan that are about documents. -/
def documentPlan (draft : Draft) : List Transition :=
  FlushPlan.additions draft.sources ++ FlushPlan.additions draft.additional ++
    FlushPlan.removals draft.sources ++ FlushPlan.removals draft.additional

theorem part_of_mem_documentPlan {transition : Transition}
    (planned : transition ∈ documentPlan draft) :
    ∃ collection, transition.part = .documents collection := by
  simp only [documentPlan, List.mem_append] at planned
  rcases planned with ((planned | planned) | planned) | planned
  · exact ⟨_, part_of_mem_additions planned⟩
  · exact ⟨_, part_of_mem_additions planned⟩
  · exact ⟨_, part_of_mem_removals planned⟩
  · exact ⟨_, part_of_mem_removals planned⟩

theorem part_of_documentPlan_ne {other : Part}
    (differs : ∀ collection, other ≠ .documents collection) :
    ∀ transition ∈ documentPlan draft, transition.part ≠ other := by
  intro transition planned same
  obtain ⟨collection, part_eq⟩ := part_of_mem_documentPlan planned
  exact differs collection (same.symm.trans part_eq)

theorem planBy_eq (draft : Draft) (represent : MetadataReference → Representation) :
    draft.planBy represent = documentPlan draft ++ FlushPlan.changes represent draft.changes := rfl

theorem lists_changes {changes : ChangeSet} (lists : project.Lists metadata table)
    (completed : effects closes project (FlushPlan.changes represent changes) = .ok changed) :
    changed.Lists
      ((metadata ++ changes.metadataReferences.added.elements.filterMap fun reference =>
        (represent reference).content?).diff
          (changes.metadataReferences.removed.elements.filterMap fun reference =>
            (represent reference).content?))
      fun line =>
        { direct := ((table line).direct || line ∈ changes.projectReferences.added.elements) &&
            line ∉ changes.projectReferences.removed.elements
          converted := (table line).converted +
            (changes.metadataReferences.added.elements.countP fun reference =>
              represent reference = .structural line) -
            changes.metadataReferences.removed.elements.countP fun reference =>
              represent reference = .structural line } := by
  simp only [FlushPlan.changes, effects_append_ok] at completed
  obtain ⟨sixth, ⟨fifth, ⟨fourth, ⟨third, ⟨second, ⟨first, added, removed⟩, held⟩, released⟩,
    analyzers_added⟩, analyzers_removed⟩, properties_set⟩ := completed
  have listed := lists_removeProjectReferences (lists_addProjectReferences
    (lists_removeReferences (lists_addReferences lists added) removed) held) released
  have rest := ((listed.of_same (references_effects (by simp [part]) analyzers_added)).of_same
    (references_effects (by simp [part]) analyzers_removed)).of_same
      (references_effects (by simp [part]) properties_set)
  exact rest

theorem analyzers_changes {changes : ChangeSet}
    (completed : effects closes project (FlushPlan.changes represent changes) = .ok changed) :
    changed.analyzerReferences =
      (project.analyzerReferences ++ changes.analyzerReferences.added.elements).diff
        changes.analyzerReferences.removed.elements := by
  simp only [FlushPlan.changes, effects_append_ok] at completed
  obtain ⟨sixth, ⟨fifth, ⟨fourth, ⟨third, ⟨second, ⟨first, added, removed⟩, held⟩, released⟩,
    analyzers_added⟩, analyzers_removed⟩, properties_set⟩ := completed
  rw [analyzers_effects (by simp [part]) properties_set,
    analyzers_removeAnalyzers analyzers_removed, analyzers_addAnalyzers analyzers_added,
    analyzers_effects (by simp [part]) released, analyzers_effects (by simp [part]) held,
    analyzers_effects (by simp [part]) removed, analyzers_effects (by simp [part]) added]

theorem properties_changes {changes : ChangeSet}
    (completed : effects closes project (FlushPlan.changes represent changes) = .ok changed) :
    changed.properties = changes.properties.foldl Properties.set project.properties := by
  simp only [FlushPlan.changes, effects_append_ok] at completed
  obtain ⟨sixth, ⟨fifth, ⟨fourth, ⟨third, ⟨second, ⟨first, added, removed⟩, held⟩, released⟩,
    analyzers_added⟩, analyzers_removed⟩, properties_set⟩ := completed
  rw [effects_setProperties] at properties_set
  cases properties_set
  show List.foldl Properties.set sixth.properties changes.properties = _
  rw [properties_effects (by simp [part]) analyzers_removed,
    properties_effects (by simp [part]) analyzers_added,
    properties_effects (by simp [part]) released, properties_effects (by simp [part]) held,
    properties_effects (by simp [part]) removed, properties_effects (by simp [part]) added]

/-- What waits besides documents, against the project that it is to be committed to. -/
structure Committable (closes : ProjectId → Bool)
    (represent : MetadataReference → Representation) (project : Project) (changes : ChangeSet) :
    Prop where
  booked : project.Booked
  contents_distinct : (changes.metadataReferences.added.elements.filterMap fun reference =>
    (represent reference).content?).Nodup
  unclosed : ∀ reference target, represent reference = .structural target →
    closes target.target = false
  added_fresh : ∀ reference ∈ changes.projectReferences.added.elements,
    (project.holding reference).direct = false
  removed_held : ∀ reference ∈ changes.projectReferences.removed.elements,
    (project.holding reference).direct = true
  analyzers_absent : ∀ reference ∈ changes.analyzerReferences.added.elements,
    reference ∉ project.analyzerReferences
  analyzers_present : ∀ reference ∈ changes.analyzerReferences.removed.elements,
    reference ∈ project.analyzerReferences

/-- Why a change that waits cannot be committed. -/
inductive Stale (closes : ProjectId → Bool) (represent : MetadataReference → Representation)
    (project : Project) (changes : ChangeSet) : Fault → Prop where
  /-- A metadata reference is to be added that the project lists already. -/
  | listed {reference kept : MetadataReference}
      (waits : reference ∈ changes.metadataReferences.added)
      (represented : represent reference = .content kept)
      (present : kept ∈ project.metadataReferences) :
      Stale closes represent project changes (.duplicateReference project.id kept.path)
  /-- A reference to a project is to be added that closes a cycle. -/
  | closing {reference : ProjectReference} (waits : reference ∈ changes.projectReferences.added)
      (closed : closes reference.target = true) :
      Stale closes represent project changes (.cycleDetected project.id reference.target)

/-- What is committable can be committed unless it is stale. -/
theorem stale_of_changes_error {changes : ChangeSet}
    (committable : Committable closes represent project changes)
    (failed : effects closes project (FlushPlan.changes represent changes) = .error fault) :
    Stale closes represent project changes fault := by
  have impossible {start : Project} {transitions : List Transition}
      (completes : ∃ reached, effects closes start transitions = .ok reached)
      (failed : effects closes start transitions = .error fault) :
      Stale closes represent project changes fault := by
    obtain ⟨reached, completed⟩ := completes
    rw [completed] at failed
    cases failed
  simp only [FlushPlan.changes, List.append_assoc] at failed
  rcases effects_append_error failed with here | ⟨first, added, failed⟩
  · obtain ⟨reference, waits, kept, represented, present, rfl⟩ :=
      addReferences_error committable.booked committable.contents_distinct
        (fun reference _ => committable.unclosed reference) here
    exact .listed waits represented present
  have first_lists := lists_addReferences committable.booked.lists added
  rcases effects_append_error failed with here | ⟨second, removed, failed⟩
  · exact impossible (removeReferences_completes first_lists.booked) here
  have second_lists := lists_removeReferences first_lists removed
  have id_eq : second.id = project.id := (id_eq_of_effects removed).trans (id_eq_of_effects added)
  -- adding and removing metadata references changes no direct holder
  have direct_eq (reference : ProjectReference) :
      (second.holding reference).direct = (project.holding reference).direct := by
    rw [second_lists.holding_eq]
    rfl
  rcases effects_append_error failed with here | ⟨third, held, failed⟩
  · obtain ⟨reference, waits, closed, rfl⟩ := addProjectReferences_error second_lists.booked
      changes.projectReferences.added.nodup
      (fun reference waits => (direct_eq reference).trans (committable.added_fresh reference waits))
      here
    rw [id_eq]
    exact .closing waits closed
  have third_lists := lists_addProjectReferences second_lists held
  rcases effects_append_error failed with here | ⟨fourth, released, failed⟩
  · refine impossible (removeProjectReferences_completes third_lists.booked
      changes.projectReferences.removed.nodup fun reference waits => ?_) here
    have before := (direct_eq reference).trans (committable.removed_held reference waits)
    rw [second_lists.holding_eq] at before
    rw [third_lists.holding_eq]
    simp [before]
  have analyzers_eq : fourth.analyzerReferences = project.analyzerReferences := by
    rw [analyzers_effects (by simp [part]) released, analyzers_effects (by simp [part]) held,
      analyzers_effects (by simp [part]) removed, analyzers_effects (by simp [part]) added]
  rcases effects_append_error failed with here | ⟨fifth, analyzers_added, failed⟩
  · refine impossible (addAnalyzers_completes changes.analyzerReferences.added.nodup ?_) here
    rw [analyzers_eq]
    exact committable.analyzers_absent
  rcases effects_append_error failed with here | ⟨sixth, _, failed⟩
  · refine impossible (removeAnalyzers_completes changes.analyzerReferences.removed.nodup
      fun reference waits => ?_) here
    rw [analyzers_addAnalyzers analyzers_added, analyzers_eq]
    exact List.mem_append_left _ (committable.analyzers_present reference waits)
  · exact impossible ⟨_, effects_setProperties closes sixth changes.properties⟩ failed

end Transition

end CodeWorkspace
