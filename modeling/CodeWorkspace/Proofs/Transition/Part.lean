import CodeWorkspace.Proofs.Transition.Effect

/-!
# The part of a project that a transition is about

A project falls into its collections of documents, its references to files and projects, its
analyzers and its properties.  A transition changes one of these parts and leaves the others as
they are.
-/

namespace CodeWorkspace

/-- A part of a project. -/
inductive Part where
  | documents (collection : DocumentCollection)
  | references
  | analyzers
  | properties
  deriving DecidableEq

namespace Project

variable {project middle changed : Project}

/-- Two projects that differ in one part at most. -/
def SameBut (project changed : Project) : Part → Prop
  | .documents collection => ∃ documents, changed = project.withDocuments documents collection
  | .references => ∃ metadataReferences projectReferences holders,
      changed = { project with metadataReferences, projectReferences, holders }
  | .analyzers => ∃ analyzerReferences, changed = { project with analyzerReferences }
  | .properties => ∃ properties, changed = { project with properties }

theorem SameBut.refl (project : Project) (part : Part) : SameBut project project part := by
  cases part with
  | documents collection =>
    refine ⟨project.documents collection, ?_⟩
    cases collection <;> rfl
  | references => exact ⟨_, _, _, rfl⟩
  | analyzers => exact ⟨_, rfl⟩
  | properties => exact ⟨_, rfl⟩

theorem sameBut_setHolders (project : Project) (reference : ProjectReference) (holders : Holders) :
    SameBut project (project.setHolders reference holders) .references := by
  rw [setHolders]
  split <;> exact ⟨_, _, _, rfl⟩

theorem sameBut_removeProjectReference {reference : ProjectReference}
    (completed : project.removeProjectReference reference = .ok changed) :
    SameBut project changed .references := by
  rw [removeProjectReference] at completed
  split at completed <;> cases completed
  exact ⟨_, _, _, rfl⟩

theorem sameBut_releaseProjectReference {reference : ProjectReference} {holder : ReferenceHolder}
    (completed : project.releaseProjectReference reference holder = .ok changed) :
    SameBut project changed .references := by
  simp only [releaseProjectReference] at completed
  split at completed
  · split at completed
    · exact sameBut_removeProjectReference completed
    · cases completed
      exact sameBut_setHolders project reference _
  · cases completed

theorem sameBut_hold {closes : ProjectId → Bool} {reference : ProjectReference}
    {holder : ReferenceHolder} (completed : project.hold closes reference holder = .ok changed) :
    SameBut project changed .references := by
  simp only [hold] at completed
  split at completed
  · split at completed <;> cases completed
    exact sameBut_setHolders project reference _
  · split at completed
    · cases completed
    · cases holder <;> cases completed
      · exact ⟨_, _, _, rfl⟩
      · obtain ⟨_, _, _, recorded⟩ := sameBut_setHolders { project with
          projectReferences := project.projectReferences ++ [reference] } reference .convertedOnce
        exact ⟨_, _, _, recorded⟩

theorem documents_of_sameBut {part : Part} (same : SameBut project changed part)
    {collection : DocumentCollection} (other : part ≠ .documents collection) :
    changed.documents collection = project.documents collection := by
  cases part with
  | documents there =>
    obtain ⟨documents, rfl⟩ := same
    cases there <;> cases collection <;> first | rfl | exact absurd rfl other
  | references =>
    obtain ⟨_, _, _, rfl⟩ := same
    cases collection <;> rfl
  | analyzers =>
    obtain ⟨_, rfl⟩ := same
    cases collection <;> rfl
  | properties =>
    obtain ⟨_, rfl⟩ := same
    cases collection <;> rfl

theorem language_of_sameBut {part : Part} (same : SameBut project changed part) :
    changed.language = project.language := by
  cases part with
  | documents there =>
    obtain ⟨documents, rfl⟩ := same
    cases there <;> rfl
  | references =>
    obtain ⟨_, _, _, rfl⟩ := same
    rfl
  | analyzers =>
    obtain ⟨_, rfl⟩ := same
    rfl
  | properties =>
    obtain ⟨_, rfl⟩ := same
    rfl

/-- The references of two projects to files and projects, with all that is recorded of them, are
the same. -/
def SameReferences (project changed : Project) : Prop :=
  changed.metadataReferences = project.metadataReferences ∧
    changed.projectReferences = project.projectReferences ∧ changed.holders = project.holders

theorem references_of_sameBut {part : Part} (same : SameBut project changed part)
    (other : part ≠ .references) : SameReferences project changed := by
  cases part with
  | documents there =>
    obtain ⟨documents, rfl⟩ := same
    cases there <;> exact ⟨rfl, rfl, rfl⟩
  | references => exact absurd rfl other
  | analyzers =>
    obtain ⟨_, rfl⟩ := same
    exact ⟨rfl, rfl, rfl⟩
  | properties =>
    obtain ⟨_, rfl⟩ := same
    exact ⟨rfl, rfl, rfl⟩

theorem analyzers_of_sameBut {part : Part} (same : SameBut project changed part)
    (other : part ≠ .analyzers) : changed.analyzerReferences = project.analyzerReferences := by
  cases part with
  | documents there =>
    obtain ⟨documents, rfl⟩ := same
    cases there <;> rfl
  | references =>
    obtain ⟨_, _, _, rfl⟩ := same
    rfl
  | analyzers => exact absurd rfl other
  | properties =>
    obtain ⟨_, rfl⟩ := same
    rfl

theorem properties_of_sameBut {part : Part} (same : SameBut project changed part)
    (other : part ≠ .properties) : changed.properties = project.properties := by
  cases part with
  | documents there =>
    obtain ⟨documents, rfl⟩ := same
    cases there <;> rfl
  | references =>
    obtain ⟨_, _, _, rfl⟩ := same
    rfl
  | analyzers =>
    obtain ⟨_, rfl⟩ := same
    rfl
  | properties => exact absurd rfl other

end Project

namespace Transition

variable {closes : ProjectId → Bool} {project changed : Project}

/-- The part that a transition is about. -/
def part : Transition → Part
  | .addDocuments collection _ => .documents collection
  | .removeDocuments collection _ => .documents collection
  | .reloadDocument collection _ _ => .documents collection
  | .addReference _ => .references
  | .removeReference _ => .references
  | .addProjectReference _ => .references
  | .removeProjectReference _ => .references
  | .addAnalyzerReference _ => .analyzers
  | .removeAnalyzerReference _ => .analyzers
  | .setProperty _ => .properties

theorem sameBut_of_effect {transition : Transition}
    (completed : transition.effect closes project = .ok changed) :
    project.SameBut changed transition.part := by
  cases transition with
  | addDocuments collection documents => exact ⟨_, (Attempt.reached_of_toExcept completed).symm⟩
  | removeDocuments collection ids => exact ⟨_, (Attempt.reached_of_toExcept completed).symm⟩
  | reloadDocument collection id loader =>
    simp only [effect, Project.replaceLoader] at completed
    split at completed <;> cases completed
    exact ⟨_, rfl⟩
  | addReference representation =>
    cases representation with
    | structural reference => exact Project.sameBut_hold completed
    | content reference =>
      simp only [effect, Project.addMetadataReference] at completed
      split at completed <;> cases completed
      exact ⟨_, _, _, rfl⟩
  | removeReference representation =>
    simp only [effect] at completed
    split at completed
    · cases representation with
      | structural reference => exact Project.sameBut_releaseProjectReference completed
      | content reference =>
        simp only [Project.removeMetadataReference] at completed
        split at completed <;> cases completed
        exact ⟨_, _, _, rfl⟩
    · cases completed
      exact .refl project _
  | addProjectReference reference => exact Project.sameBut_hold completed
  | removeProjectReference reference => exact Project.sameBut_releaseProjectReference completed
  | addAnalyzerReference reference =>
    simp only [effect, Project.addAnalyzerReference] at completed
    split at completed <;> cases completed
    exact ⟨_, rfl⟩
  | removeAnalyzerReference reference =>
    simp only [effect, Project.removeAnalyzerReference] at completed
    split at completed <;> cases completed
    exact ⟨_, rfl⟩
  | setProperty property =>
    cases completed
    exact ⟨_, rfl⟩

/-- What holds after each transition of a list if it held before, holds after the whole list. -/
theorem effects_induction (relation : Project → Project → Prop)
    (refl : ∀ project, relation project project)
    (trans : ∀ {first second third}, relation first second → relation second third →
      relation first third)
    {transitions : List Transition}
    (step : ∀ transition ∈ transitions, ∀ {project changed : Project},
      transition.effect closes project = .ok changed → relation project changed)
    (completed : effects closes project transitions = .ok changed) : relation project changed := by
  induction transitions generalizing project with
  | nil =>
    cases completed
    exact refl _
  | cons transition rest ih =>
    rw [effects] at completed
    split at completed
    · cases completed
    · rename_i middle applied
      exact trans (step transition List.mem_cons_self applied)
        (ih (fun later later_mem => step later (List.mem_cons_of_mem _ later_mem)) completed)

theorem documents_effects {transitions : List Transition} {collection : DocumentCollection}
    (others : ∀ transition ∈ transitions, transition.part ≠ .documents collection)
    (completed : effects closes project transitions = .ok changed) :
    changed.documents collection = project.documents collection :=
  effects_induction (fun first second =>
      second.documents collection = first.documents collection)
    (fun _ => rfl) (fun first second => second.trans first)
    (fun transition transition_mem {_ _} applied =>
      Project.documents_of_sameBut (sameBut_of_effect applied) (others transition transition_mem))
    completed

theorem references_effects {transitions : List Transition}
    (others : ∀ transition ∈ transitions, transition.part ≠ .references)
    (completed : effects closes project transitions = .ok changed) :
    project.SameReferences changed :=
  effects_induction Project.SameReferences
    (fun _ => ⟨rfl, rfl, rfl⟩)
    (fun first second => ⟨second.1.trans first.1, second.2.1.trans first.2.1,
      second.2.2.trans first.2.2⟩)
    (fun transition transition_mem {_ _} applied =>
      Project.references_of_sameBut (sameBut_of_effect applied) (others transition transition_mem))
    completed

theorem analyzers_effects {transitions : List Transition}
    (others : ∀ transition ∈ transitions, transition.part ≠ .analyzers)
    (completed : effects closes project transitions = .ok changed) :
    changed.analyzerReferences = project.analyzerReferences :=
  effects_induction (fun first second =>
      second.analyzerReferences = first.analyzerReferences)
    (fun _ => rfl) (fun first second => second.trans first)
    (fun transition transition_mem {_ _} applied =>
      Project.analyzers_of_sameBut (sameBut_of_effect applied) (others transition transition_mem))
    completed

theorem properties_effects {transitions : List Transition}
    (others : ∀ transition ∈ transitions, transition.part ≠ .properties)
    (completed : effects closes project transitions = .ok changed) :
    changed.properties = project.properties :=
  effects_induction (fun first second => second.properties = first.properties)
    (fun _ => rfl) (fun first second => second.trans first)
    (fun transition transition_mem {_ _} applied =>
      Project.properties_of_sameBut (sameBut_of_effect applied) (others transition transition_mem))
    completed

theorem language_effects {transitions : List Transition}
    (completed : effects closes project transitions = .ok changed) :
    changed.language = project.language :=
  effects_induction (fun first second => second.language = first.language)
    (fun _ => rfl) (fun first second => second.trans first)
    (fun _ _ {_ _} applied => Project.language_of_sameBut (sameBut_of_effect applied)) completed

theorem id_eq_of_effects {transitions : List Transition}
    (completed : effects closes project transitions = .ok changed) : changed.id = project.id :=
  effects_induction (fun first second => second.id = first.id)
    (fun _ => rfl) (fun first second => second.trans first)
    (fun _ _ {_ _} applied => id_eq_of_effect applied) completed

end Transition

end CodeWorkspace
