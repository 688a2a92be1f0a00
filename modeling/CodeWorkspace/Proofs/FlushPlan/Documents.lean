import CodeWorkspace.Proofs.Draft.Move

/-!
# Committing documents

A plan adds the waiting documents of both collections before it removes any.  What comes of it in
one collection does not depend on the other one.
-/

namespace CodeWorkspace

namespace Transition

variable {closes : ProjectId → Bool} {represent : MetadataReference → Representation}
  {project changed : Project} {registry : Registry}

theorem effects_additions (completed : effects closes project (FlushPlan.additions registry) =
      .ok changed) (collection : DocumentCollection) :
    (changed.documents collection).entries = (project.documents collection).entries ++
      if collection = registry.collection then
        registry.pendingDocuments.map fun document => (document.id, document)
      else [] := by
  rw [FlushPlan.additions] at completed
  split at completed
  · rename_i nothing
    cases completed
    simp [nothing]
  · rename_i documents _
    rw [effects_singleton] at completed
    obtain ⟨reached, added, rfl⟩ := Project.addDocuments_ok_iff.mp completed
    split
    · rename_i same
      rw [same, Project.documents_withDocuments_self]
      exact Project.entries_addEach added
    · rename_i differs
      rw [Project.documents_withDocuments_of_ne differs, List.append_nil]

theorem effects_removals (completed : effects closes project (FlushPlan.removals registry) =
      .ok changed) (collection : DocumentCollection) :
    (changed.documents collection).entries = (project.documents collection).entries.filter
      fun entry => collection ≠ registry.collection ∨ entry.1 ∉ registry.pendingRemoves := by
  rw [FlushPlan.removals] at completed
  split at completed
  · rename_i nothing
    cases completed
    simp [nothing]
  · rename_i ids _
    rw [effects_singleton] at completed
    obtain ⟨reached, removed, rfl⟩ := Project.removeDocuments_ok_iff.mp completed
    by_cases same : collection = registry.collection
    · rw [same, Project.documents_withDocuments_self, Project.entries_removeEach removed]
      simp
    · rw [Project.documents_withDocuments_of_ne same]
      simp [same]

theorem part_of_mem_changes {transition : Transition} {changes : ChangeSet}
    (planned : transition ∈ FlushPlan.changes represent changes) (collection : DocumentCollection) :
    transition.part ≠ .documents collection := by
  simp only [FlushPlan.changes, List.mem_append, List.mem_map] at planned
  rcases planned with (((((⟨_, _, rfl⟩ | ⟨_, _, rfl⟩) | ⟨_, _, rfl⟩) | ⟨_, _, rfl⟩) |
    ⟨_, _, rfl⟩) | ⟨_, _, rfl⟩) | ⟨_, _, rfl⟩ <;> simp [part]

/-- What a plan makes of the documents of a project. -/
theorem documents_of_plan {draft : Draft}
    (completed : effects closes project (draft.planBy represent) = .ok changed)
    (collection_eq : ∀ collection, (draft.registry collection).collection = collection)
    (collection : DocumentCollection) :
    (changed.documents collection).entries =
      ((project.documents collection).entries ++
        (draft.registry collection).pendingDocuments.map fun document => (document.id, document)
        ).filter fun entry => entry.1 ∉ (draft.registry collection).pendingRemoves := by
  simp only [Draft.planBy, effects_append_ok] at completed
  obtain ⟨fourth, ⟨third, ⟨second, ⟨first, sources_added, additional_added⟩, sources_removed⟩,
    additional_removed⟩, changes_made⟩ := completed
  rw [documents_effects (fun _ planned => part_of_mem_changes planned collection) changes_made,
    effects_removals additional_removed, effects_removals sources_removed,
    effects_additions additional_added, effects_additions sources_added]
  have sources_eq : draft.sources.collection = .source := collection_eq .source
  have additional_eq : draft.additional.collection = .additional := collection_eq .additional
  cases collection with
  | source =>
    have registry_eq : draft.registry .source = draft.sources := rfl
    rw [registry_eq]
    simp [sources_eq, additional_eq]
  | additional =>
    have registry_eq : draft.registry .additional = draft.additional := rfl
    rw [registry_eq]
    simp [sources_eq, additional_eq]

/-- Documents that can be added one by one can be added together. -/
theorem effect_addDocuments {collection : DocumentCollection} {documents : List Document}
    (completed : effects closes project
      (documents.map fun document => .addDocuments collection [document]) = .ok changed) :
    (addDocuments collection documents).effect closes project = .ok changed := by
  induction documents generalizing project with
  | nil =>
    cases completed
    exact congrArg Except.ok (Project.withDocuments_documents changed collection)
  | cons document rest ih =>
    obtain ⟨middle, added, rest_added⟩ := effects_cons_ok.mp completed
    obtain ⟨reached, once, rfl⟩ := Project.addDocuments_ok_iff.mp added
    obtain ⟨last, others, rfl⟩ := Project.addDocuments_ok_iff.mp (ih rest_added)
    rw [Project.documents_withDocuments_self] at others
    refine Project.addDocuments_ok_iff.mpr ⟨last, ?_, by cases collection <;> rfl⟩
    rw [Project.addEach] at once ⊢
    split at once
    · cases once
    · rename_i absent
      cases once
      rw [if_neg absent]
      cases collection <;> exact others

/-- The waiting documents of a registry are added together. -/
theorem effects_additions_eq (closes : ProjectId → Bool) (project : Project)
    (registry : Registry) :
    effects closes project (FlushPlan.additions registry) =
      (addDocuments registry.collection registry.pendingDocuments).effect closes project := by
  rw [FlushPlan.additions]
  cases registry.pendingDocuments with
  | nil =>
    exact congrArg Except.ok (Project.withDocuments_documents project registry.collection).symm
  | cons document rest => exact effects_singleton closes project _

end Transition

end CodeWorkspace
