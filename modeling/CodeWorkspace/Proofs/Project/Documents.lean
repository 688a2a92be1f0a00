import CodeWorkspace.FlushPlan
import CodeWorkspace.Proofs.Transition.Part

/-!
# What transitions do to documents

Adding documents appends them to their collection, removing documents takes them out of it, and
transitions of the other kinds leave all documents alone.
-/

namespace CodeWorkspace

namespace Project

variable {project changed : Project} {documents reached : Documents}
  {collection : DocumentCollection}

@[simp]
theorem documents_withDocuments_self (project : Project) (documents : Documents)
    (collection : DocumentCollection) :
    (project.withDocuments documents collection).documents collection = documents := by
  cases collection <;> rfl

theorem documents_withDocuments_of_ne {other : DocumentCollection} (differs : other ≠ collection) :
    (project.withDocuments documents collection).documents other = project.documents other := by
  cases collection <;> cases other <;> first | rfl | exact absurd rfl differs

@[simp]
theorem withDocuments_documents (project : Project) (collection : DocumentCollection) :
    project.withDocuments (project.documents collection) collection = project := by
  cases collection <;> rfl

theorem entries_addEach {owner : ProjectId} {added : List Document}
    (completed : (addEach owner documents added).toExcept = .ok reached) :
    reached.entries = documents.entries ++ added.map fun document => (document.id, document) := by
  induction added generalizing documents with
  | nil =>
    cases completed
    simp [addEach, Attempt.done]
  | cons document rest ih =>
    rw [addEach] at completed
    split at completed
    · cases completed
    · rename_i absent
      rw [ih completed, OrderedMap.entries_insert_of_not_mem
        (mt OrderedMap.contains_iff_mem_keys.mpr absent)]
      simp

theorem addEach_completes (owner : ProjectId) {added : List Document}
    (fresh : ∀ document ∈ added, document.id ∉ documents.keys)
    (distinct : (added.map Document.id).Nodup) :
    ∃ reached, (addEach owner documents added).toExcept = .ok reached := by
  induction added generalizing documents with
  | nil => exact ⟨documents, rfl⟩
  | cons document rest ih =>
    rw [List.map_cons, List.nodup_cons] at distinct
    have absent := fresh document List.mem_cons_self
    rw [addEach, if_neg (mt OrderedMap.contains_iff_mem_keys.mp absent)]
    refine ih (fun later later_mem => ?_) distinct.2
    rw [OrderedMap.keys_insert_of_not_mem absent, List.mem_append, List.mem_singleton]
    rintro (old | same)
    · exact fresh later (List.mem_cons_of_mem _ later_mem) old
    · exact distinct.1 (same ▸ List.mem_map_of_mem later_mem)

theorem entries_removeEach {owner : ProjectId} {ids : List DocumentId}
    (completed : (removeEach owner documents ids).toExcept = .ok reached) :
    reached.entries = documents.entries.filter fun entry => entry.1 ∉ ids := by
  induction ids generalizing documents with
  | nil =>
    cases completed
    simp [removeEach, Attempt.done]
  | cons id rest ih =>
    rw [removeEach] at completed
    split at completed
    · rw [ih completed, OrderedMap.entries_erase, List.filter_filter]
      refine List.filter_congr fun entry _ => ?_
      simp [Bool.and_comm]
    · cases completed

theorem removeEach_completes (owner : ProjectId) {ids : List DocumentId}
    (present : ∀ id ∈ ids, id ∈ documents.keys) (distinct : ids.Nodup) :
    ∃ reached, (removeEach owner documents ids).toExcept = .ok reached := by
  induction ids generalizing documents with
  | nil => exact ⟨documents, rfl⟩
  | cons id rest ih =>
    rw [List.nodup_cons] at distinct
    rw [removeEach,
      if_pos (OrderedMap.contains_iff_mem_keys.mpr (present id List.mem_cons_self))]
    refine ih (fun later later_mem => ?_) distinct.2
    rw [OrderedMap.keys_erase, List.mem_filter]
    refine ⟨present later (List.mem_cons_of_mem _ later_mem), ?_⟩
    have differs : later ≠ id := fun same => distinct.1 (same ▸ later_mem)
    simpa using differs

theorem addDocuments_ok_iff {added : List Document} :
    (project.addDocuments collection added).toExcept = .ok changed ↔
      ∃ reached, (addEach project.id (project.documents collection) added).toExcept = .ok reached ∧
        changed = project.withDocuments reached collection := by
  rw [addDocuments, Attempt.toExcept_map]
  cases (addEach project.id (project.documents collection) added).toExcept with
  | error fault => simp [Except.map]
  | ok reached => simp [Except.map, eq_comm]

theorem removeDocuments_ok_iff {ids : List DocumentId} :
    (project.removeDocuments collection ids).toExcept = .ok changed ↔
      ∃ reached, (removeEach project.id (project.documents collection) ids).toExcept = .ok reached ∧
        changed = project.withDocuments reached collection := by
  rw [removeDocuments, Attempt.toExcept_map]
  cases (removeEach project.id (project.documents collection) ids).toExcept with
  | error fault => simp [Except.map]
  | ok reached => simp [Except.map, eq_comm]

theorem replaceLoader_ok_iff {id : DocumentId} {loader : Loader} :
    project.replaceLoader collection id loader = .ok changed ↔
      (project.documents collection).contains id = true ∧
        changed = project.withDocuments ((project.documents collection).adjust id fun document =>
          { document with loader }) collection := by
  simp only [replaceLoader]
  split
  · rename_i present
    simp [present, eq_comm]
  · rename_i absent
    simp [absent]

end Project

end CodeWorkspace
