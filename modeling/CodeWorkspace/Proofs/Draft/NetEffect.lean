import CodeWorkspace.Proofs.Draft.Deferred

/-!
# The net effect of a batch

What a batch leaves waiting is the difference between what is tracked now and what was tracked when
it was opened: what came and went, or went and came back, does not wait.  So nothing waits at the
end exactly if everything is tracked as before and no property was set.
-/

namespace CodeWorkspace

namespace PendingSet

variable {α : Type} {pending : PendingSet α} {start now : OrderedSet α}

/-- The items that wait are those that are tracked at one of two moments only. -/
structure Differs (pending : PendingSet α) (start now : OrderedSet α) : Prop where
  added_iff : ∀ item, item ∈ pending.added ↔ item ∈ now ∧ item ∉ start
  removed_iff : ∀ item, item ∈ pending.removed ↔ item ∈ start ∧ item ∉ now

theorem Tracks.differs (tracks : pending.Tracks now fun item => item ∈ start) :
    pending.Differs start now := by
  refine ⟨fun item => ⟨fun waits => ?_, fun ⟨present, new⟩ => ?_⟩,
    fun item => ⟨fun waits => ?_, fun ⟨old, absent⟩ => ?_⟩⟩
  · exact ⟨tracks.added_tracked item waits, tracks.not_committed waits⟩
  · by_contra settled
    exact new ((tracks.committed_iff item).mpr (Or.inl ⟨present, settled⟩))
  · exact ⟨tracks.committed_of_removed waits, tracks.removed_untracked item waits⟩
  · rcases (tracks.committed_iff item).mp old with ⟨present, _⟩ | waits
    · exact absurd present absent
    · exact waits

theorem Differs.isEmpty_iff (differs : pending.Differs start now) :
    pending.isEmpty = true ↔ ∀ item, item ∈ now ↔ item ∈ start := by
  rw [PendingSet.isEmpty, Bool.and_eq_true, OrderedSet.isEmpty_iff_forall_not_mem,
    OrderedSet.isEmpty_iff_forall_not_mem]
  simp only [differs.added_iff, differs.removed_iff]
  grind

end PendingSet

namespace Registry

variable {registry : Registry} {documents : Documents} {id : DocumentId}

theorem hasPending_eq_false_iff : registry.hasPending = false ↔
    registry.pendingAdds = [] ∧ registry.pendingRemoves = [] := by
  simp [Registry.hasPending, List.isEmpty_iff]

theorem mem_documentIds_iff : id ∈ registry.documentIds ↔
    ∃ entry, registry.entries.get? id = some entry ∧ entry.state ≠ .pendingRemove := by
  rw [documentIds_eq, List.mem_map]
  constructor
  · rintro ⟨⟨known, document⟩, tracked, rfl⟩
    obtain ⟨entry, found, stays, _⟩ := mem_tracked_iff.mp tracked
    exact ⟨entry, found, stays⟩
  · rintro ⟨entry, found, stays⟩
    exact ⟨(id, entry.document), mem_tracked_iff.mpr ⟨entry, found, stays, rfl⟩, rfl⟩

end Registry

namespace Draft

variable {comparison : PathComparison} {project : Project} {start now : Draft}
  {closes : ProjectId → Bool}

/-- What waits in a draft is what is tracked now and was not at the start, and the other way
round. -/
structure NetEffect (start now : Draft) : Prop where
  adds_iff : ∀ collection id, id ∈ (now.registry collection).pendingAdds ↔
    id ∈ (now.registry collection).documentIds ∧ id ∉ (start.registry collection).documentIds
  removes_iff : ∀ collection id, id ∈ (now.registry collection).pendingRemoves ↔
    id ∈ (start.registry collection).documentIds ∧ id ∉ (now.registry collection).documentIds
  metadata : now.changes.metadataReferences.Differs start.metadataReferences
    now.metadataReferences
  projects : now.changes.projectReferences.Differs start.projectReferences now.projectReferences
  analyzers : now.changes.analyzerReferences.Differs start.analyzerReferences
    now.analyzerReferences

/-- Two drafts that track the same documents and references. -/
structure SameItems (start now : Draft) : Prop where
  documents : ∀ collection id, id ∈ (now.registry collection).documentIds ↔
    id ∈ (start.registry collection).documentIds
  metadata : ∀ reference, reference ∈ now.metadataReferences ↔
    reference ∈ start.metadataReferences
  projects : ∀ reference, reference ∈ now.projectReferences ↔ reference ∈ start.projectReferences
  analyzers : ∀ reference, reference ∈ now.analyzerReferences ↔
    reference ∈ start.analyzerReferences

theorem hasPending_eq_false_iff {draft : Draft} : draft.hasPending = false ↔
    (∀ collection, (draft.registry collection).hasPending = false) ∧
      draft.changes.isEmpty = true := by
  have both : (∀ collection, (draft.registry collection).hasPending = false) ↔
      draft.sources.hasPending = false ∧ draft.additional.hasPending = false :=
    ⟨fun all => ⟨all .source, all .additional⟩,
      fun ⟨sources, additional⟩ collection => by cases collection <;> assumption⟩
  rw [both, Draft.hasPending]
  simp [and_assoc]

/-- Nothing waits exactly if everything is tracked as at the start and no property waits. -/
theorem NetEffect.hasPending_iff (effect : NetEffect start now) :
    now.hasPending = false ↔ SameItems start now ∧ now.changes.properties = [] := by
  have documents : (∀ collection, (now.registry collection).hasPending = false) ↔
      ∀ collection id, id ∈ (now.registry collection).documentIds ↔
        id ∈ (start.registry collection).documentIds := by
    refine forall_congr' fun collection => ?_
    rw [Registry.hasPending_eq_false_iff, List.eq_nil_iff_forall_not_mem,
      List.eq_nil_iff_forall_not_mem]
    simp only [effect.adds_iff, effect.removes_iff]
    grind
  rw [hasPending_eq_false_iff, documents, ChangeSet.isEmpty]
  simp only [Bool.and_eq_true, effect.metadata.isEmpty_iff, effect.projects.isEmpty_iff,
    effect.analyzers.isEmpty_iff, List.isEmpty_iff]
  constructor
  · rintro ⟨same, ⟨⟨metadata, projects⟩, analyzers⟩, silent⟩
    exact ⟨⟨same, metadata, projects, analyzers⟩, silent⟩
  · rintro ⟨⟨same, metadata, projects, analyzers⟩, silent⟩
    exact ⟨same, ⟨⟨metadata, projects⟩, analyzers⟩, silent⟩

/-- What waits in a draft is its net effect, provided that the project is as it was when nothing
waited. -/
theorem InStep.netEffect (start_inStep : InStep comparison project start)
    (settled : start.hasPending = false) (inStep : InStep comparison project now)
    (defers : now.Defers closes start.metadataReferences) : NetEffect start now := by
  have committed (collection : DocumentCollection) (id : DocumentId) :
      id ∈ (start.registry collection).documentIds ↔ id ∈ (project.documents collection).keys := by
    rw [Registry.documentIds_eq, ← start_inStep.documents_eq_tracked settled collection]
    rfl
  refine ⟨fun collection id => ?_, fun collection id => ?_, defers.metadata.differs,
    (inStep.references.direct.congr fun reference =>
      (start_inStep.direct_iff settled reference).symm).differs,
    (inStep.analyzers.tracks.congr fun reference =>
      (start_inStep.analyzer_iff settled reference).symm).differs⟩
  · have mirrors := (inStep.mirrors collection).mirrors
    rw [committed, mirrors.mem_adds, Registry.mem_documentIds_iff, mirrors.mem_keys_iff]
    grind
  · have mirrors := (inStep.mirrors collection).mirrors
    rw [committed, mirrors.mem_removes, Registry.mem_documentIds_iff, mirrors.mem_keys_iff]
    grind

end Draft

end CodeWorkspace
