import CodeWorkspace.Proofs.Draft.Facade
import CodeWorkspace.Proofs.FlushPlan.Expressed

/-!
# What a batch comes to

A draft that puts its changes off remembers what was tracked when it began to.  If the project
expressed that, what waits can be committed, and the project then expresses what is tracked now.
Two drafts that show the same things, and whose projects express what they track, have projects
that are the same up to the order of their references.
-/

namespace CodeWorkspace

/-- Two projects that are the same up to the order of their references. -/
structure Project.SameUpToOrder (first second : Project) : Prop where
  id_eq : second.id = first.id
  language_eq : second.language = first.language
  properties_eq : second.properties = first.properties
  documents_eq : ∀ collection, second.documents collection = first.documents collection
  metadata_perm : second.metadataReferences.Perm first.metadataReferences
  projects_perm : second.projectReferences.Perm first.projectReferences
  analyzers_perm : second.analyzerReferences.Perm first.analyzerReferences
  holders_eq : ∀ reference, second.holders.get? reference = first.holders.get? reference

namespace Draft

variable {comparison : PathComparison} {project changed first second : Project}
  {draft single batched : Draft} {closes : ProjectId → Bool}
  {represent : MetadataReference → Representation} {origin : OrderedSet MetadataReference}
  {action : Action} {fault : Fault}

/-- What waits in a draft since it tracked some metadata references: together with what is tracked
now it tells what was tracked then, and no reference to a project closes a cycle. -/
structure Defers (closes : ProjectId → Bool) (origin : OrderedSet MetadataReference)
    (draft : Draft) : Prop where
  metadata : draft.changes.metadataReferences.Tracks draft.metadataReferences fun reference =>
    reference ∈ origin
  unclosed : ∀ reference ∈ draft.changes.projectReferences.added, closes reference.target = false

theorem defers_of_settled (closes : ProjectId → Bool) (settled : draft.hasPending = false) :
    Defers closes draft.metadataReferences draft := by
  have nothing := changes_of_settled settled
  constructor
  · rw [nothing]
    refine ⟨fun _ waits => ?_, fun _ leaves => ?_, fun reference => ?_⟩
    · exact absurd waits (OrderedSet.not_mem_empty _)
    · exact absurd leaves (OrderedSet.not_mem_empty _)
    · simp [ChangeSet.empty, PendingSet.empty]
  · rw [nothing]
    exact fun _ waits => absurd waits (OrderedSet.not_mem_empty _)

theorem Defers.later (defers : draft.Defers closes origin) (allowed : action.Allowed draft)
    (open_target : ∀ reference, action = .addProjectReference reference →
      closes reference.target = false) : (action.later draft).Defers closes origin := by
  obtain ⟨metadata, unclosed⟩ := defers
  cases action with
  | addMetadataReference reference => exact ⟨metadata.add allowed, unclosed⟩
  | removeMetadataReference reference => exact ⟨metadata.remove allowed, unclosed⟩
  | addProjectReference reference =>
    refine ⟨metadata, fun other waits => ?_⟩
    rcases PendingSet.mem_added_of_add waits with old | rfl
    · exact unclosed other old
    · exact open_target other rfl
  | removeProjectReference reference =>
    exact ⟨metadata, fun other waits => unclosed other (PendingSet.mem_added_of_remove waits)⟩
  | insert collection _ _ _ => cases collection <;> exact ⟨metadata, unclosed⟩
  | remove collection _ => cases collection <;> exact ⟨metadata, unclosed⟩
  | _ => exact ⟨metadata, unclosed⟩

/-- A project lists no other metadata references as themselves than those that it expresses. -/
theorem Sensible.mem_of_listed (sensible : Sensible closes represent)
    {references : List MetadataReference} {reference : MetadataReference}
    (expresses : project.Expresses represent references)
    (listed : reference ∈ project.metadataReferences) : reference ∈ references := by
  have content := expresses.metadata.subset listed
  rw [sensible.filterMap_content?] at content
  exact (List.mem_filter.mp content).1

/-- What is put off is never stale. -/
theorem Defers.not_stale (defers : draft.Defers closes origin)
    (expresses : project.Expresses represent origin.elements)
    (sensible : Sensible closes represent) :
    ¬ Transition.Stale closes represent project draft.changes fault := by
  rintro (⟨waits, represented, listed⟩ | ⟨waits, closed⟩)
  · cases sensible.same _ _ represented
    exact defers.metadata.not_committed waits (sensible.mem_of_listed expresses listed)
  · rw [defers.unclosed _ waits] at closed
    cases closed

/-- Once what was put off is committed, the project expresses what is tracked. -/
theorem Defers.expresses (defers : draft.Defers closes origin) (booked : project.Booked)
    (expresses : project.Expresses represent origin.elements)
    (committed : Transition.effects closes project (draft.planBy represent) = .ok changed) :
    changed.Expresses represent draft.metadataReferences.elements := by
  rw [Transition.planBy_eq, Transition.effects_append_ok] at committed
  obtain ⟨middle, documents_done, changes_done⟩ := committed
  have lists := Transition.lists_changes (booked.lists.of_same
    (Transition.references_effects (Transition.part_of_documentPlan_ne (by simp)) documents_done))
    changes_done
  exact expresses.update _ _ lists (fun _ => rfl) defers.metadata.parted

theorem Defers.expresses_of_settled (defers : draft.Defers closes origin)
    (expresses : project.Expresses represent origin.elements)
    (settled : draft.hasPending = false) :
    project.Expresses represent draft.metadataReferences.elements := by
  have parted := defers.metadata.parted
  rw [changes_of_settled settled] at parted
  have same : draft.metadataReferences.elements.Perm origin.elements := by
    simpa [ChangeSet.empty, PendingSet.empty, OrderedSet.empty] using parted
  exact expresses.of_perm same

/-- An action that is committed at once is expressed at once. -/
theorem expresses_now (booked : project.Booked)
    (expresses : project.Expresses represent draft.metadataReferences.elements)
    (allowed : action.Allowed draft)
    (committed : (action.transition represent).effect closes project = .ok changed) :
    changed.Expresses represent (action.now draft).metadataReferences.elements := by
  have others (elsewhere : (action.transition represent).part ≠ .references) :
      changed.Expresses represent draft.metadataReferences.elements := by
    have same := Project.references_of_sameBut (Transition.sameBut_of_effect committed) elsewhere
    have lists := booked.lists.of_same same
    exact expresses.of_same same.1 fun line => by rw [lists.holding_eq]
  cases action with
  | addMetadataReference reference =>
    have added := expresses.addReference booked (effects_single committed)
    rwa [← OrderedSet.elements_insert_of_not_mem allowed] at added
  | removeMetadataReference reference =>
    have removed := expresses.removeReference booked allowed (effects_single committed)
    rw [draft.metadataReferences.nodup.erase_eq_filter] at removed
    refine removed.of_perm (List.Perm.of_eq (List.filter_congr fun other _ => ?_))
    by_cases same : other = reference <;> simp [same]
  | addProjectReference reference =>
    have lists := Transition.lists_addProjectReferences booked.lists (effects_single committed)
    exact expresses.of_same lists.metadata_eq fun line => by rw [lists.holding_eq]
  | removeProjectReference reference =>
    have lists := Transition.lists_removeProjectReferences booked.lists (effects_single committed)
    exact expresses.of_same lists.metadata_eq fun line => by rw [lists.holding_eq]
  | insert collection _ _ _ =>
    cases collection <;> exact others (by simp [Action.transition, Transition.part])
  | remove collection _ =>
    cases collection <;> exact others (by simp [Action.transition, Transition.part])
  | _ => exact others (by simp [Action.transition, Transition.part])

/-! ## Projects of settled drafts -/

theorem pendingRemoves_of_settled (settled : draft.hasPending = false)
    (collection : DocumentCollection) : (draft.registry collection).pendingRemoves = [] := by
  simp only [hasPending, Registry.hasPending, Bool.or_eq_false_iff, Bool.not_eq_false',
    List.isEmpty_iff] at settled
  cases collection with
  | source => exact settled.1.1.2
  | additional => exact settled.1.2.2

/-- While nothing waits in a draft that is in step, its project has the tracked documents. -/
theorem InStep.documents_eq_tracked (inStep : InStep comparison project draft)
    (settled : draft.hasPending = false) (collection : DocumentCollection) :
    (project.documents collection).entries = (draft.registry collection).tracked :=
  (inStep.mirrors collection).mirrors.documents_eq_tracked
    (pendingAdds_of_settled settled collection) (pendingRemoves_of_settled settled collection)

/-- While nothing waits, a reference to a project is held directly just if it is tracked. -/
theorem InStep.direct_iff (inStep : InStep comparison project draft)
    (settled : draft.hasPending = false) (reference : ProjectReference) :
    (project.holding reference).direct = true ↔ reference ∈ draft.projectReferences := by
  have direct := inStep.references.direct
  rw [changes_of_settled settled] at direct
  rw [direct.committed_iff]
  simp [ChangeSet.empty, PendingSet.empty]

theorem InStep.analyzer_iff (inStep : InStep comparison project draft)
    (settled : draft.hasPending = false) (reference : AnalyzerReference) :
    reference ∈ project.analyzerReferences ↔ reference ∈ draft.analyzerReferences := by
  have analyzers := inStep.analyzers.tracks
  rw [changes_of_settled settled] at analyzers
  rw [analyzers.committed_iff]
  simp [ChangeSet.empty, PendingSet.empty]

theorem InStep.properties_eq (inStep : InStep comparison project draft)
    (settled : draft.hasPending = false) : project.properties = draft.properties := by
  have properties := inStep.properties
  rw [TracksProperties, changes_of_settled settled] at properties
  exact properties.symm

/-- A project is determined up to the order of its references by what its draft shows, if nothing
waits there and the project expresses the tracked metadata references. -/
theorem SameFacade.sameUpToOrder (same : SameFacade single batched)
    (first_inStep : InStep comparison first single)
    (second_inStep : InStep comparison second batched)
    (first_settled : single.hasPending = false) (second_settled : batched.hasPending = false)
    (first_expresses : first.Expresses represent single.metadataReferences.elements)
    (second_expresses : second.Expresses represent batched.metadataReferences.elements)
    (id_eq : second.id = first.id) (language_eq : second.language = first.language) :
    first.SameUpToOrder second := by
  rw [same.metadata_eq] at second_expresses
  have holding_eq (line : ProjectReference) : second.holding line = first.holding line := by
    have direct_eq : (second.holding line).direct = (first.holding line).direct := by
      rw [Bool.eq_iff_iff, first_inStep.direct_iff first_settled,
        second_inStep.direct_iff second_settled, same.projects_eq]
    have converted_eq : (second.holding line).converted = (first.holding line).converted := by
      rw [first_expresses.converted, second_expresses.converted]
    cases held : second.holding line
    cases held_first : first.holding line
    simp_all
  have first_booked := first_inStep.references.booked
  have second_booked := second_inStep.references.booked
  refine ⟨id_eq, language_eq, ?_, fun collection => ?_, ?_, ?_, ?_, fun reference => ?_⟩
  · rw [first_inStep.properties_eq first_settled, second_inStep.properties_eq second_settled,
      same.properties_eq]
  · have entries_eq : (second.documents collection).entries =
        (first.documents collection).entries := by
      rw [first_inStep.documents_eq_tracked first_settled,
        second_inStep.documents_eq_tracked second_settled, (same.documents collection).tracked_eq]
    cases second_documents : second.documents collection
    cases first_documents : first.documents collection
    simp_all
  · exact second_expresses.metadata.trans first_expresses.metadata.symm
  · rw [List.perm_ext_iff_of_nodup second_booked.distinct first_booked.distinct]
    intro reference
    rw [first_booked.mem_iff, second_booked.mem_iff, holding_eq]
  · rw [List.perm_ext_iff_of_nodup second_inStep.analyzers.distinct
      first_inStep.analyzers.distinct]
    intro reference
    rw [first_inStep.analyzer_iff first_settled, second_inStep.analyzer_iff second_settled,
      same.analyzers_eq]
  · rw [first_booked.get?_holders, second_booked.get?_holders, holding_eq]

end Draft

end CodeWorkspace
