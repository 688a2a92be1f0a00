import CodeWorkspace.Proofs.Draft.Documents
import CodeWorkspace.Proofs.Draft.References
import CodeWorkspace.Proofs.Workspace.Documents

/-!
# Drafts in step with their projects

A draft is in step with its project if it mirrors the documents and keeps track of the references,
the analyzers and the properties.  What waits in such a draft, and what it allows to be done, can
be committed but for two reasons: a metadata reference is listed already, or a reference to a
project has come to close a cycle.
-/

namespace CodeWorkspace

namespace Draft

variable {comparison : PathComparison} {project changed : Project} {draft after : Draft}
  {closes : ProjectId → Bool} {represent : MetadataReference → Representation} {fault : Fault}
  {action : Action}

/-- A draft is in step with its project. -/
structure InStep (comparison : PathComparison) (project : Project) (draft : Draft) : Prop where
  mirrors : Mirrors comparison project draft
  references : TracksReferences project draft
  analyzers : TracksAnalyzers project draft
  properties : TracksProperties project draft

theorem kept_inStep (comparison : PathComparison) : Kept comparison (InStep comparison) where
  created info :=
    { mirrors := (kept_mirrors comparison).created info
      references := (lasting_tracksReferences comparison).created info
      analyzers := (lasting_tracksAnalyzers comparison).created info
      properties := (lasting_tracksProperties comparison).created info }
  moved inStep fresh move :=
    { mirrors := inStep.mirrors.move fresh move
      references := inStep.references.move move
      analyzers := inStep.analyzers.move move
      properties := inStep.properties.move move }
  forgot target inStep :=
    { mirrors := (kept_mirrors comparison).forgot target inStep.mirrors
      references := (lasting_tracksReferences comparison).forgot target inStep.references
      analyzers := (lasting_tracksAnalyzers comparison).forgot target inStep.analyzers
      properties := (lasting_tracksProperties comparison).forgot target inStep.properties }

/-- Metadata references are represented as themselves or as references that close no cycle. -/
structure Sensible (closes : ProjectId → Bool)
    (represent : MetadataReference → Representation) : Prop where
  same : ∀ reference kept, represent reference = .content kept → kept = reference
  unclosed : ∀ reference target, represent reference = .structural target →
    closes target.target = false

theorem Sensible.content?_eq (sensible : Sensible closes represent)
    (reference : MetadataReference) :
    (represent reference).content? =
      if represent reference = .content reference then some reference else none := by
  cases represented : represent reference with
  | structural target => rfl
  | content kept =>
    rw [sensible.same reference kept represented]
    simp [Representation.content?]

theorem Sensible.filterMap_content? (sensible : Sensible closes represent)
    (references : List MetadataReference) :
    (references.filterMap fun reference => (represent reference).content?) =
      references.filter fun reference => represent reference = .content reference := by
  rw [← List.filterMap_eq_filter]
  refine List.filterMap_congr fun reference _ => ?_
  rw [sensible.content?_eq, Option.guard]
  simp

/-! ## Documents that wait -/

theorem not_mem_of_pendingDocuments {registry : Registry} {documents : Documents}
    (mirrors : registry.Mirrors documents) {document : Document}
    (waits : document ∈ registry.pendingDocuments) : document.id ∉ documents.keys := by
  rw [Registry.pendingDocuments_eq mirrors.toConsistent] at waits
  obtain ⟨⟨id, entry⟩, entry_mem, rfl⟩ := List.mem_map.mp waits
  obtain ⟨entry_mem, hidden⟩ := List.mem_filter.mp entry_mem
  have found := Registry.mem_entries_iff.mp entry_mem
  intro known
  obtain ⟨held, held_mem, same_id⟩ := List.mem_map.mp known
  obtain ⟨shown, shown_found, _, visible⟩ := mirrors.exists_entry held_mem
  rw [same_id, mirrors.document_id id entry found, found] at shown_found
  cases shown_found
  simp [Registry.isVisible_iff.mpr visible] at hidden

theorem pendingDocuments_distinct {registry : Registry} (consistent : registry.Consistent) :
    (registry.pendingDocuments.map Document.id).Nodup := by
  have same := congrArg (List.map Prod.fst) (Registry.pendingDocuments_entries consistent)
  simp only [List.map_map, Registry.documentsOf] at same
  have ids_eq : registry.pendingDocuments.map Document.id = registry.waiting.map Prod.fst := same
  rw [ids_eq]
  exact registry.entries.keys_nodup.sublist (List.filter_sublist.map _)

theorem mem_of_pendingRemoves {registry : Registry} {documents : Documents}
    (mirrors : registry.Mirrors documents) {id : DocumentId}
    (leaves : id ∈ registry.pendingRemoves) : id ∈ documents.keys := by
  obtain ⟨entry, found, state⟩ := (mirrors.mem_removes id).mp leaves
  exact mirrors.mem_keys_iff.mpr ⟨_, found, by simp [state]⟩

theorem additions_complete (closes : ProjectId → Bool) (project : Project) (registry : Registry)
    (fresh : ∀ document ∈ registry.pendingDocuments,
      document.id ∉ (project.documents registry.collection).keys)
    (distinct : (registry.pendingDocuments.map Document.id).Nodup) :
    ∃ changed, Transition.effects closes project (FlushPlan.additions registry) = .ok changed := by
  rw [FlushPlan.additions]
  split
  · exact ⟨project, rfl⟩
  · obtain ⟨reached, added⟩ := Project.addEach_completes project.id fresh distinct
    rw [Transition.effects_singleton]
    exact ⟨_, Project.addDocuments_ok_iff.mpr ⟨reached, added, rfl⟩⟩

theorem removals_complete (closes : ProjectId → Bool) (project : Project) (registry : Registry)
    (present : ∀ id ∈ registry.pendingRemoves,
      id ∈ (project.documents registry.collection).keys)
    (distinct : registry.pendingRemoves.Nodup) :
    ∃ changed, Transition.effects closes project (FlushPlan.removals registry) = .ok changed := by
  rw [FlushPlan.removals]
  split
  · exact ⟨project, rfl⟩
  · obtain ⟨reached, removed⟩ := Project.removeEach_completes project.id present distinct
    rw [Transition.effects_singleton]
    exact ⟨_, Project.removeDocuments_ok_iff.mpr ⟨reached, removed, rfl⟩⟩

/-- The documents that wait can always be committed. -/
theorem Mirrors.documentPlan_completes (mirrors : Mirrors comparison project draft)
    (closes : ProjectId → Bool) :
    ∃ changed, Transition.effects closes project (Transition.documentPlan draft) = .ok changed := by
  have sources_eq : draft.sources.collection = .source := (mirrors .source).collection_eq
  have additional_eq : draft.additional.collection = .additional :=
    (mirrors .additional).collection_eq
  have sources : draft.sources.Mirrors (project.documents .source) := (mirrors .source).mirrors
  have additional : draft.additional.Mirrors (project.documents .additional) :=
    (mirrors .additional).mirrors
  have known {start reached : Project} {collection : DocumentCollection}
      {more : List (DocumentId × Document)}
      (grown : (reached.documents collection).entries =
        (start.documents collection).entries ++ more) {id : DocumentId}
      (id_mem : id ∈ (start.documents collection).keys) :
      id ∈ (reached.documents collection).keys := by
    rw [OrderedMap.keys, grown, List.map_append]
    exact List.mem_append_left _ id_mem
  obtain ⟨first, sources_added⟩ := additions_complete closes project draft.sources
    (by rw [sources_eq]; exact fun document => not_mem_of_pendingDocuments sources)
    (pendingDocuments_distinct sources.toConsistent)
  have first_source := Transition.effects_additions sources_added .source
  have first_additional := Transition.effects_additions sources_added .additional
  obtain ⟨second, additional_added⟩ := additions_complete closes first draft.additional
    (by
      intro document waits
      rw [additional_eq, OrderedMap.keys, first_additional]
      simpa [sources_eq, OrderedMap.keys] using not_mem_of_pendingDocuments additional waits)
    (pendingDocuments_distinct additional.toConsistent)
  have second_source := Transition.effects_additions additional_added .source
  have second_additional := Transition.effects_additions additional_added .additional
  obtain ⟨third, sources_removed⟩ := removals_complete closes second draft.sources
    (by
      intro id leaves
      rw [sources_eq]
      exact known second_source (known first_source (mem_of_pendingRemoves sources leaves)))
    sources.removes_nodup
  have third_additional := Transition.effects_removals sources_removed .additional
  obtain ⟨fourth, additional_removed⟩ := removals_complete closes third draft.additional
    (by
      intro id leaves
      have there := known second_additional
        (known first_additional (mem_of_pendingRemoves additional leaves))
      rw [additional_eq, OrderedMap.keys, third_additional]
      simpa [sources_eq, OrderedMap.keys] using there)
    additional.removes_nodup
  refine ⟨fourth, ?_⟩
  simp only [Transition.documentPlan, Transition.effects_append_ok]
  exact ⟨third, ⟨second, ⟨first, sources_added, additional_added⟩, sources_removed⟩,
    additional_removed⟩

/-! ## What can go wrong -/

theorem TracksReferences.committable (references : TracksReferences project draft)
    (analyzers : TracksAnalyzers project draft) (sensible : Sensible closes represent) :
    Transition.Committable closes represent project draft.changes where
  booked := references.booked
  contents_distinct := by
    rw [sensible.filterMap_content?]
    exact draft.changes.metadataReferences.added.nodup.filter _
  unclosed := sensible.unclosed
  added_fresh reference waits := by
    have fresh := references.direct.not_committed waits
    simpa using fresh
  removed_held reference waits := references.direct.committed_of_removed waits
  analyzers_absent reference waits := analyzers.tracks.not_committed waits
  analyzers_present reference waits := analyzers.tracks.committed_of_removed waits

/-- Once the documents that wait have been committed, the rest can be too unless it is stale. -/
theorem TracksReferences.stale_of_changes_error {middle : Project}
    (references : TracksReferences project draft) (analyzers : TracksAnalyzers project draft)
    (sensible : Sensible closes represent)
    (documents_done : Transition.effects closes project (Transition.documentPlan draft) =
      .ok middle)
    (failed : Transition.effects closes middle (FlushPlan.changes represent draft.changes) =
      .error fault) :
    Transition.Stale closes represent project draft.changes fault := by
  have same := Transition.references_effects
    (Transition.part_of_documentPlan_ne (by simp)) documents_done
  have analyzers_eq := Transition.analyzers_effects
    (Transition.part_of_documentPlan_ne (by simp)) documents_done
  have id_eq := Transition.id_eq_of_effects documents_done
  have listed := references.booked.lists.of_same same
  have committable := references.committable analyzers sensible
  have stale := Transition.stale_of_changes_error
    { committable with
      booked := listed.booked
      added_fresh := fun reference waits => by
        rw [listed.holding_eq]
        exact committable.added_fresh reference waits
      removed_held := fun reference waits => by
        rw [listed.holding_eq]
        exact committable.removed_held reference waits
      analyzers_absent := analyzers_eq ▸ committable.analyzers_absent
      analyzers_present := analyzers_eq ▸ committable.analyzers_present } failed
  cases stale with
  | listed waits represented present =>
    rw [id_eq]
    rw [same.1] at present
    exact .listed waits represented present
  | closing waits closed =>
    rw [id_eq]
    exact .closing waits closed

/-- What waits in a draft that is in step can be committed unless it is stale. -/
theorem InStep.stale_of_plan_error (inStep : InStep comparison project draft)
    (sensible : Sensible closes represent)
    (failed : Transition.effects closes project (draft.planBy represent) = .error fault) :
    Transition.Stale closes represent project draft.changes fault := by
  rw [Transition.planBy_eq] at failed
  obtain ⟨reached, completed⟩ := inStep.mirrors.documentPlan_completes closes
  rcases Transition.effects_append_error failed with here | ⟨middle, documents_done, failed⟩
  · rw [completed] at here
    cases here
  · exact inStep.references.stale_of_changes_error inStep.analyzers sensible documents_done failed

/-- A document that the draft does not know can be added. -/
theorem Mirrors.insert_completes (mirrors : Mirrors comparison project draft)
    (collection : DocumentCollection) {document : Document} (fresh : document.id ∉ draft.ids) :
    ∃ changed, (Transition.addDocuments collection [document]).effect closes project =
      .ok changed := by
  have absent : ∀ added ∈ [document], added.id ∉ (project.documents collection).keys := by
    intro added added_mem known
    rw [List.mem_singleton.mp added_mem] at known
    exact fresh (mem_ids.mpr ⟨collection, (mirrors collection).mirrors.known known⟩)
  obtain ⟨reached, added⟩ := Project.addEach_completes project.id absent (by simp)
  exact ⟨_, Project.addDocuments_ok_iff.mpr ⟨reached, added, rfl⟩⟩

/-- A tracked document can be removed if nothing waits. -/
theorem Mirrors.remove_completes (mirrors : Mirrors comparison project draft)
    (settled : draft.hasPending = false) {collection : DocumentCollection} {id : DocumentId}
    (tracked : (draft.registry collection).isTracked id = true) :
    ∃ changed, (Transition.removeDocuments collection [id]).effect closes project =
      .ok changed := by
  have mirrored := (mirrors collection).mirrors
  obtain ⟨entry, found, state⟩ := Registry.committed_of_tracked mirrored
    (pendingAdds_of_settled settled collection) tracked
  have present : ∀ removed ∈ [id], removed ∈ (project.documents collection).keys := by
    intro removed removed_mem
    rw [List.mem_singleton.mp removed_mem]
    exact mirrored.mem_keys_iff.mpr ⟨_, found, by simp [state]⟩
  obtain ⟨reached, removed⟩ := Project.removeEach_completes project.id present (by simp)
  exact ⟨_, Project.removeDocuments_ok_iff.mpr ⟨reached, removed, rfl⟩⟩

/-- An action that is allowed while nothing waits and is not about documents can be committed
unless it adds a metadata reference that is listed already. -/
theorem TracksReferences.listed_of_action_error (references : TracksReferences project draft)
    (analyzers : TracksAnalyzers project draft) (sensible : Sensible closes represent)
    (settled : draft.hasPending = false) (allowed : action.Allowed draft)
    (elsewhere : ∀ collection, (action.transition represent).part ≠ .documents collection)
    (open_target : ∀ reference, action = .addProjectReference reference →
      closes reference.target = false)
    (failed : (action.transition represent).effect closes project = .error fault) :
    ∃ reference, action = .addMetadataReference reference ∧
      represent reference = .content reference ∧ reference ∈ project.metadataReferences ∧
        fault = .duplicateReference project.id reference.path := by
  have nothing := changes_of_settled settled
  have direct := references.direct
  have tracks := analyzers.tracks
  rw [nothing] at direct tracks
  have impossible {value : Except Fault Project} (completes : ∃ reached, value = .ok reached)
      (failed : value = .error fault) : False := by
    obtain ⟨reached, completed⟩ := completes
    rw [completed] at failed
    cases failed
  cases action with
  | insert collection document buffer? watch? => exact absurd rfl (elsewhere collection)
  | remove collection id => exact absurd rfl (elsewhere collection)
  | addMetadataReference reference =>
    obtain ⟨other, other_mem, kept, represented, present, fault_eq⟩ :=
      Transition.addReferences_error references.booked
        (by rw [sensible.filterMap_content?]; exact List.Nodup.filter _ (by simp))
        (fun other _ => sensible.unclosed other) (effects_single_error failed)
    cases List.mem_singleton.mp other_mem
    cases sensible.same _ _ represented
    exact ⟨reference, rfl, represented, present, fault_eq⟩
  | removeMetadataReference reference =>
    exact (impossible (Transition.removeReference_completes closes project _) failed).elim
  | addProjectReference reference =>
    rcases Project.hold_error failed with ⟨_, held⟩ | ⟨closed, _⟩
    · rcases (direct.committed_iff reference).mp held with ⟨known, _⟩ | leaves
      · exact absurd known (not_mem_of_referenceTo?_eq_none allowed)
      · exact absurd leaves (OrderedSet.not_mem_empty _)
    · rw [open_target reference rfl] at closed
      cases closed
  | removeProjectReference reference =>
    have held := (direct.committed_iff reference).mpr
      (Or.inl ⟨allowed, OrderedSet.not_mem_empty _⟩)
    exact (impossible (Project.release_completes (show (project.holding reference).includes
      .direct = true from held)) failed).elim
  | addAnalyzer reference =>
    have absent : reference ∉ project.analyzerReferences := by
      intro present
      rcases (tracks.committed_iff reference).mp present with ⟨known, _⟩ | leaves
      · exact allowed known
      · exact OrderedSet.not_mem_empty _ leaves
    simp [Action.transition, Transition.effect, Project.addAnalyzerReference, absent] at failed
  | removeAnalyzer reference =>
    have present := (tracks.committed_iff reference).mpr
      (Or.inl ⟨allowed, OrderedSet.not_mem_empty _⟩)
    simp [Action.transition, Transition.effect, Project.removeAnalyzerReference, present] at failed
  | setProperty property => cases failed

/-- An action that is allowed while nothing waits can be committed unless it adds a metadata
reference that is listed already. -/
theorem InStep.listed_of_action_error (inStep : InStep comparison project draft)
    (sensible : Sensible closes represent) (settled : draft.hasPending = false)
    (allowed : action.Allowed draft) (fresh : ∀ id ∈ action.drawn, id ∉ draft.ids)
    (open_target : ∀ reference, action = .addProjectReference reference →
      closes reference.target = false)
    (failed : (action.transition represent).effect closes project = .error fault) :
    ∃ reference, action = .addMetadataReference reference ∧
      represent reference = .content reference ∧ reference ∈ project.metadataReferences ∧
        fault = .duplicateReference project.id reference.path := by
  by_cases elsewhere :
    ∀ collection, (action.transition represent).part ≠ .documents collection
  · exact inStep.references.listed_of_action_error inStep.analyzers sensible settled allowed
      elsewhere open_target failed
  · obtain ⟨changed, completed⟩ : ∃ changed,
        (action.transition represent).effect closes project = .ok changed := by
      cases action with
      | insert collection document buffer? watch? =>
        exact inStep.mirrors.insert_completes collection (fresh _ List.mem_cons_self)
      | remove collection id => exact inStep.mirrors.remove_completes settled allowed
      | _ => exact absurd (by simp [Action.transition, Transition.part]) elsewhere
    rw [completed] at failed
    cases failed

/-- A document that is loaded anew can be committed. -/
theorem InStep.reload_completes (inStep : InStep comparison project draft)
    {collection : DocumentCollection} {path : String} {id : DocumentId} {loader : Loader}
    (candidate : (draft.registry collection).reloadCandidate? path = some (id, loader)) :
    ∃ changed, (Transition.reloadDocument collection id loader).effect closes project =
      .ok changed := by
  obtain ⟨entry, found, state, _⟩ := Registry.committed_of_reloadCandidate candidate
  have present := (inStep.mirrors collection).mirrors.mem_keys_iff.mpr ⟨_, found, by simp [state]⟩
  exact ⟨_, Project.replaceLoader_ok_iff.mpr
    ⟨OrderedMap.contains_iff_mem_keys.mpr present, rfl⟩⟩

end Draft

end CodeWorkspace
