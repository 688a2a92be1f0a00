import CodeWorkspace.Proofs.Draft.InStep
import CodeWorkspace.Proofs.Registry.Tracked

/-!
# What a draft shows

What a draft shows of its project are the tracked documents and references and the properties.  An
action changes them in the same way whether it is put off or committed at once.
-/

namespace CodeWorkspace

namespace Draft

variable {comparison : PathComparison} {project : Project} {draft single batched : Draft}
  {action other : Action}

/-- Two actions that differ in the watch on a file at most. -/
inductive Action.Alike : Action → Action → Prop where
  | insert (collection : DocumentCollection) (document : Document) (buffer? : Option BufferId)
      (watch? other? : Option WatchToken) :
      Alike (.insert collection document buffer? watch?)
        (.insert collection document buffer? other?)
  | same (action : Action) : Alike action action

theorem Action.Alike.answer_eq (alike : Alike action other) : other.answer = action.answer := by
  cases alike <;> rfl

theorem Action.Alike.drawn_eq (alike : Alike action other) : other.drawn = action.drawn := by
  cases alike <;> rfl

/-- Two drafts of the same project that show the same things. -/
structure SameFacade (single batched : Draft) : Prop where
  id_eq : batched.id = single.id
  documents : ∀ collection,
    (single.registry collection).SameTracked (batched.registry collection)
  metadata_eq : batched.metadataReferences = single.metadataReferences
  projects_eq : batched.projectReferences = single.projectReferences
  analyzers_eq : batched.analyzerReferences = single.analyzerReferences
  properties_eq : batched.properties = single.properties

theorem SameFacade.refl (draft : Draft) : SameFacade draft draft :=
  ⟨rfl, fun _ => ⟨rfl, rfl, rfl⟩, rfl, rfl, rfl, rfl⟩

theorem sameFacade_settle (mirrors : Mirrors comparison project draft) :
    SameFacade draft draft.settle.2 := by
  refine ⟨rfl, fun collection => ?_, rfl, rfl, rfl, rfl⟩
  have used := (draft.registry collection).sameUse_completeFlush
  rw [settle_registry]
  exact ⟨used.collection_eq, used.comparison_eq,
    Registry.tracked_completeFlush (mirrors collection).mirrors.toConsistent⟩

theorem SameFacade.trans {last : Draft} (first : SameFacade draft single)
    (second : SameFacade single last) : SameFacade draft last :=
  ⟨second.id_eq.trans first.id_eq,
    fun collection =>
      ⟨(second.documents collection).collection_eq.trans (first.documents collection).collection_eq,
        (second.documents collection).comparison_eq.trans
          (first.documents collection).comparison_eq,
        (second.documents collection).tracked_eq.trans (first.documents collection).tracked_eq⟩,
    second.metadata_eq.trans first.metadata_eq, second.projects_eq.trans first.projects_eq,
    second.analyzers_eq.trans first.analyzers_eq, second.properties_eq.trans first.properties_eq⟩

theorem SameFacade.withRegistry (same : SameFacade single batched)
    {collection : DocumentCollection} {first second : Registry}
    (tracked : first.SameTracked second) :
    SameFacade (single.withRegistry first collection) (batched.withRegistry second collection) := by
  refine ⟨?_, fun there => ?_, ?_, ?_, ?_, ?_⟩
  · cases collection <;> exact same.id_eq
  · by_cases here : there = collection
    · subst here
      rw [registry_withRegistry_self, registry_withRegistry_self]
      exact tracked
    · rw [registry_withRegistry_of_ne here, registry_withRegistry_of_ne here]
      exact same.documents there
  · cases collection <;> exact same.metadata_eq
  · cases collection <;> exact same.projects_eq
  · cases collection <;> exact same.analyzers_eq
  · cases collection <;> exact same.properties_eq

theorem SameFacade.insert (same : SameFacade single batched) {collection : DocumentCollection}
    {document : Document} {buffer? : Option BufferId} {watch? other? : Option WatchToken}
    (single_fresh : document.id ∉ single.ids) (batched_fresh : document.id ∉ batched.ids) :
    SameFacade
      (single.withRegistry
        ((single.registry collection).insert document buffer? watch? .committed) collection)
      (batched.withRegistry
        ((batched.registry collection).insert document buffer? other? .pendingAdd) collection) := by
  obtain ⟨collection_eq, comparison_eq, tracked_eq⟩ := same.documents collection
  refine same.withRegistry ⟨collection_eq, comparison_eq, ?_⟩
  rw [Registry.tracked_insert (fun known => single_fresh (mem_ids.mpr ⟨collection, known⟩))
      (by decide),
    Registry.tracked_insert (fun known => batched_fresh (mem_ids.mpr ⟨collection, known⟩))
      (by decide), tracked_eq]

theorem SameFacade.remove (same : SameFacade single batched) {collection : DocumentCollection}
    {id : DocumentId} (present : (batched.registry collection).isTracked id = true) :
    SameFacade (single.withRegistry ((single.registry collection).forget id).2 collection)
      (batched.withRegistry ((batched.registry collection).removeInBatch id).2 collection) := by
  obtain ⟨collection_eq, comparison_eq, tracked_eq⟩ := same.documents collection
  have single_use := (single.registry collection).sameUse_forget id
  have batched_use := (batched.registry collection).sameUse_removeInBatch id
  refine same.withRegistry ⟨?_, ?_, ?_⟩
  · rw [batched_use.collection_eq, single_use.collection_eq, collection_eq]
  · rw [batched_use.comparison_eq, single_use.comparison_eq, comparison_eq]
  · rw [Registry.tracked_removeInBatch present, Registry.tracked_forget, tracked_eq]

/-- An action that is committed in one draft and put off in the other one shows in both of them. -/
theorem SameFacade.act (same : SameFacade single batched) (alike : action.Alike other)
    (allowed : other.Allowed batched)
    (fresh : ∀ id ∈ action.drawn, id ∉ single.ids ∧ id ∉ batched.ids) :
    SameFacade (action.now single) (other.later batched) := by
  cases alike with
  | insert collection document buffer? watch? other? =>
    obtain ⟨single_fresh, batched_fresh⟩ := fresh document.id List.mem_cons_self
    exact same.insert single_fresh batched_fresh
  | same =>
    cases action with
    | insert collection document buffer? watch? =>
      obtain ⟨single_fresh, batched_fresh⟩ := fresh document.id List.mem_cons_self
      exact same.insert single_fresh batched_fresh
    | remove collection id => exact same.remove allowed
    | _ =>
      refine ⟨same.id_eq, fun collection => ?_, ?_, ?_, ?_, ?_⟩
      · cases collection with
        | source => exact same.documents .source
        | additional => exact same.documents .additional
      · simp only [Action.now, Action.later, same.metadata_eq]
      · simp only [Action.now, Action.later, same.projects_eq]
      · simp only [Action.now, Action.later, same.analyzers_eq]
      · simp only [Action.now, Action.later, same.properties_eq]

/-! ## Batches and what waits -/

theorem batches_later (draft : Draft) (action : Action) :
    (action.later draft).batches = draft.batches := by
  cases action with
  | insert collection _ _ _ => cases collection <;> rfl
  | remove collection _ => cases collection <;> rfl
  | _ => rfl

theorem batches_now (draft : Draft) (action : Action) :
    (action.now draft).batches = draft.batches := by
  cases action with
  | insert collection _ _ _ => cases collection <;> rfl
  | remove collection _ => cases collection <;> rfl
  | _ => rfl

theorem hasPending_withRegistry {collection : DocumentCollection} {registry : Registry}
    (same : registry.hasPending = (draft.registry collection).hasPending) :
    (draft.withRegistry registry collection).hasPending = draft.hasPending := by
  cases collection <;> simp only [hasPending, Draft.withRegistry, same] <;> rfl

theorem hasPending_forget (registry : Registry) (id : DocumentId) :
    (registry.forget id).2.hasPending = registry.hasPending := by
  rw [Registry.forget]
  split <;> rfl

/-- Nothing waits after an action that was committed at once. -/
theorem hasPending_now (draft : Draft) (action : Action) :
    (action.now draft).hasPending = draft.hasPending := by
  cases action with
  | insert collection document buffer? watch? => exact hasPending_withRegistry rfl
  | remove collection id => exact hasPending_withRegistry (hasPending_forget _ id)
  | _ => rfl

end Draft

end CodeWorkspace
