import CodeWorkspace.Proofs.FlushPlan.Documents
import CodeWorkspace.Proofs.Workspace.Invariant

/-!
# Documents of a draft and of its project

Each registry of a draft mirrors the documents that the project has in its collection.  Every move
keeps this, and so it holds in all workspaces that can be reached.
-/

namespace CodeWorkspace

namespace Registry

variable {registry after : Registry} {id : DocumentId}

/-- The registry of a collection that mirrors its documents. -/
structure Serves (comparison : PathComparison) (collection : DocumentCollection)
    (documents : Documents) (registry : Registry) : Prop where
  collection_eq : registry.collection = collection
  comparison_eq : registry.comparison = comparison
  mirrors : registry.Mirrors documents

variable {comparison : PathComparison} {collection : DocumentCollection}
  {documents changed : Documents}

theorem Serves.of_sameUse (serves : registry.Serves comparison collection documents)
    (same : SameUse registry after) (mirrors : after.Mirrors changed) :
    after.Serves comparison collection changed :=
  ⟨same.collection_eq.trans serves.collection_eq, same.comparison_eq.trans serves.comparison_eq,
    mirrors⟩

/-- A tracked document that does not wait to be added is committed. -/
theorem committed_of_tracked (mirrors : registry.Mirrors documents)
    (settled : registry.pendingAdds = []) (tracked : registry.isTracked id = true) :
    ∃ entry, registry.entries.get? id = some entry ∧ entry.state = .committed := by
  rw [isTracked, entry?_eq] at tracked
  split at tracked
  · cases tracked
  · rename_i entry found
    refine ⟨entry, found, ?_⟩
    cases state : entry.state with
    | committed => rfl
    | pendingRemove => simp [state] at tracked
    | pendingAdd =>
      have waits : (id, entry) ∈ registry.waiting := by
        refine List.mem_filter.mpr ⟨mem_entries_iff.mpr found, ?_⟩
        simp [RegistryEntry.isVisible, state]
      have adds := mirrors.adds_eq
      rw [settled] at adds
      rw [List.map_eq_nil_iff.mp adds.symm] at waits
      cases waits

/-- The document that is to be loaded anew is committed, comes from a file and goes on doing so. -/
theorem committed_of_reloadCandidate {path : String} {loader : Loader}
    (candidate : registry.reloadCandidate? path = some (id, loader)) :
    ∃ entry, registry.entries.get? id = some entry ∧ entry.state = .committed ∧
      loader.held? = entry.document.loader.held? := by
  simp only [reloadCandidate?, entry?_eq, Option.bind_eq_bind, Option.bind_eq_some_iff,
    Option.ite_none_right_eq_some, Option.some_inj, Prod.mk.injEq] at candidate
  obtain ⟨other, _, entry, found, ⟨state, _⟩, rfl, rfl⟩ := candidate
  refine ⟨entry, found, state, ?_⟩
  cases entry.document.loader <;> rfl

end Registry

namespace Draft

variable {comparison : PathComparison} {project changed : Project} {draft after : Draft}

/-- Each registry of a draft mirrors the documents of the project. -/
def Mirrors (comparison : PathComparison) (project : Project) (draft : Draft) : Prop :=
  ∀ collection, (draft.registry collection).Serves comparison collection
    (project.documents collection)

theorem Mirrors.withRegistry (mirrors : Mirrors comparison project draft)
    {collection : DocumentCollection} {registry : Registry} {documents : Documents}
    (serves : registry.Serves comparison collection documents) :
    Mirrors comparison (project.withDocuments documents collection)
      (draft.withRegistry registry collection) := by
  intro other
  by_cases same : other = collection
  · subst same
    rw [registry_withRegistry_self, Project.documents_withDocuments_self]
    exact serves
  · rw [registry_withRegistry_of_ne same, Project.documents_withDocuments_of_ne same]
    exact mirrors other

theorem Mirrors.withRegistry_only (mirrors : Mirrors comparison project draft)
    {collection : DocumentCollection} {registry : Registry}
    (serves : registry.Serves comparison collection (project.documents collection)) :
    Mirrors comparison project (draft.withRegistry registry collection) := by
  have both := mirrors.withRegistry serves
  rwa [Project.withDocuments_documents] at both

theorem Mirrors.of_same (mirrors : Mirrors comparison project draft)
    (registry_eq : ∀ collection, after.registry collection = draft.registry collection)
    (documents_eq : ∀ collection, changed.documents collection = project.documents collection) :
    Mirrors comparison changed after := by
  intro collection
  rw [registry_eq, documents_eq]
  exact mirrors collection

theorem Mirrors.later (mirrors : Mirrors comparison project draft) {action : Action}
    (allowed : action.Allowed draft) (fresh : ∀ id ∈ action.drawn, id ∉ draft.ids) :
    Mirrors comparison project (action.later draft) := by
  cases action with
  | insert collection document buffer? watch? =>
    have absent : document.id ∉ (draft.registry collection).entries.keys := fun known =>
      fresh document.id List.mem_cons_self (mem_ids.mpr ⟨collection, known⟩)
    have inserted : ((draft.registry collection).insert document buffer? watch?
        .pendingAdd).Mirrors (project.documents collection) :=
      (mirrors collection).mirrors.insert_pendingAdd absent allowed.2 allowed.1
    exact mirrors.withRegistry_only
      ((mirrors collection).of_sameUse (Registry.sameUse_insert _ _ _ _ _) inserted)
  | remove collection id =>
    exact mirrors.withRegistry_only ((mirrors collection).of_sameUse
      (Registry.sameUse_removeInBatch _ id) ((mirrors collection).mirrors.removeInBatch id))
  | _ => exact mirrors.of_same (fun collection => by cases collection <;> rfl) fun _ => rfl

theorem pendingAdds_of_settled (settled : draft.hasPending = false)
    (collection : DocumentCollection) : (draft.registry collection).pendingAdds = [] := by
  simp only [hasPending, Registry.hasPending, Bool.or_eq_false_iff, Bool.not_eq_false',
    List.isEmpty_iff] at settled
  cases collection with
  | source => exact settled.1.1.1
  | additional => exact settled.1.2.1

theorem Mirrors.now (mirrors : Mirrors comparison project draft) {action : Action}
    {closes : ProjectId → Bool} {represent : MetadataReference → Representation}
    (settled : draft.hasPending = false) (allowed : action.Allowed draft)
    (committed : (action.transition represent).effect closes project = .ok changed)
    (fresh : ∀ id ∈ action.drawn, id ∉ draft.ids) :
    Mirrors comparison changed (action.now draft) := by
  have others (collection : DocumentCollection)
      (elsewhere : (action.transition represent).part ≠ .documents collection) :
      changed.documents collection = project.documents collection :=
    Project.documents_of_sameBut (Transition.sameBut_of_effect committed) elsewhere
  cases action with
  | insert collection document buffer? watch? =>
    have absent : document.id ∉ (draft.registry collection).entries.keys := fun known =>
      fresh document.id List.mem_cons_self (mem_ids.mpr ⟨collection, known⟩)
    obtain ⟨reached, added, rfl⟩ := Project.addDocuments_ok_iff.mp committed
    have inserted : ((draft.registry collection).insert document buffer? watch?
        .committed).Mirrors reached :=
      (mirrors collection).mirrors.insert_committed absent allowed.2 allowed.1
        (pendingAdds_of_settled settled collection) (Project.entries_addEach added)
    exact mirrors.withRegistry
      ((mirrors collection).of_sameUse (Registry.sameUse_insert _ _ _ _ _) inserted)
  | remove collection id =>
    obtain ⟨reached, removed, rfl⟩ := Project.removeDocuments_ok_iff.mp committed
    obtain ⟨entry, found, state⟩ := Registry.committed_of_tracked (mirrors collection).mirrors
      (pendingAdds_of_settled settled collection) allowed
    have left : ((draft.registry collection).forget id).2.Mirrors reached :=
      (mirrors collection).mirrors.forget found state
        (by simpa using Project.entries_removeEach removed)
    exact mirrors.withRegistry
      ((mirrors collection).of_sameUse (Registry.sameUse_forget _ id) left)
  | _ =>
    exact mirrors.of_same (fun collection => by cases collection <;> rfl) fun collection =>
      others collection (by simp [Action.transition, Transition.part])

theorem Mirrors.settle (mirrors : Mirrors comparison project draft)
    {closes : ProjectId → Bool} {represent : MetadataReference → Representation}
    (committed : Transition.effects closes project (draft.planBy represent) = .ok changed) :
    Mirrors comparison changed draft.settle.2 := by
  intro collection
  rw [settle_registry]
  refine (mirrors collection).of_sameUse (Registry.sameUse_completeFlush _)
    ((mirrors collection).mirrors.completeFlush ?_)
  exact Transition.documents_of_plan committed (fun collection =>
    (mirrors collection).collection_eq) collection

/-- Whatever move is made, the registries go on mirroring the documents of the project. -/
theorem Mirrors.move {drawn : List DocumentId} (mirrors : Mirrors comparison project draft)
    (fresh : ∀ id ∈ drawn, id ∉ draft.ids) (move : Move project draft drawn changed after) :
    Mirrors comparison changed after := by
  cases move with
  | later _ allowed => exact mirrors.later allowed fresh
  | now closes represent settled allowed committed =>
    exact mirrors.now settled allowed committed fresh
  | flush closes represent committed => exact mirrors.settle committed
  | @reload _ closes collection path id loader candidate committed =>
    obtain ⟨entry, found, _, same_held⟩ := Registry.committed_of_reloadCandidate candidate
    obtain ⟨_, rfl⟩ := Project.replaceLoader_ok_iff.mp committed
    exact mirrors.withRegistry ((mirrors collection).of_sameUse ⟨rfl, rfl⟩
      ((mirrors collection).mirrors.setLoader found same_held rfl))
  | batches batches =>
    exact mirrors.of_same (fun collection => by cases collection <;> rfl) fun _ => rfl

theorem documents_cutOff (target : ProjectId) (project : Project)
    (collection : DocumentCollection) :
    (Snapshot.cutOff target project).documents collection = project.documents collection := by
  rw [Snapshot.cutOff]
  split
  · cases collection <;> rfl
  · rfl

theorem kept_mirrors (comparison : PathComparison) : Kept comparison (Mirrors comparison) where
  created info collection := by
    have mirrors := Registry.mirrors_empty collection comparison
    cases collection <;> exact ⟨rfl, rfl, mirrors⟩
  moved mirrors fresh move := mirrors.move fresh move
  forgot target mirrors :=
    mirrors.of_same (fun collection => by cases collection <;> rfl) (documents_cutOff target _)

/-- No document is in two collections. -/
def Separate (draft : Draft) : Prop :=
  ∀ (first second : DocumentCollection) id, id ∈ (draft.registry first).entries.keys →
    id ∈ (draft.registry second).entries.keys → first = second

theorem Separate.insert (separate : draft.Separate) {collection : DocumentCollection}
    {document : Document} (fresh : document.id ∉ draft.ids) (buffer? : Option BufferId)
    (watch? : Option WatchToken) (state : EntryState) :
    (draft.withRegistry ((draft.registry collection).insert document buffer? watch? state)
      collection).Separate := by
  have known {other : DocumentCollection} {id : DocumentId}
      (id_mem : id ∈ ((draft.withRegistry ((draft.registry collection).insert document buffer?
        watch? state) collection).registry other).entries.keys) :
      id ∈ (draft.registry other).entries.keys ∨ id = document.id ∧ other = collection := by
    by_cases same : other = collection
    · subst same
      rw [registry_withRegistry_self] at id_mem
      exact (Registry.mem_keys_insert.mp id_mem).imp_right fun equal => ⟨equal, rfl⟩
    · rw [registry_withRegistry_of_ne same] at id_mem
      exact Or.inl id_mem
  intro first second id in_first in_second
  rcases known in_first with old | ⟨rfl, rfl⟩
  · rcases known in_second with old_too | ⟨rfl, _⟩
    · exact separate first second id old old_too
    · exact absurd (mem_ids.mpr ⟨first, old⟩) fresh
  · rcases known in_second with old_too | ⟨_, same⟩
    · exact absurd (mem_ids.mpr ⟨second, old_too⟩) fresh
    · exact same.symm

theorem Separate.move {drawn : List DocumentId} (separate : draft.Separate)
    (fresh : ∀ id ∈ drawn, id ∉ draft.ids) (move : Move project draft drawn changed after) :
    after.Separate := by
  have within (nothing : drawn = []) : after.Separate := by
    subst nothing
    intro first second id in_first in_second
    exact separate first second id ((move.keys_subset in_first).resolve_right List.not_mem_nil)
      ((move.keys_subset in_second).resolve_right List.not_mem_nil)
  cases move with
  | @later action _ _ =>
    cases action with
    | insert collection document buffer? watch? =>
      exact separate.insert (fresh document.id List.mem_cons_self) buffer? watch? _
    | _ => exact within rfl
  | @now action _ _ _ _ _ _ =>
    cases action with
    | insert collection document buffer? watch? =>
      exact separate.insert (fresh document.id List.mem_cons_self) buffer? watch? _
    | _ => exact within rfl
  | flush _ _ _ => exact within rfl
  | reload _ _ _ _ => exact within rfl
  | batches _ => exact within rfl

theorem kept_separate (comparison : PathComparison) :
    Kept comparison fun _ draft => draft.Separate where
  created _ _ _ _ known := by
    rename_i first _ _
    cases first <;> cases known
  moved separate fresh move := separate.move fresh move
  forgot target separate first second id in_first in_second := by
    refine separate first second id ?_ ?_
    · cases first <;> exact in_first
    · cases second <;> exact in_second

end Draft

end CodeWorkspace
