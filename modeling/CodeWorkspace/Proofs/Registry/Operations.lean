import CodeWorkspace.Registry

/-!
# What the operations on a registry come to

Removing a document in a batch comes to one of three things: a document that waits to be added is
taken back, a committed one waits to leave from now on, and otherwise nothing happens.  No operation
changes the collection of a registry or how it compares paths.
-/

namespace CodeWorkspace

/-- The entry of a document once it waits to leave. -/
def RegistryEntry.leaving (entry : RegistryEntry) : RegistryEntry :=
  { entry with state := .pendingRemove, watch? := none }

@[simp]
theorem RegistryEntry.state_leaving (entry : RegistryEntry) :
    entry.leaving.state = .pendingRemove := rfl

@[simp]
theorem RegistryEntry.watch?_leaving (entry : RegistryEntry) : entry.leaving.watch? = none := rfl

/-- The entry of a document with another loader. -/
def RegistryEntry.withLoader (entry : RegistryEntry) (loader : Loader) : RegistryEntry :=
  { entry with document := { entry.document with loader := loader } }

namespace Registry

variable {registry after : Registry}

theorem entry?_eq (registry : Registry) (id : DocumentId) :
    registry.entry? id = registry.entries.get? id := rfl

/-! ## Removing a document in a batch -/

/-- The registry once a document that waited to be added is taken back. -/
def cancelled (registry : Registry) (id : DocumentId) (entry : RegistryEntry) : Registry :=
  { registry.dropEntry id entry with
    pendingAdds := registry.pendingAdds.filter fun other => other ≠ id }

/-- The registry once a committed document waits to leave. -/
def deferred (registry : Registry) (id : DocumentId) : Registry :=
  { registry with
    entries := registry.entries.adjust id .leaving
    pendingRemoves := registry.pendingRemoves ++ [id] }

theorem entries_cancelled (registry : Registry) (id : DocumentId) (entry : RegistryEntry) :
    (registry.cancelled id entry).entries = registry.entries.erase id := rfl

theorem entries_deferred (registry : Registry) (id : DocumentId) :
    (registry.deferred id).entries = registry.entries.adjust id .leaving := rfl

theorem pendingRemoves_deferred (registry : Registry) (id : DocumentId) :
    (registry.deferred id).pendingRemoves = registry.pendingRemoves ++ [id] := rfl

theorem removeInBatch_eq_cancelled {id : DocumentId} {entry : RegistryEntry}
    (found : registry.entries.get? id = some entry) (state : entry.state = .pendingAdd) :
    registry.removeInBatch id = (some (.cancelled entry.watch?), registry.cancelled id entry) := by
  simp only [removeInBatch, entry?_eq, found, state, cancelled]

theorem removeInBatch_eq_deferred {id : DocumentId} {entry : RegistryEntry}
    (found : registry.entries.get? id = some entry) (state : entry.state = .committed) :
    registry.removeInBatch id = (some (.deferred entry.watch?), registry.deferred id) := by
  simp only [removeInBatch, entry?_eq, found, state]
  rfl

theorem removeInBatch_eq_none {id : DocumentId} (untracked : registry.isTracked id = false) :
    registry.removeInBatch id = (none, registry) := by
  rw [isTracked, entry?_eq] at untracked
  cases found : registry.entries.get? id with
  | none => simp only [removeInBatch, entry?_eq, found]
  | some entry =>
    have state : entry.state = .pendingRemove := by simpa [found] using untracked
    simp only [removeInBatch, entry?_eq, found, state]

/-- All that removing a document in a batch can come to. -/
theorem removeInBatch_cases (registry : Registry) (id : DocumentId) :
    (∃ entry, registry.entries.get? id = some entry ∧ entry.state = .pendingAdd ∧
      registry.removeInBatch id = (some (.cancelled entry.watch?), registry.cancelled id entry)) ∨
    (∃ entry, registry.entries.get? id = some entry ∧ entry.state = .committed ∧
      registry.removeInBatch id = (some (.deferred entry.watch?), registry.deferred id)) ∨
    registry.isTracked id = false ∧ registry.removeInBatch id = (none, registry) := by
  cases tracked : registry.isTracked id with
  | false => exact Or.inr (Or.inr ⟨rfl, removeInBatch_eq_none tracked⟩)
  | true =>
    rw [isTracked, entry?_eq] at tracked
    cases found : registry.entries.get? id with
    | none => simp [found] at tracked
    | some entry =>
      cases state : entry.state with
      | pendingAdd => exact Or.inl ⟨entry, rfl, state, removeInBatch_eq_cancelled found state⟩
      | committed =>
        exact Or.inr (Or.inl ⟨entry, rfl, state, removeInBatch_eq_deferred found state⟩)
      | pendingRemove => simp [found, state] at tracked

/-! ## What no operation changes -/

/-- Two registries of the same collection that compare paths the same way. -/
structure SameUse (registry after : Registry) : Prop where
  collection_eq : after.collection = registry.collection
  comparison_eq : after.comparison = registry.comparison

theorem SameUse.trans {last : Registry} (first : SameUse registry after)
    (second : SameUse after last) : SameUse registry last :=
  ⟨second.collection_eq.trans first.collection_eq, second.comparison_eq.trans first.comparison_eq⟩

theorem sameUse_insert (registry : Registry) (document : Document) (buffer? : Option BufferId)
    (watch? : Option WatchToken) (state : EntryState) :
    SameUse registry (registry.insert document buffer? watch? state) := ⟨rfl, rfl⟩

theorem sameUse_removeInBatch (registry : Registry) (id : DocumentId) :
    SameUse registry (registry.removeInBatch id).2 := by
  obtain ⟨entry, -, -, removal⟩ | ⟨entry, -, -, removal⟩ | ⟨-, removal⟩ :=
    registry.removeInBatch_cases id
  all_goals
    rw [removal]
    exact ⟨rfl, rfl⟩

theorem sameUse_forget (registry : Registry) (id : DocumentId) :
    SameUse registry (registry.forget id).2 := by
  rw [forget]
  split <;> exact ⟨rfl, rfl⟩

theorem sameUse_forgetEach (registry : Registry) (ids : List DocumentId) :
    SameUse registry (registry.forgetEach ids).2 := by
  induction ids generalizing registry with
  | nil => exact ⟨rfl, rfl⟩
  | cons id rest ih => exact (registry.sameUse_forget id).trans (ih _)

theorem sameUse_settleEach (registry : Registry) (ids : List DocumentId) :
    SameUse registry (ids.foldl settle registry) := by
  induction ids generalizing registry with
  | nil => exact ⟨rfl, rfl⟩
  | cons id rest ih =>
    have settled : SameUse registry (registry.settle id) := ⟨rfl, rfl⟩
    exact settled.trans (ih _)

theorem sameUse_completeFlush (registry : Registry) :
    SameUse registry registry.completeFlush.2 := by
  have settled := registry.sameUse_settleEach registry.pendingAdds
  have left := (registry.pendingAdds.foldl settle registry).sameUse_forgetEach
    registry.pendingRemoves
  exact ⟨(settled.trans left).collection_eq, (settled.trans left).comparison_eq⟩

theorem sameUse_drainAll (registry : Registry) : SameUse registry registry.drainAll.2 := by
  have left := registry.sameUse_forgetEach registry.entries.keys
  exact ⟨left.collection_eq, left.comparison_eq⟩

end Registry

end CodeWorkspace
