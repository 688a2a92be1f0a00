import CodeWorkspace.Proofs.Registry.Tracked

/-!
# Registries in use

A project adds a document to a registry after it made sure that neither its path nor its buffer is
taken, forgets documents that are in the snapshot, and otherwise does as it likes.  However long a
registry is used in this way, paths and buffers find exactly its entries, each at most one, and the
lists of what waits name exactly the entries that wait.
-/

namespace CodeWorkspace

namespace Registry

/-- An operation on a registry. -/
inductive Operation where
  | insert (document : Document) (buffer? : Option BufferId) (watch? : Option WatchToken)
    (state : EntryState)
  | removeInBatch (id : DocumentId)
  | forget (id : DocumentId)
  | completeFlush
  | drainAll
  | setLoader (id : DocumentId) (loader : Loader)

/-- The registry after an operation. -/
def perform (registry : Registry) : Operation → Registry
  | .insert document buffer? watch? state => registry.insert document buffer? watch? state
  | .removeInBatch id => (registry.removeInBatch id).2
  | .forget id => (registry.forget id).2
  | .completeFlush => registry.completeFlush.2
  | .drainAll => registry.drainAll.2
  | .setLoader id loader => registry.setLoader id loader

/-- The registry after some operations. -/
def performAll (registry : Registry) (operations : List Operation) : Registry :=
  operations.foldl perform registry

/-- Whether a project may do an operation now. -/
def Permits (registry : Registry) : Operation → Prop
  | .insert document buffer? _ state =>
    document.id ∉ registry.entries.keys ∧
      registry.ensureCanAdd document.path? buffer? = .ok () ∧ state ≠ .pendingRemove
  | .forget id => ∀ entry, registry.entry? id = some entry → entry.state = .committed
  | .removeInBatch _ | .completeFlush | .drainAll | .setLoader _ _ => True

/-- Whether a project may do some operations, one after another. -/
def PermitsAll (registry : Registry) : List Operation → Prop
  | [] => True
  | operation :: rest => registry.Permits operation ∧ (registry.perform operation).PermitsAll rest

variable {registry : Registry} {id : DocumentId} {entry : RegistryEntry}

/-! ## Keys and entries -/

section Index

variable {κ : Type} [DecidableEq κ] {index : OrderedMap κ DocumentId}
  {entries : OrderedMap DocumentId RegistryEntry} {pick : RegistryEntry → Option κ} {key : κ}

theorem Indexes.get?_eq_none_iff (indexes : Indexes index entries pick) :
    index.get? key = none ↔
      ∀ id entry, entries.get? id = some entry → pick entry ≠ some key := by
  simp only [Option.eq_none_iff_forall_ne_some, ne_eq, indexes key, not_exists, not_and]

/-- At most one entry has a key. -/
theorem Indexes.eq_of_picked (indexes : Indexes index entries pick) {first second : DocumentId}
    {one other : RegistryEntry} (one_found : entries.get? first = some one)
    (other_found : entries.get? second = some other) (one_picked : pick one = some key)
    (other_picked : pick other = some key) : first = second := by
  have finds_first := (indexes key first).mpr ⟨one, one_found, one_picked⟩
  have finds_second := (indexes key second).mpr ⟨other, other_found, other_picked⟩
  exact Option.some.inj (finds_first.symm.trans finds_second)

end Index

theorem lookupPath_eq_ok_iff {path : String} :
    registry.lookupPath path = .ok id ↔ registry.lookupPath? path = some id := by
  rw [lookupPath]
  cases registry.lookupPath? path <;> simp

theorem lookupBuffer_eq_ok_iff {buffer : BufferId} :
    registry.lookupBuffer buffer = .ok id ↔ registry.lookupBuffer? buffer = some id := by
  rw [lookupBuffer]
  cases registry.lookupBuffer? buffer <;> simp

/-- A document may be added exactly if no entry, whatever its state, has the path or the buffer. -/
theorem Finds.ensureCanAdd_ok_iff (finds : registry.Finds) {path? : Option String}
    {buffer? : Option BufferId} : registry.ensureCanAdd path? buffer? = .ok () ↔
      ∀ id entry, registry.entries.get? id = some entry →
        (∀ path, path? = some path → entry.pathKey? ≠ some (registry.key path)) ∧
          ∀ buffer, buffer? = some buffer → entry.buffer? ≠ some buffer := by
  rw [Registry.ensureCanAdd_ok_iff]
  simp only [finds.byPath.get?_eq_none_iff, finds.byBuffer.get?_eq_none_iff,
    Option.map_eq_some_iff, forall_exists_index, and_imp, forall_apply_eq_imp_iff₂]
  constructor
  · rintro ⟨path_free, buffer_free⟩ id entry found
    exact ⟨fun path same => path_free path same id entry found,
      fun buffer same => buffer_free buffer same id entry found⟩
  · intro free
    exact ⟨fun path same id entry found => (free id entry found).1 path same,
      fun buffer same id entry found => (free id entry found).2 buffer same⟩

/-! ## What the operations keep -/

/-- Paths and buffers find the entries that bear them, and what waits is listed. -/
structure Orderly (registry : Registry) : Prop extends Finds registry, Listed registry

theorem orderly_empty (collection : DocumentCollection) (comparison : PathComparison) :
    Orderly { collection, comparison } :=
  { finds_empty collection comparison, listed_empty collection comparison with }

theorem Finds.perform (finds : registry.Finds) {operation : Operation}
    (permitted : registry.Permits operation) : (registry.perform operation).Finds := by
  cases operation with
  | insert document buffer? watch? state => exact finds.insert permitted.1 permitted.2.1
  | removeInBatch id => exact finds.removeInBatch id
  | forget id => exact finds.forget id
  | completeFlush => exact finds.completeFlush
  | drainAll => exact finds.drainAll
  | setLoader id loader => exact finds.setLoader id loader

theorem Listed.perform (listed : registry.Listed) {operation : Operation}
    (permitted : registry.Permits operation) : (registry.perform operation).Listed := by
  cases operation with
  | insert document buffer? watch? state => exact listed.insert permitted.1 permitted.2.2
  | removeInBatch id => exact listed.removeInBatch id
  | forget id => exact listed.forget permitted
  | completeFlush => exact listed.completeFlush
  | drainAll => exact listed_drainAll registry
  | setLoader id loader => exact listed.setLoader id loader

theorem sameUse_perform (registry : Registry) (operation : Operation) :
    SameUse registry (registry.perform operation) := by
  cases operation with
  | insert | setLoader => exact ⟨rfl, rfl⟩
  | removeInBatch id => exact registry.sameUse_removeInBatch id
  | forget id => exact registry.sameUse_forget id
  | completeFlush => exact registry.sameUse_completeFlush
  | drainAll => exact registry.sameUse_drainAll

theorem Orderly.performAll (orderly : registry.Orderly) {operations : List Operation}
    (permitted : registry.PermitsAll operations) : (registry.performAll operations).Orderly := by
  induction operations generalizing registry with
  | nil => exact orderly
  | cons operation rest ih =>
    have next : (registry.perform operation).Orderly :=
      { orderly.toFinds.perform permitted.1, orderly.toListed.perform permitted.1 with }
    exact ih next permitted.2

theorem sameUse_performAll (registry : Registry) (operations : List Operation) :
    SameUse registry (registry.performAll operations) := by
  induction operations generalizing registry with
  | nil => exact ⟨rfl, rfl⟩
  | cons operation rest ih => exact (registry.sameUse_perform operation).trans (ih _)

/-! ## Registries in use -/

theorem Listed.pendingAdds_eq (listed : registry.Listed) : registry.pendingAdds =
    (registry.entries.entries.filter fun entry => entry.2.state = .pendingAdd).map Prod.fst := by
  rw [listed.adds_eq, waiting]
  refine congrArg (List.map Prod.fst) (List.filter_congr fun entry _ => ?_)
  simp [RegistryEntry.isVisible]

/-- However a registry has been used, the keys and buffers of its entries, which no two entries
share, are what paths and buffers are found by, and its lists name what waits. -/
theorem performAll_empty_found_and_listed (collection : DocumentCollection)
    (comparison : PathComparison) (operations : List Operation)
    (permitted : PermitsAll { collection, comparison } operations) :
    let registry : Registry := performAll { collection, comparison } operations
    (registry.comparison = comparison ∧ ∀ id entry, registry.entries.get? id = some entry →
      entry.pathKey? = entry.document.path?.map comparison.key) ∧
    (Indexes registry.byPath registry.entries RegistryEntry.pathKey? ∧
      ∀ key first second one other, registry.entries.get? first = some one →
        registry.entries.get? second = some other → one.pathKey? = some key →
        other.pathKey? = some key → first = second) ∧
    (Indexes registry.byBuffer registry.entries RegistryEntry.buffer? ∧
      ∀ buffer first second one other, registry.entries.get? first = some one →
        registry.entries.get? second = some other → one.buffer? = some buffer →
        other.buffer? = some buffer → first = second) ∧
    registry.pendingAdds =
      (registry.entries.entries.filter fun entry => entry.2.state = .pendingAdd).map Prod.fst ∧
    (registry.pendingRemoves.Nodup ∧ ∀ id, id ∈ registry.pendingRemoves ↔
      ∃ entry, registry.entries.get? id = some entry ∧ entry.state = .pendingRemove) ∧
    (∀ path id, registry.lookupPath path = .ok id ↔
      ∃ entry, registry.entries.get? id = some entry ∧ entry.state ≠ .pendingRemove ∧
        entry.pathKey? = some (comparison.key path)) ∧
    (∀ buffer id, registry.lookupBuffer buffer = .ok id ↔
      ∃ entry, registry.entries.get? id = some entry ∧ entry.state ≠ .pendingRemove ∧
        entry.buffer? = some buffer) ∧
    (∀ path? buffer?, registry.ensureCanAdd path? buffer? = .ok () ↔
      ∀ id entry, registry.entries.get? id = some entry →
        (∀ path, path? = some path → entry.pathKey? ≠ some (comparison.key path)) ∧
          ∀ buffer, buffer? = some buffer → entry.buffer? ≠ some buffer) ∧
    registry.completeFlush.2.entries.entries =
      (registry.entries.entries.filter fun entry => entry.2.state ≠ .pendingRemove).map
        fun entry => (entry.1, { entry.2 with state := .committed }) := by
  intro registry
  have orderly : registry.Orderly := (orderly_empty collection comparison).performAll permitted
  have same : registry.comparison = comparison := (sameUse_performAll _ operations).comparison_eq
  have same_key (path : String) : registry.key path = comparison.key path := by rw [key, same]
  refine ⟨⟨same, fun id entry found => ?_⟩,
    ⟨orderly.byPath, fun _ _ _ _ _ => orderly.byPath.eq_of_picked⟩,
    ⟨orderly.byBuffer, fun _ _ _ _ _ => orderly.byBuffer.eq_of_picked⟩,
    orderly.pendingAdds_eq, ⟨orderly.removes_nodup, orderly.mem_removes⟩,
    fun path id => ?_, fun buffer id => ?_, fun path? buffer? => ?_,
    orderly.toListed.entries_completeFlush⟩
  · rw [← same]
    exact orderly.pathKey_eq id entry found
  · rw [lookupPath_eq_ok_iff, lookupPath?, orderly.byPath.lookup_iff, same_key]
  · rw [lookupBuffer_eq_ok_iff, lookupBuffer?, orderly.byBuffer.lookup_iff]
  · simp only [orderly.toFinds.ensureCanAdd_ok_iff, same_key]

/-- A file leaves in a batch, keeping its path until the flush, while a buffer that was added in
the same batch gives up its path for another file. -/
def sampleUse : List Operation :=
  [.insert (.ofFile ⟨⟨1⟩⟩ "/work/a.cs" .regular []) none (some ⟨1⟩) .committed,
    .insert (.ofBuffer ⟨⟨2⟩⟩ ⟨7⟩ (some "/work/b.cs") .regular []) (some ⟨7⟩) none .pendingAdd,
    .removeInBatch ⟨⟨1⟩⟩,
    .removeInBatch ⟨⟨2⟩⟩,
    .insert (.ofFile ⟨⟨3⟩⟩ "/work/b.cs" .regular []) none (some ⟨2⟩) .pendingAdd,
    .completeFlush,
    .setLoader ⟨⟨3⟩⟩ (.file "/work/b.cs" 1),
    .insert (.ofFile ⟨⟨4⟩⟩ "/work/a.cs" .regular []) none (some ⟨3⟩) .pendingAdd,
    .forget ⟨⟨3⟩⟩]

theorem permitsAll_sampleUse :
    PermitsAll { collection := .source, comparison := .ordinal } sampleUse := by
  refine ⟨⟨by decide, rfl, by decide⟩, ⟨by decide, rfl, by decide⟩, trivial, trivial,
    ⟨by decide, rfl, by decide⟩, trivial, trivial, ⟨by decide, rfl, by decide⟩, ?_, trivial⟩
  intro entry found
  rw [← Option.some.inj found]
  rfl

theorem performAll_sampleUse_found_and_listed :
    let used := performAll { collection := .source, comparison := .ordinal } sampleUse
    PermitsAll { collection := .source, comparison := .ordinal } sampleUse ∧
    used.pendingAdds = [⟨⟨4⟩⟩] ∧ used.lookupPath "/work/a.cs" = .ok ⟨⟨4⟩⟩ ∧
    used.ensureCanAdd (some "/work/b.cs") (some ⟨7⟩) = .ok () := by
  intro used
  obtain ⟨-, -, -, adds_eq, -, at_path, -, can_add, -⟩ :=
    performAll_empty_found_and_listed .source .ordinal sampleUse permitsAll_sampleUse
  refine ⟨permitsAll_sampleUse, adds_eq, (at_path _ _).mpr ⟨_, rfl, by decide, rfl⟩,
    (can_add _ _).mpr fun id entry found => ?_⟩
  -- the first document left at the flush, the second was taken back and the third is forgotten
  have only : (id, entry) ∈ used.entries.entries := mem_entries_iff.mpr found
  cases only with
  | head => exact ⟨by rintro path ⟨⟩; decide, by rintro buffer ⟨⟩; decide⟩
  | tail _ none_left => cases none_left

end Registry

end CodeWorkspace
