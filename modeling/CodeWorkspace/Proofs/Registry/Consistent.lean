import CodeWorkspace.Container.OrderedMap.Lemmas
import CodeWorkspace.Proofs.Registry.Operations

/-!
# What a registry finds its entries by

The two indexes of a registry find exactly its entries: one by the key of the path, the other by
the buffer.  This is kept by every change of the entries as long as new documents come with a free
path and a free buffer.
-/

namespace CodeWorkspace

/-- The buffer that a text comes from. -/
def Loader.held? : Loader → Option BufferId
  | .file _ _ => none
  | .buffer held => some held

namespace Registry

variable {registry : Registry} {id : DocumentId} {entry : RegistryEntry}

/-! ## Indexes -/

section Index

variable {κ : Type} [DecidableEq κ] {index : OrderedMap κ DocumentId}
  {entries : OrderedMap DocumentId RegistryEntry} {pick : RegistryEntry → Option κ}

/-- An index finds each entry by what is picked from it, and nothing else. -/
def Indexes (index : OrderedMap κ DocumentId) (entries : OrderedMap DocumentId RegistryEntry)
    (pick : RegistryEntry → Option κ) : Prop :=
  ∀ key id, index.get? key = some id ↔
    ∃ entry, entries.get? id = some entry ∧ pick entry = some key

theorem Indexes.insert (indexes : Indexes index entries pick) (fresh : id ∉ entries.keys)
    (free : ∀ key, pick entry = some key → index.get? key = none)
    {after : OrderedMap κ DocumentId}
    (after_eq : ∀ key, after.get? key =
      if pick entry = some key then some id else index.get? key) :
    Indexes after (entries.insert id entry) pick := by
  intro key other
  rw [after_eq, OrderedMap.get?_insert]
  by_cases same : other = id
  · subst same
    have not_before : index.get? key ≠ some other := by
      intro found
      obtain ⟨old, old_found, _⟩ := (indexes key other).mp found
      exact fresh (OrderedMap.mem_keys_iff.mpr ⟨old, old_found⟩)
    by_cases picked : pick entry = some key
    · simp [picked]
    · simp [picked, not_before]
  · rw [if_neg same, ← indexes key other]
    by_cases picked : pick entry = some key
    · simp [picked, free key picked, Ne.symm same]
    · rw [if_neg picked]

theorem Indexes.erase (indexes : Indexes index entries pick)
    (found : entries.get? id = some entry) {after : OrderedMap κ DocumentId}
    (after_eq : ∀ key, after.get? key = if pick entry = some key then none else index.get? key) :
    Indexes after (entries.erase id) pick := by
  intro key other
  rw [after_eq, OrderedMap.get?_erase]
  by_cases same : other = id
  · subst same
    have only_own (found_there : index.get? key = some other) : pick entry = some key := by
      obtain ⟨there, there_found, picked⟩ := (indexes key other).mp found_there
      rw [found] at there_found
      exact Option.some.inj there_found ▸ picked
    by_cases picked : pick entry = some key
    · simp [picked]
    · simp [picked, mt only_own picked]
  · rw [if_neg same, ← indexes key other]
    by_cases picked : pick entry = some key
    · have found_id := (indexes key id).mpr ⟨entry, found, picked⟩
      simp [picked, found_id, Ne.symm same]
    · rw [if_neg picked]

theorem Indexes.adjust (indexes : Indexes index entries pick) (id : DocumentId)
    {change : RegistryEntry → RegistryEntry} (same : ∀ entry, pick (change entry) = pick entry) :
    Indexes index (entries.adjust id change) pick := by
  intro key other
  rw [indexes key other, OrderedMap.get?_adjust]
  split
  · cases entries.get? other <;> simp [same]
  · rfl

end Index

/-- Paths and buffers find exactly the entries that bear them. -/
structure Finds (registry : Registry) : Prop where
  pathKey_eq : ∀ id entry, registry.entries.get? id = some entry →
    entry.pathKey? = entry.document.path?.map registry.key
  byPath : Indexes registry.byPath registry.entries RegistryEntry.pathKey?
  byBuffer : Indexes registry.byBuffer registry.entries RegistryEntry.buffer?

/-- The entries are found by the path and by the buffer of their document. -/
structure Indexed (registry : Registry) : Prop where
  document_id : ∀ id entry, registry.entries.get? id = some entry → entry.document.id = id
  pathKey_eq : ∀ id entry, registry.entries.get? id = some entry →
    entry.pathKey? = entry.document.path?.map registry.key
  buffer_eq : ∀ id entry, registry.entries.get? id = some entry →
    entry.buffer? = entry.document.loader.held?
  byPath : Indexes registry.byPath registry.entries RegistryEntry.pathKey?
  byBuffer : Indexes registry.byBuffer registry.entries RegistryEntry.buffer?

theorem Indexed.finds (indexed : registry.Indexed) : registry.Finds :=
  ⟨indexed.pathKey_eq, indexed.byPath, indexed.byBuffer⟩

/-- A document that is found by a buffer is in that buffer. -/
theorem Indexed.isBuffered_eq (indexed : registry.Indexed) {id : DocumentId}
    {entry : RegistryEntry} (found : registry.entries.get? id = some entry) :
    entry.document.isBuffered = entry.buffer?.isSome := by
  rw [indexed.buffer_eq id entry found, Document.isBuffered]
  cases entry.document.loader <;> rfl

theorem finds_empty (collection : DocumentCollection) (comparison : PathComparison) :
    Finds { collection, comparison } where
  pathKey_eq _ _ found := by cases found
  byPath key id := by simp
  byBuffer key id := by simp

theorem indexed_empty (collection : DocumentCollection) (comparison : PathComparison) :
    Indexed { collection, comparison } :=
  { finds_empty collection comparison with
    document_id := fun _ _ found => by cases found
    buffer_eq := fun _ _ found => by cases found }

/-! ## Adding -/

theorem ensureCanAdd_ok_iff {path? : Option String} {buffer? : Option BufferId} :
    registry.ensureCanAdd path? buffer? = .ok () ↔
      (∀ key, path?.map registry.key = some key → registry.byPath.get? key = none) ∧
        ∀ buffer, buffer? = some buffer → registry.byBuffer.get? buffer = none := by
  have absent {κ : Type} [DecidableEq κ] {map : OrderedMap κ DocumentId} {key : κ} :
      map.get? key = none ↔ map.contains key = false := by
    rw [← OrderedMap.isSome_get?, Option.isSome_eq_false_iff, Option.isNone_iff_eq_none]
  simp only [ensureCanAdd, absent]
  cases path? with
  | none =>
    cases buffer? with
    | none => simp [Option.filter]
    | some buffer =>
      cases taken : registry.byBuffer.contains buffer <;> simp [Option.filter, taken]
  | some path =>
    cases known : registry.knowsPath path with
    | true =>
      rw [knowsPath] at known
      simp [Option.filter, knowsPath, known]
    | false =>
      rw [knowsPath] at known
      cases buffer? with
      | none => simp [Option.filter, knowsPath, known]
      | some buffer =>
        cases taken : registry.byBuffer.contains buffer <;>
          simp [Option.filter, knowsPath, known, taken]

/-- An entry is the new one or was there before. -/
theorem found_of_insert {document : Document} {buffer? : Option BufferId}
    {watch? : Option WatchToken} {state : EntryState}
    (found : (registry.insert document buffer? watch? state).entries.get? id = some entry) :
    entry = { document, buffer?, state, watch?, pathKey? := document.path?.map registry.key } ∧
      id = document.id ∨ registry.entries.get? id = some entry := by
  simp only [Registry.insert, OrderedMap.get?_insert] at found
  split at found
  · rename_i same
    exact Or.inl ⟨(Option.some.inj found).symm, same⟩
  · exact Or.inr found

theorem Finds.insert (finds : registry.Finds) {document : Document}
    {buffer? : Option BufferId} {watch? : Option WatchToken} {state : EntryState}
    (fresh : document.id ∉ registry.entries.keys)
    (free : registry.ensureCanAdd document.path? buffer? = .ok ()) :
    (registry.insert document buffer? watch? state).Finds := by
  obtain ⟨path_free, buffer_free⟩ := ensureCanAdd_ok_iff.mp free
  constructor
  · intro id entry found
    rcases found_of_insert found with ⟨rfl, _⟩ | old
    · rfl
    · exact finds.pathKey_eq id entry old
  · refine finds.byPath.insert fresh path_free fun key => ?_
    simp only [Registry.insert]
    cases document.path?.map registry.key with
    | none => simp
    | some own => simp [OrderedMap.get?_insert, eq_comm]
  · refine finds.byBuffer.insert fresh buffer_free fun key => ?_
    cases buffer? with
    | none => simp [Registry.insert]
    | some own => simp [Registry.insert, OrderedMap.get?_insert, eq_comm]

theorem Indexed.insert (indexed : registry.Indexed) {document : Document}
    {buffer? : Option BufferId} {watch? : Option WatchToken} {state : EntryState}
    (fresh : document.id ∉ registry.entries.keys) (held : buffer? = document.loader.held?)
    (free : registry.ensureCanAdd document.path? buffer? = .ok ()) :
    (registry.insert document buffer? watch? state).Indexed := by
  refine { indexed.finds.insert fresh free with document_id := ?_, buffer_eq := ?_ }
  · intro id entry found
    rcases found_of_insert found with ⟨rfl, same⟩ | old
    · exact same.symm
    · exact indexed.document_id id entry old
  · intro id entry found
    rcases found_of_insert found with ⟨rfl, _⟩ | old
    · exact held
    · exact indexed.buffer_eq id entry old

/-! ## Taking out -/

theorem found_of_dropEntry {gone : DocumentId} {dropped : RegistryEntry}
    (found : (registry.dropEntry gone dropped).entries.get? id = some entry) :
    registry.entries.get? id = some entry := by
  simp only [Registry.dropEntry, OrderedMap.get?_erase] at found
  split at found
  · cases found
  · exact found

theorem Finds.dropEntry (finds : registry.Finds)
    (found : registry.entries.get? id = some entry) :
    (registry.dropEntry id entry).Finds := by
  constructor
  · exact fun other kept found => finds.pathKey_eq other kept (found_of_dropEntry found)
  · refine finds.byPath.erase found fun key => ?_
    simp only [Registry.dropEntry]
    cases entry.pathKey? with
    | none => simp
    | some own => simp [OrderedMap.get?_erase, eq_comm]
  · refine finds.byBuffer.erase found fun key => ?_
    simp only [Registry.dropEntry]
    cases entry.buffer? with
    | none => simp
    | some own => simp [OrderedMap.get?_erase, eq_comm]

theorem Indexed.dropEntry (indexed : registry.Indexed)
    (found : registry.entries.get? id = some entry) :
    (registry.dropEntry id entry).Indexed :=
  { indexed.finds.dropEntry found with
    document_id := fun other kept found =>
      indexed.document_id other kept (found_of_dropEntry found)
    buffer_eq := fun other kept found => indexed.buffer_eq other kept (found_of_dropEntry found) }

/-- What is kept whenever an entry is taken out is kept when some documents are forgotten. -/
theorem forgetEach_induction {motive : Registry → Prop}
    (dropEntry : ∀ {registry : Registry} {id : DocumentId} {entry : RegistryEntry},
      motive registry → registry.entries.get? id = some entry →
        motive (registry.dropEntry id entry))
    (start : motive registry) (ids : List DocumentId) : motive (registry.forgetEach ids).2 := by
  induction ids generalizing registry with
  | nil => exact start
  | cons id rest ih =>
    have next : motive (registry.forget id).2 := by
      simp only [Registry.forget]
      split
      · exact start
      · exact dropEntry start ‹_›
    exact ih next

theorem Finds.forgetEach (finds : registry.Finds) (ids : List DocumentId) :
    (registry.forgetEach ids).2.Finds := forgetEach_induction Finds.dropEntry finds ids

theorem Indexed.forgetEach (indexed : registry.Indexed) (ids : List DocumentId) :
    (registry.forgetEach ids).2.Indexed := forgetEach_induction Indexed.dropEntry indexed ids

/-! ## Changing an entry -/

/-- An entry is as it was, or it is the one that was changed. -/
theorem found_of_adjust {changed : DocumentId} {change : RegistryEntry → RegistryEntry}
    (found : (registry.entries.adjust changed change).get? id = some entry) :
    ∃ old, registry.entries.get? id = some old ∧
      (entry = old ∨ id = changed ∧ entry = change old) := by
  rw [OrderedMap.get?_adjust] at found
  split at found
  · rename_i same
    obtain ⟨old, old_found, rfl⟩ := Option.map_eq_some_iff.mp found
    exact ⟨old, old_found, Or.inr ⟨same, rfl⟩⟩
  · exact ⟨entry, found, Or.inl rfl⟩

theorem Finds.adjust (finds : registry.Finds) (id : DocumentId)
    (change : RegistryEntry → RegistryEntry)
    (same_path : ∀ entry, (change entry).document.path? = entry.document.path?)
    (same_key : ∀ entry, (change entry).pathKey? = entry.pathKey?)
    (same_buffer : ∀ entry, (change entry).buffer? = entry.buffer?) :
    { registry with entries := registry.entries.adjust id change }.Finds := by
  constructor
  · intro other changed found
    obtain ⟨entry, entry_found, rfl | ⟨_, rfl⟩⟩ := found_of_adjust found
    · exact finds.pathKey_eq other _ entry_found
    · rw [same_key, same_path]
      exact finds.pathKey_eq other entry entry_found
  · exact finds.byPath.adjust id same_key
  · exact finds.byBuffer.adjust id same_buffer

theorem Indexed.adjust (indexed : registry.Indexed) (id : DocumentId)
    (change : RegistryEntry → RegistryEntry)
    (same_id : ∀ entry, (change entry).document.id = entry.document.id)
    (same_path : ∀ entry, (change entry).document.path? = entry.document.path?)
    (same_held : ∀ entry, registry.entries.get? id = some entry →
      (change entry).document.loader.held? = entry.document.loader.held?)
    (same_key : ∀ entry, (change entry).pathKey? = entry.pathKey?)
    (same_buffer : ∀ entry, (change entry).buffer? = entry.buffer?) :
    { registry with entries := registry.entries.adjust id change }.Indexed := by
  refine { indexed.finds.adjust id change same_path same_key same_buffer with
    document_id := ?_, buffer_eq := ?_ }
  · intro other changed found
    obtain ⟨entry, entry_found, rfl | ⟨_, rfl⟩⟩ := found_of_adjust found
    · exact indexed.document_id other _ entry_found
    · rw [same_id]
      exact indexed.document_id other entry entry_found
  · intro other changed found
    obtain ⟨entry, entry_found, rfl | ⟨rfl, rfl⟩⟩ := found_of_adjust found
    · exact indexed.buffer_eq other _ entry_found
    · rw [same_buffer, same_held entry entry_found]
      exact indexed.buffer_eq other entry entry_found

theorem Finds.withPending (finds : registry.Finds)
    (pendingAdds pendingRemoves : List DocumentId) :
    { registry with pendingAdds, pendingRemoves }.Finds :=
  ⟨finds.pathKey_eq, finds.byPath, finds.byBuffer⟩

theorem Indexed.withPending (indexed : registry.Indexed)
    (pendingAdds pendingRemoves : List DocumentId) :
    { registry with pendingAdds, pendingRemoves }.Indexed :=
  ⟨indexed.document_id, indexed.pathKey_eq, indexed.buffer_eq, indexed.byPath, indexed.byBuffer⟩

/-! ## Whole operations -/

theorem Finds.removeInBatch (finds : registry.Finds) (id : DocumentId) :
    (registry.removeInBatch id).2.Finds := by
  obtain ⟨entry, found, -, removal⟩ | ⟨entry, -, -, removal⟩ | ⟨-, removal⟩ :=
    registry.removeInBatch_cases id
  · rw [removal]
    exact (finds.dropEntry found).withPending _ _
  · rw [removal]
    exact (finds.adjust id .leaving (fun _ => rfl) (fun _ => rfl) fun _ => rfl).withPending _ _
  · rw [removal]
    exact finds

theorem Finds.forget (finds : registry.Finds) (id : DocumentId) :
    (registry.forget id).2.Finds := by
  simp only [Registry.forget]
  split
  · exact finds
  · exact finds.dropEntry ‹_›

theorem Finds.settleEach (finds : registry.Finds) (ids : List DocumentId) :
    (ids.foldl settle registry).Finds := by
  induction ids generalizing registry with
  | nil => exact finds
  | cons id rest ih =>
    exact ih (finds.adjust id _ (fun _ => rfl) (fun _ => rfl) (fun _ => rfl))

theorem Finds.completeFlush (finds : registry.Finds) : registry.completeFlush.2.Finds :=
  ((finds.settleEach registry.pendingAdds).forgetEach _).withPending _ _

theorem Finds.drainAll (finds : registry.Finds) : registry.drainAll.2.Finds :=
  (finds.forgetEach registry.entries.keys).withPending _ _

theorem Finds.setLoader (finds : registry.Finds) (id : DocumentId) (loader : Loader) :
    (registry.setLoader id loader).Finds :=
  finds.adjust id (·.withLoader loader) (fun _ => rfl) (fun _ => rfl) fun _ => rfl

end Registry

end CodeWorkspace
