import CodeWorkspace.Project
import CodeWorkspace.Proofs.Registry.Waiting

/-!
# Registries and the documents of a snapshot

A registry mirrors the documents that a snapshot holds when its visible entries, in their order,
are these documents, and all entries that wait to be added stand behind them.  Adding and removing
documents in a batch leaves the visible entries alone; committing what waits brings the registry
and the snapshot to the same documents again.
-/

namespace CodeWorkspace

namespace Registry

variable {registry : Registry} {documents : Documents} {id : DocumentId} {entry : RegistryEntry}

/-- The documents of some entries. -/
def documentsOf (entries : List (DocumentId × RegistryEntry)) : List (DocumentId × Document) :=
  entries.map fun entry => (entry.1, entry.2.document)

theorem documentsOf_append (front back : List (DocumentId × RegistryEntry)) :
    documentsOf (front ++ back) = documentsOf front ++ documentsOf back := List.map_append

theorem filter_documentsOf (keep : DocumentId → Bool)
    (entries : List (DocumentId × RegistryEntry)) :
    (documentsOf entries).filter (fun entry => keep entry.1) =
      documentsOf (entries.filter fun entry => keep entry.1) := by
  rw [documentsOf, List.filter_map]
  rfl

/-- The lists of waiting documents name the entries that wait. -/
structure Consistent (registry : Registry) : Prop extends Indexed registry where
  adds_eq : registry.pendingAdds = registry.waiting.map Prod.fst
  removes_nodup : registry.pendingRemoves.Nodup
  mem_removes : ∀ id, id ∈ registry.pendingRemoves ↔
    ∃ entry, registry.entries.get? id = some entry ∧ entry.state = .pendingRemove

/-- The visible entries are the documents of a snapshot, and what waits stands behind them. -/
structure Mirrors (registry : Registry) (documents : Documents) : Prop extends
    Consistent registry where
  waiting_last : registry.shown ++ registry.waiting = registry.entries.entries
  documents_eq : documents.entries = documentsOf registry.shown

theorem Consistent.listed (consistent : registry.Consistent) : registry.Listed :=
  ⟨consistent.adds_eq, consistent.removes_nodup, consistent.mem_removes⟩

theorem Consistent.waiting_eq_nil (consistent : registry.Consistent)
    (none_waiting : registry.pendingAdds = []) : registry.waiting = [] :=
  consistent.listed.waiting_eq_nil none_waiting

theorem Mirrors.shown_eq_entries (mirrors : registry.Mirrors documents)
    (none_waiting : registry.pendingAdds = []) : registry.shown = registry.entries.entries := by
  have last := mirrors.waiting_last
  rwa [mirrors.waiting_eq_nil none_waiting, List.append_nil] at last

theorem Consistent.mem_adds (consistent : registry.Consistent) : id ∈ registry.pendingAdds ↔
    ∃ entry, registry.entries.get? id = some entry ∧ entry.state = .pendingAdd :=
  consistent.listed.mem_adds

/-- The documents of a collection in the snapshot are those of the registry that do not wait to be
added. -/
theorem Mirrors.mem_keys_iff (mirrors : registry.Mirrors documents) : id ∈ documents.keys ↔
    ∃ entry, registry.entries.get? id = some entry ∧ entry.state ≠ .pendingAdd := by
  rw [OrderedMap.keys, mirrors.documents_eq, documentsOf, List.map_map, List.mem_map]
  constructor
  · rintro ⟨⟨known, entry⟩, shown, rfl⟩
    obtain ⟨listed, visible⟩ := List.mem_filter.mp shown
    exact ⟨entry, mem_entries_iff.mp listed, isVisible_iff.mp visible⟩
  · rintro ⟨entry, found, state⟩
    exact ⟨(id, entry),
      List.mem_filter.mpr ⟨mem_entries_iff.mpr found, isVisible_iff.mpr state⟩, rfl⟩

theorem mirrors_empty (collection : DocumentCollection) (comparison : PathComparison) :
    Mirrors { collection, comparison } .empty :=
  { indexed_empty collection comparison, listed_empty collection comparison with
    waiting_last := rfl
    documents_eq := rfl }

/-- A change of one entry that leaves it as visible as it was. -/
theorem Mirrors.waiting_last_adjust (mirrors : registry.Mirrors documents) (after : Registry)
    (change : RegistryEntry → RegistryEntry)
    (entries : after.entries = registry.entries.adjust id change)
    (found : registry.entries.get? id = some entry)
    (same : (change entry).isVisible = entry.isVisible) :
    after.shown = registry.shown.map (adjusted id change) ∧
      after.shown ++ after.waiting = after.entries.entries := by
  have mapped : after.entries.entries = registry.entries.entries.map (adjusted id change) := by
    rw [entries]
    rfl
  have same_visible := isVisible_adjusted found same
  have shown_eq := shown_of_map mapped same_visible
  refine ⟨shown_eq, ?_⟩
  rw [shown_eq, waiting_of_map mapped same_visible, mapped, ← mirrors.waiting_last,
    List.map_append]

/-! ## Adding a document -/

variable {document : Document} {buffer? : Option BufferId} {watch? : Option WatchToken}

theorem Mirrors.insert_pendingAdd (mirrors : registry.Mirrors documents)
    (fresh : document.id ∉ registry.entries.keys) (held : buffer? = document.loader.held?)
    (free : registry.ensureCanAdd document.path? buffer? = .ok ()) :
    (registry.insert document buffer? watch? .pendingAdd).Mirrors documents := by
  have entries := entries_insert buffer? watch? .pendingAdd fresh
  have shown_eq := registry.shown_insert_pendingAdd buffer? watch? fresh
  have waiting_eq := registry.waiting_insert_pendingAdd buffer? watch? fresh
  exact
    { mirrors.toIndexed.insert fresh held free, mirrors.listed.insert fresh (by decide) with
      waiting_last := by
        rw [shown_eq, waiting_eq, ← List.append_assoc, mirrors.waiting_last, entries]
      documents_eq := by rw [shown_eq, mirrors.documents_eq] }

theorem Mirrors.insert_committed (mirrors : registry.Mirrors documents)
    (fresh : document.id ∉ registry.entries.keys) (held : buffer? = document.loader.held?)
    (free : registry.ensureCanAdd document.path? buffer? = .ok ())
    (none_waiting : registry.pendingAdds = []) {added : Documents}
    (added_eq : added.entries = documents.entries ++ [(document.id, document)]) :
    (registry.insert document buffer? watch? .committed).Mirrors added := by
  have entries := entries_insert buffer? watch? .committed fresh
  have waiting_nil := mirrors.waiting_eq_nil none_waiting
  have shown_eq : (registry.insert document buffer? watch? .committed).shown =
      registry.shown ++ [(document.id, registry.entryFor document buffer? watch? .committed)] := by
    simp [shown, entries, entryFor, RegistryEntry.isVisible]
  have waiting_eq : (registry.insert document buffer? watch? .committed).waiting = [] := by
    rw [waiting, entries, List.filter_append, ← waiting, waiting_nil]
    simp [entryFor, RegistryEntry.isVisible]
  exact
    { mirrors.toIndexed.insert fresh held free, mirrors.listed.insert fresh (by decide) with
      waiting_last := by
        rw [shown_eq, waiting_eq, List.append_nil, mirrors.shown_eq_entries none_waiting, entries]
      documents_eq := by
        rw [shown_eq, added_eq, mirrors.documents_eq]
        simp [documentsOf, entryFor] }

/-! ## Removing a document -/

/-- A document that waits to be added is forgotten. -/
theorem Mirrors.cancelled (mirrors : registry.Mirrors documents)
    (found : registry.entries.get? id = some entry) (state : entry.state = .pendingAdd) :
    (registry.cancelled id entry).Mirrors documents := by
  have hidden : entry.isVisible = false := by simp [RegistryEntry.isVisible, state]
  have entries : (registry.cancelled id entry).entries.entries =
      registry.entries.entries.filter fun entry => entry.1 ≠ id := rfl
  have shown_eq : (registry.cancelled id entry).shown = registry.shown :=
    (shown_of_filter entries).trans (shown_filter_of_waiting found hidden)
  exact
    { (mirrors.toIndexed.dropEntry found).withPending _ _,
      mirrors.listed.cancelled found state with
      waiting_last := by
        rw [shown_eq, waiting_of_filter entries, entries, ← mirrors.waiting_last,
          List.filter_append, shown_filter_of_waiting found hidden]
      documents_eq := by rw [shown_eq, mirrors.documents_eq] }

/-- A committed document waits to leave from now on. -/
theorem Mirrors.deferred (mirrors : registry.Mirrors documents)
    (found : registry.entries.get? id = some entry) (state : entry.state = .committed) :
    (registry.deferred id).Mirrors documents := by
  have same_visible : entry.leaving.isVisible = entry.isVisible := by
    simp [RegistryEntry.isVisible, state]
  obtain ⟨shown_eq, last⟩ :=
    mirrors.waiting_last_adjust (registry.deferred id) .leaving rfl found same_visible
  exact
    { (mirrors.toIndexed.adjust id .leaving (fun _ => rfl) (fun _ => rfl) (fun _ _ => rfl)
        (fun _ => rfl) (fun _ => rfl)).withPending _ _, mirrors.listed.deferred found state with
      waiting_last := last
      documents_eq := by
        rw [shown_eq, mirrors.documents_eq, documentsOf, documentsOf, List.map_map]
        refine List.map_congr_left fun old _ => ?_
        simp only [Function.comp, adjusted]
        split <;> rfl }

theorem Mirrors.removeInBatch (mirrors : registry.Mirrors documents) (id : DocumentId) :
    (registry.removeInBatch id).2.Mirrors documents := by
  obtain ⟨entry, found, state, removal⟩ | ⟨entry, found, state, removal⟩ | ⟨-, removal⟩ :=
    registry.removeInBatch_cases id
  · rw [removal]
    exact mirrors.cancelled found state
  · rw [removal]
    exact mirrors.deferred found state
  · rw [removal]
    exact mirrors

/-- A committed document leaves the registry and the snapshot together. -/
theorem Mirrors.forget (mirrors : registry.Mirrors documents)
    (found : registry.entries.get? id = some entry) (state : entry.state = .committed)
    {left : Documents} (left_eq : left.entries = documents.entries.filter fun kept => kept.1 ≠ id) :
    (registry.forget id).2.Mirrors left := by
  have visible : entry.isVisible = true := by simp [RegistryEntry.isVisible, state]
  simp only [Registry.forget, entry?_eq, found]
  have entries : (registry.dropEntry id entry).entries.entries =
      registry.entries.entries.filter fun entry => entry.1 ≠ id := rfl
  have shown_eq := shown_of_filter entries
  have waiting_eq : (registry.dropEntry id entry).waiting = registry.waiting :=
    (waiting_of_filter entries).trans (waiting_filter_of_shown found visible)
  exact
    { mirrors.toIndexed.dropEntry found, mirrors.listed.dropEntry found state with
      waiting_last := by
        rw [shown_eq, waiting_eq, entries, ← mirrors.waiting_last, List.filter_append,
          waiting_filter_of_shown found visible]
      documents_eq := by
        rw [shown_eq, left_eq, mirrors.documents_eq, documentsOf, documentsOf, List.filter_map]
        rfl }

/-- A document is loaded anew in the registry and in the snapshot. -/
theorem Mirrors.setLoader (mirrors : registry.Mirrors documents)
    (found : registry.entries.get? id = some entry) {loader : Loader}
    (same_held : loader.held? = entry.document.loader.held?) {changed : Documents}
    (changed_eq : changed = documents.adjust id fun document => { document with loader }) :
    (registry.setLoader id loader).Mirrors changed := by
  obtain ⟨shown_eq, last⟩ := mirrors.waiting_last_adjust (registry.setLoader id loader)
    (·.withLoader loader) rfl found rfl
  have indexed : (registry.setLoader id loader).Indexed :=
    mirrors.toIndexed.adjust id (·.withLoader loader) (fun _ => rfl) (fun _ => rfl)
      (fun old old_found => by
        rw [found] at old_found
        cases old_found
        exact same_held) (fun _ => rfl) (fun _ => rfl)
  exact
    { indexed, mirrors.listed.setLoader id loader with
      waiting_last := last
      documents_eq := by
        rw [shown_eq, changed_eq, OrderedMap.entries_adjust, mirrors.documents_eq, documentsOf,
          documentsOf, List.map_map, List.map_map]
        refine List.map_congr_left fun old _ => ?_
        simp only [Function.comp, adjusted]
        split <;> rfl }

/-! ## Committing what waits -/

theorem Indexed.settleEach (indexed : registry.Indexed) (ids : List DocumentId) :
    (ids.foldl settle registry).Indexed := by
  induction ids generalizing registry with
  | nil => exact indexed
  | cons id rest ih =>
    exact ih (indexed.adjust id _ (fun _ => rfl) (fun _ => rfl) (fun _ _ => rfl) (fun _ => rfl)
      (fun _ => rfl))

theorem pendingDocuments_eq (consistent : registry.Consistent) :
    registry.pendingDocuments = registry.waiting.map fun entry => entry.2.document := by
  rw [pendingDocuments, consistent.adds_eq, List.filterMap_map, ← List.filterMap_eq_map]
  refine List.filterMap_congr fun entry entry_mem => ?_
  have found := mem_entries_iff.mp (List.mem_filter.mp entry_mem).1
  simp [entry?_eq, found]

/-- What waits to be added, as it is going to stand in the snapshot. -/
theorem pendingDocuments_entries (consistent : registry.Consistent) :
    registry.pendingDocuments.map (fun document => (document.id, document)) =
      documentsOf registry.waiting := by
  rw [pendingDocuments_eq consistent, List.map_map]
  refine List.map_congr_left fun entry entry_mem => ?_
  have found := mem_entries_iff.mp (List.mem_filter.mp entry_mem).1
  simp [consistent.document_id entry.1 entry.2 found]

theorem Mirrors.completeFlush (mirrors : registry.Mirrors documents) {flushed : Documents}
    (flushed_eq : flushed.entries =
      (documents.entries ++ registry.pendingDocuments.map fun document => (document.id, document)
        ).filter fun entry => entry.1 ∉ registry.pendingRemoves) :
    registry.completeFlush.2.Mirrors flushed := by
  have shown_eq := mirrors.listed.shown_completeFlush
  exact
    { ((mirrors.toIndexed.settleEach registry.pendingAdds).forgetEach _).withPending _ _,
      mirrors.listed.completeFlush with
      waiting_last := by
        rw [shown_eq, mirrors.listed.waiting_completeFlush, List.append_nil]
      documents_eq := by
        rw [shown_eq, flushed_eq, pendingDocuments_entries mirrors.toConsistent,
          mirrors.documents_eq, ← documentsOf_append, mirrors.waiting_last,
          entries_completeFlush, ← filter_documentsOf fun id => id ∉ registry.pendingRemoves]
        refine congrArg (List.filter _) ?_
        rw [documentsOf, documentsOf, List.map_map]
        refine List.map_congr_left fun entry _ => ?_
        simp only [Function.comp]
        split <;> rfl }

/-! ## Known documents -/

theorem mem_keys_insert {state : EntryState} {id : DocumentId} :
    id ∈ (registry.insert document buffer? watch? state).entries.keys ↔
      id ∈ registry.entries.keys ∨ id = document.id := by
  simp only [OrderedMap.mem_keys_iff, Registry.insert, OrderedMap.get?_insert]
  split
  · rename_i same
    simp [same]
  · rename_i differs
    simp [differs]

theorem mem_keys_of_removeInBatch {other : DocumentId}
    (known : other ∈ (registry.removeInBatch id).2.entries.keys) :
    other ∈ registry.entries.keys := by
  obtain ⟨entry, -, -, removal⟩ | ⟨entry, -, -, removal⟩ | ⟨-, removal⟩ :=
    registry.removeInBatch_cases id
  · rw [removal, entries_cancelled, OrderedMap.keys_erase] at known
    exact (List.mem_filter.mp known).1
  · rwa [removal, entries_deferred, OrderedMap.keys_adjust] at known
  · rwa [removal] at known

theorem mem_keys_of_forget {other : DocumentId}
    (known : other ∈ (registry.forget id).2.entries.keys) : other ∈ registry.entries.keys := by
  rw [OrderedMap.keys, entries_forget] at known
  obtain ⟨entry, entry_mem, rfl⟩ := List.mem_map.mp known
  exact List.mem_map_of_mem (List.mem_filter.mp entry_mem).1

theorem mem_keys_of_completeFlush {other : DocumentId}
    (known : other ∈ registry.completeFlush.2.entries.keys) : other ∈ registry.entries.keys := by
  rw [OrderedMap.keys, entries_completeFlush] at known
  obtain ⟨entry, entry_mem, rfl⟩ := List.mem_map.mp known
  obtain ⟨old, old_mem, rfl⟩ := List.mem_map.mp (List.mem_filter.mp entry_mem).1
  have same_key : (if old.1 ∈ registry.pendingAdds then
      (old.1, { old.2 with state := .committed }) else old).1 = old.1 := by
    split <;> rfl
  rw [same_key]
  exact List.mem_map_of_mem old_mem

end Registry

end CodeWorkspace
