import CodeWorkspace.Proofs.Registry.Tracked

/-!
# Who holds the watches in a batch

A document that waits to be added holds the watch on its file until it is taken out again.  The
entries of the documents in the snapshot stay as they are until one of them is removed; it never
comes back in the same batch.
-/

namespace CodeWorkspace

namespace Registry

variable {registry : Registry} {id : DocumentId} {entry : RegistryEntry} {document : Document}

/-- The watches of the documents that wait to be added. -/
def waitingWatches (registry : Registry) : List WatchToken :=
  registry.waiting.filterMap fun entry => entry.2.watch?

theorem waitingWatches_insert (buffer? : Option BufferId) (watch? : Option WatchToken)
    (fresh : document.id ∉ registry.entries.keys) :
    (registry.insert document buffer? watch? .pendingAdd).waitingWatches =
      registry.waitingWatches ++ watch?.toList := by
  rw [waitingWatches, waiting_insert_pendingAdd buffer? watch? fresh, List.filterMap_append]
  cases watch? <;> rfl

/-- The watch that is given back when a document is removed in a batch. -/
def givenBack (registry : Registry) (id : DocumentId) : List WatchToken :=
  ((registry.removeInBatch id).1.bind Removal.released?).toList

/-- A document that waits to be added takes its watch with it, and leaves everything else. -/
theorem removeInBatch_of_waiting (found : registry.entries.get? id = some entry)
    (state : entry.state = .pendingAdd) :
    registry.givenBack id = entry.watch?.toList ∧
      (registry.removeInBatch id).2.shown = registry.shown ∧
      (registry.removeInBatch id).2.pendingRemoves = registry.pendingRemoves ∧
      (registry.removeInBatch id).2.waiting =
        registry.waiting.filter fun known => known.1 ≠ id := by
  have hidden : entry.isVisible = false := by simp [RegistryEntry.isVisible, state]
  have shown_eq : (registry.cancelled id entry).shown = registry.shown :=
    (shown_of_filter rfl).trans (shown_filter_of_waiting found hidden)
  rw [givenBack, removeInBatch_eq_cancelled found state]
  exact ⟨rfl, shown_eq, rfl, waiting_of_filter rfl⟩

/-- A committed document leaves the documents that wait to be added alone. -/
theorem removeInBatch_of_committed (found : registry.entries.get? id = some entry)
    (state : entry.state = .committed) :
    (registry.removeInBatch id).2.pendingRemoves ≠ [] ∧
      (registry.removeInBatch id).2.waiting = registry.waiting := by
  have here (known : DocumentId × RegistryEntry) (listed : known ∈ registry.entries.entries)
      (same : known.1 = id) : known.2 = entry := by
    obtain ⟨other, there⟩ := known
    subst same
    rw [mem_entries_iff, found] at listed
    exact (Option.some.inj listed).symm
  have mapped : (registry.deferred id).waiting =
      registry.waiting.map (adjusted id .leaving) := by
    refine waiting_of_map rfl fun known listed => ?_
    by_cases same : known.1 = id
    · rw [adjusted, if_pos same, here known listed same]
      simp [RegistryEntry.isVisible, state]
    · rw [adjusted, if_neg same]
  have untouched : registry.waiting.map (adjusted id .leaving) = registry.waiting := by
    refine (List.map_congr_left fun known waits => ?_).trans (List.map_id _)
    obtain ⟨listed, hidden⟩ := List.mem_filter.mp waits
    have differs : known.1 ≠ id := fun same => by
      rw [here known listed same] at hidden
      simp [RegistryEntry.isVisible, state] at hidden
    rw [adjusted, if_neg differs]
    rfl
  rw [removeInBatch_eq_deferred found state]
  exact ⟨by simp [pendingRemoves_deferred], mapped.trans untouched⟩

/-- The watches of the documents that still wait are those that were not given back. -/
theorem mem_waitingWatches_of_removeInBatch (found : registry.entries.get? id = some entry)
    (state : entry.state = .pendingAdd) {token : WatchToken}
    (held : token ∈ registry.waitingWatches) (kept : token ∉ registry.givenBack id) :
    token ∈ (registry.removeInBatch id).2.waitingWatches := by
  obtain ⟨given_eq, _, _, waiting_eq⟩ := removeInBatch_of_waiting found state
  obtain ⟨⟨other, there⟩, waits, holds⟩ := List.mem_filterMap.mp held
  refine List.mem_filterMap.mpr ⟨(other, there), ?_, holds⟩
  rw [waiting_eq]
  refine List.mem_filter.mpr ⟨waits, decide_eq_true fun same => kept ?_⟩
  subst same
  have listed := mem_entries_iff.mp (List.mem_filter.mp waits).1
  rw [found] at listed
  cases listed
  rw [given_eq]
  exact Option.mem_toList.mpr holds

/-! ## What is left of forgotten documents -/

/-- What is left of an entry that is forgotten. -/
def forgotten (id : DocumentId) (entry : RegistryEntry) : Forgotten where
  id := id
  watch? := entry.watch?
  closed := entry.buffer?.isSome && entry.isVisible

theorem forget_fst (registry : Registry) (id : DocumentId) :
    (registry.forget id).1 = (registry.entries.get? id).map (forgotten id) := by
  rw [forget, entry?_eq]
  cases registry.entries.get? id <;> rfl

theorem entries_forget_eq_erase (registry : Registry) (id : DocumentId) :
    (registry.forget id).2.entries = registry.entries.erase id :=
  OrderedMap.ext_entries (registry.entries_forget id)

/-- If no document is named twice, something is left of each that is there. -/
theorem forgetEach_fst {ids : List DocumentId} (distinct : ids.Nodup) :
    (registry.forgetEach ids).1 =
      ids.filterMap fun id => (registry.entries.get? id).map (forgotten id) := by
  induction ids generalizing registry with
  | nil => rfl
  | cons id rest ih =>
    obtain ⟨id_fresh, rest_distinct⟩ := List.nodup_cons.mp distinct
    show (registry.forget id).1.toList ++ ((registry.forget id).2.forgetEach rest).1 = _
    have later : (rest.filterMap fun other =>
        ((registry.forget id).2.entries.get? other).map (forgotten other)) =
          rest.filterMap fun other => (registry.entries.get? other).map (forgotten other) := by
      refine List.filterMap_congr fun other other_mem => ?_
      have differs : other ≠ id := fun same => id_fresh (same ▸ other_mem)
      rw [entries_forget_eq_erase, OrderedMap.get?_erase, if_neg differs]
    rw [ih rest_distinct, later, forget_fst, List.filterMap_cons]
    cases registry.entries.get? id <;> rfl

/-- Something is left of every document when all are forgotten. -/
theorem drainAll_fst (registry : Registry) :
    registry.drainAll.1 = registry.entries.entries.map fun entry => forgotten entry.1 entry.2 := by
  have distinct : registry.entries.keys.Nodup := registry.entries.keys_nodup
  show (registry.forgetEach registry.entries.keys).1 = _
  rw [forgetEach_fst distinct, OrderedMap.keys, List.filterMap_map, ← List.filterMap_eq_map]
  refine List.filterMap_congr fun entry entry_mem => ?_
  simp [Function.comp, mem_entries_iff.mp entry_mem]

/-! ## What is left when what waits is settled -/

theorem get?_settleEach (registry : Registry) (ids : List DocumentId) (id : DocumentId) :
    (ids.foldl settle registry).entries.get? id = (registry.entries.get? id).map fun entry =>
      if id ∈ ids then { entry with state := .committed } else entry := by
  induction ids generalizing registry with
  | nil => simp
  | cons first rest ih =>
    rw [List.foldl_cons, ih, settle, OrderedMap.get?_adjust]
    by_cases same : id = first
    · cases registry.entries.get? id <;> simp [same]
    · simp [same]

theorem get?_forgetEach (registry : Registry) (ids : List DocumentId) (id : DocumentId) :
    (registry.forgetEach ids).2.entries.get? id =
      if id ∈ ids then none else registry.entries.get? id := by
  induction ids generalizing registry with
  | nil => rfl
  | cons first rest ih =>
    show ((registry.forget first).2.forgetEach rest).2.entries.get? id = _
    rw [ih, entries_forget_eq_erase, OrderedMap.get?_erase]
    by_cases same : id = first <;> simp [same]

/-- What waits to be added is committed, and what waits to leave is gone. -/
theorem get?_completeFlush (consistent : registry.Consistent) (id : DocumentId) :
    registry.completeFlush.2.entries.get? id =
      ((registry.entries.get? id).filter fun entry => entry.state ≠ .pendingRemove).map
        fun entry => { entry with state := .committed } := by
  show ((registry.pendingAdds.foldl settle registry).forgetEach _).2.entries.get? id = _
  rw [get?_forgetEach, get?_settleEach]
  cases found : registry.entries.get? id with
  | none => simp
  | some entry =>
    have adds : id ∈ registry.pendingAdds ↔ entry.state = .pendingAdd := by
      simp [consistent.mem_adds, found]
    have removes : id ∈ registry.pendingRemoves ↔ entry.state = .pendingRemove := by
      simp [consistent.mem_removes, found]
    obtain ⟨document, buffer?, state, watch?, pathKey?⟩ := entry
    rw [Option.map_some, Option.filter_some]
    cases state <;> simp [adds, removes]

end Registry

end CodeWorkspace
