import CodeWorkspace.Proofs.Registry.Consistent
import Mathlib.Data.List.Basic

/-!
# What waits in a registry

An entry of a registry is in the snapshot or waits to be added, and one that is in the snapshot may
wait to leave it.  The two lists of waiting documents name exactly the entries that wait.  When what
waits is committed, the entries that wait to leave are gone and all others are left, committed and
in their order.
-/

namespace CodeWorkspace

namespace Registry

variable {registry : Registry} {id : DocumentId} {entry : RegistryEntry} {document : Document}

/-- The entries that are in the snapshot. -/
def shown (registry : Registry) : List (DocumentId × RegistryEntry) :=
  registry.entries.entries.filter fun entry => entry.2.isVisible

/-- The entries that wait to be added. -/
def waiting (registry : Registry) : List (DocumentId × RegistryEntry) :=
  registry.entries.entries.filter fun entry => !entry.2.isVisible

theorem mem_entries_iff : (id, entry) ∈ registry.entries.entries ↔
    registry.entries.get? id = some entry := OrderedMap.get?_eq_some_iff.symm

theorem isVisible_iff : entry.isVisible = true ↔ entry.state ≠ .pendingAdd := by
  simp [RegistryEntry.isVisible]

theorem shown_of_filter {after : Registry} {keep : DocumentId × RegistryEntry → Bool}
    (entries : after.entries.entries = registry.entries.entries.filter keep) :
    after.shown = registry.shown.filter keep := by
  rw [shown, entries, List.filter_comm]
  rfl

theorem waiting_of_filter {after : Registry} {keep : DocumentId × RegistryEntry → Bool}
    (entries : after.entries.entries = registry.entries.entries.filter keep) :
    after.waiting = registry.waiting.filter keep := by
  rw [waiting, entries, List.filter_comm]
  rfl

theorem waiting_dropEntry (registry : Registry) (id : DocumentId) (entry : RegistryEntry) :
    (registry.dropEntry id entry).waiting = registry.waiting.filter fun entry => entry.1 ≠ id := by
  have entries : (registry.dropEntry id entry).entries.entries =
      registry.entries.entries.filter fun entry => entry.1 ≠ id := rfl
  exact waiting_of_filter entries

theorem shown_of_map {after : Registry}
    {change : DocumentId × RegistryEntry → DocumentId × RegistryEntry}
    (entries : after.entries.entries = registry.entries.entries.map change)
    (same : ∀ entry ∈ registry.entries.entries, (change entry).2.isVisible = entry.2.isVisible) :
    after.shown = registry.shown.map change := by
  rw [shown, entries, List.filter_map]
  exact congrArg (List.map change) (List.filter_congr same)

theorem waiting_of_map {after : Registry}
    {change : DocumentId × RegistryEntry → DocumentId × RegistryEntry}
    (entries : after.entries.entries = registry.entries.entries.map change)
    (same : ∀ entry ∈ registry.entries.entries, (change entry).2.isVisible = entry.2.isVisible) :
    after.waiting = registry.waiting.map change := by
  rw [waiting, entries, List.filter_map]
  refine congrArg (List.map change) (List.filter_congr fun entry entry_mem => ?_)
  simp only [Function.comp, same entry entry_mem]

/-- An entry after the one with a given key was changed. -/
def adjusted (id : DocumentId) (change : RegistryEntry → RegistryEntry)
    (entry : DocumentId × RegistryEntry) : DocumentId × RegistryEntry :=
  if entry.1 = id then (entry.1, change entry.2) else entry

theorem map_fst_adjusted (id : DocumentId) (change : RegistryEntry → RegistryEntry)
    (entries : List (DocumentId × RegistryEntry)) :
    (entries.map (adjusted id change)).map Prod.fst = entries.map Prod.fst := by
  rw [List.map_map]
  refine List.map_congr_left fun entry _ => ?_
  simp only [Function.comp, adjusted]
  split <;> rfl

/-- A change of one entry that leaves it as visible as it was. -/
theorem isVisible_adjusted {change : RegistryEntry → RegistryEntry}
    (found : registry.entries.get? id = some entry)
    (same : (change entry).isVisible = entry.isVisible) :
    ∀ old ∈ registry.entries.entries, (adjusted id change old).2.isVisible = old.2.isVisible := by
  rintro ⟨other, old⟩ old_mem
  by_cases here : other = id
  · subst here
    rw [mem_entries_iff, found] at old_mem
    cases old_mem
    simp [adjusted, same]
  · simp [adjusted, here]

/-- Entries with one key taken out, if that one is not visible. -/
theorem shown_filter_of_waiting (found : registry.entries.get? id = some entry)
    (hidden : entry.isVisible = false) :
    registry.shown.filter (fun entry => entry.1 ≠ id) = registry.shown := by
  apply List.filter_eq_self.mpr
  rintro ⟨other, kept⟩ kept_mem
  obtain ⟨kept_mem, visible⟩ := List.mem_filter.mp kept_mem
  have differs : other ≠ id := by
    rintro rfl
    rw [mem_entries_iff, found] at kept_mem
    cases kept_mem
    rw [hidden] at visible
    cases visible
  simpa using differs

/-- Entries with one key taken out, if that one does not wait to be added. -/
theorem waiting_filter_of_shown (found : registry.entries.get? id = some entry)
    (visible : entry.isVisible = true) :
    registry.waiting.filter (fun entry => entry.1 ≠ id) = registry.waiting := by
  apply List.filter_eq_self.mpr
  rintro ⟨other, kept⟩ kept_mem
  obtain ⟨kept_mem, hidden⟩ := List.mem_filter.mp kept_mem
  have differs : other ≠ id := by
    rintro rfl
    rw [mem_entries_iff, found] at kept_mem
    cases kept_mem
    rw [visible] at hidden
    cases hidden
  simpa using differs

/-- The entry under which a document is added. -/
def entryFor (registry : Registry) (document : Document) (buffer? : Option BufferId)
    (watch? : Option WatchToken) (state : EntryState) : RegistryEntry where
  document := document
  buffer? := buffer?
  state := state
  watch? := watch?
  pathKey? := document.path?.map registry.key

theorem entries_insert (buffer? : Option BufferId) (watch? : Option WatchToken)
    (state : EntryState) (fresh : document.id ∉ registry.entries.keys) :
    (registry.insert document buffer? watch? state).entries.entries =
      registry.entries.entries ++
        [(document.id, registry.entryFor document buffer? watch? state)] :=
  OrderedMap.entries_insert_of_not_mem fresh

theorem shown_insert_pendingAdd (buffer? : Option BufferId) (watch? : Option WatchToken)
    (fresh : document.id ∉ registry.entries.keys) :
    (registry.insert document buffer? watch? .pendingAdd).shown = registry.shown := by
  simp [shown, entries_insert buffer? watch? .pendingAdd fresh, entryFor, RegistryEntry.isVisible]

theorem waiting_insert_pendingAdd (buffer? : Option BufferId) (watch? : Option WatchToken)
    (fresh : document.id ∉ registry.entries.keys) :
    (registry.insert document buffer? watch? .pendingAdd).waiting =
      registry.waiting ++
        [(document.id, registry.entryFor document buffer? watch? .pendingAdd)] := by
  simp [waiting, entries_insert buffer? watch? .pendingAdd fresh, entryFor, RegistryEntry.isVisible]

/-! ## The lists -/

/-- The lists of waiting documents name the entries that wait. -/
structure Listed (registry : Registry) : Prop where
  adds_eq : registry.pendingAdds = registry.waiting.map Prod.fst
  removes_nodup : registry.pendingRemoves.Nodup
  mem_removes : ∀ id, id ∈ registry.pendingRemoves ↔
    ∃ entry, registry.entries.get? id = some entry ∧ entry.state = .pendingRemove

theorem listed_empty (collection : DocumentCollection) (comparison : PathComparison) :
    Listed { collection, comparison } where
  adds_eq := rfl
  removes_nodup := List.nodup_nil
  mem_removes id := by simp

theorem Listed.mem_adds (listed : registry.Listed) : id ∈ registry.pendingAdds ↔
    ∃ entry, registry.entries.get? id = some entry ∧ entry.state = .pendingAdd := by
  rw [listed.adds_eq, List.mem_map]
  constructor
  · rintro ⟨⟨known, entry⟩, waits, rfl⟩
    obtain ⟨present, hidden⟩ := List.mem_filter.mp waits
    exact ⟨entry, mem_entries_iff.mp present, by simpa [RegistryEntry.isVisible] using hidden⟩
  · rintro ⟨entry, found, state⟩
    refine ⟨(id, entry), List.mem_filter.mpr ⟨mem_entries_iff.mpr found, ?_⟩, rfl⟩
    simp [RegistryEntry.isVisible, state]

theorem Listed.waiting_eq_nil (listed : registry.Listed)
    (none_waiting : registry.pendingAdds = []) : registry.waiting = [] := by
  have adds := listed.adds_eq
  rw [none_waiting] at adds
  exact List.map_eq_nil_iff.mp adds.symm

theorem Listed.insert (listed : registry.Listed) {buffer? : Option BufferId}
    {watch? : Option WatchToken} {state : EntryState}
    (fresh : document.id ∉ registry.entries.keys) (stays : state ≠ .pendingRemove) :
    (registry.insert document buffer? watch? state).Listed where
  adds_eq := by
    rw [waiting, entries_insert buffer? watch? state fresh, List.filter_append, List.map_append,
      ← waiting, ← listed.adds_eq]
    cases state with
    | pendingAdd => rfl
    | committed => exact (List.append_nil _).symm
    | pendingRemove => exact absurd rfl stays
  removes_nodup := listed.removes_nodup
  mem_removes id := by
    refine (listed.mem_removes id).trans ?_
    simp only [Registry.insert, OrderedMap.get?_insert]
    split
    · rename_i same
      subst same
      constructor
      · rintro ⟨entry, found, _⟩
        exact absurd (OrderedMap.mem_keys_iff.mpr ⟨entry, found⟩) fresh
      · rintro ⟨entry, found, leaves⟩
        cases Option.some.inj found
        exact absurd leaves stays
    · rfl

/-- Taking out an entry that does not wait to leave concerns no other that does. -/
theorem Listed.mem_removes_dropEntry (listed : registry.Listed)
    (found : registry.entries.get? id = some entry) (stays : entry.state ≠ .pendingRemove)
    (other : DocumentId) : other ∈ registry.pendingRemoves ↔
      ∃ kept, (registry.dropEntry id entry).entries.get? other = some kept ∧
        kept.state = .pendingRemove := by
  refine (listed.mem_removes other).trans ?_
  show _ ↔ ∃ kept, (registry.entries.erase id).get? other = some kept ∧ _
  rw [OrderedMap.get?_erase]
  split
  · rename_i same
    subst same
    simp [found, stays]
  · rfl

/-- A document that waits to be added is forgotten. -/
theorem Listed.cancelled (listed : registry.Listed) (found : registry.entries.get? id = some entry)
    (state : entry.state = .pendingAdd) : (registry.cancelled id entry).Listed where
  adds_eq := by
    show registry.pendingAdds.filter _ = (registry.dropEntry id entry).waiting.map Prod.fst
    rw [waiting_dropEntry, listed.adds_eq, List.filter_map]
    rfl
  removes_nodup := listed.removes_nodup
  mem_removes := listed.mem_removes_dropEntry found (by simp [state])

/-- A committed document waits to leave from now on. -/
theorem Listed.deferred (listed : registry.Listed) (found : registry.entries.get? id = some entry)
    (state : entry.state = .committed) : (registry.deferred id).Listed where
  adds_eq := by
    have mapped : (registry.deferred id).entries.entries =
        registry.entries.entries.map (adjusted id .leaving) := rfl
    have same_visible : entry.leaving.isVisible = entry.isVisible := by
      simp [RegistryEntry.leaving, RegistryEntry.isVisible, state]
    rw [waiting_of_map mapped (isVisible_adjusted found same_visible), map_fst_adjusted]
    exact listed.adds_eq
  removes_nodup := by
    have absent : id ∉ registry.pendingRemoves := by
      simp [listed.mem_removes, found, state]
    rw [pendingRemoves_deferred, List.nodup_append]
    refine ⟨listed.removes_nodup, by simp, ?_⟩
    intro old old_mem added added_mem same
    rw [List.mem_singleton] at added_mem
    exact absent (added_mem ▸ same ▸ old_mem)
  mem_removes other := by
    rw [entries_deferred, pendingRemoves_deferred, OrderedMap.get?_adjust, List.mem_append,
      List.mem_singleton, listed.mem_removes]
    split
    · rename_i same
      subst same
      simp [found]
    · rename_i differs
      simp [differs]

theorem Listed.removeInBatch (listed : registry.Listed) (id : DocumentId) :
    (registry.removeInBatch id).2.Listed := by
  obtain ⟨entry, found, state, removal⟩ | ⟨entry, found, state, removal⟩ | ⟨-, removal⟩ :=
    registry.removeInBatch_cases id
  · rw [removal]
    exact listed.cancelled found state
  · rw [removal]
    exact listed.deferred found state
  · rw [removal]
    exact listed

/-- A committed document is forgotten. -/
theorem Listed.dropEntry (listed : registry.Listed)
    (found : registry.entries.get? id = some entry) (state : entry.state = .committed) :
    (registry.dropEntry id entry).Listed where
  adds_eq := by
    have visible : entry.isVisible = true := by simp [RegistryEntry.isVisible, state]
    rw [waiting_dropEntry, waiting_filter_of_shown found visible]
    exact listed.adds_eq
  removes_nodup := listed.removes_nodup
  mem_removes := listed.mem_removes_dropEntry found (by simp [state])

theorem Listed.forget (listed : registry.Listed)
    (committed : ∀ entry, registry.entry? id = some entry → entry.state = .committed) :
    (registry.forget id).2.Listed := by
  rw [Registry.forget]
  split
  · exact listed
  · rename_i entry found
    exact listed.dropEntry found (committed entry found)

theorem Listed.setLoader (listed : registry.Listed) (id : DocumentId) (loader : Loader) :
    (registry.setLoader id loader).Listed where
  adds_eq := by
    have mapped : (registry.setLoader id loader).entries.entries =
        registry.entries.entries.map (adjusted id (·.withLoader loader)) := rfl
    have same_visible : ∀ old ∈ registry.entries.entries,
        (adjusted id (·.withLoader loader) old).2.isVisible = old.2.isVisible := by
      intro old _
      simp only [adjusted, RegistryEntry.withLoader, RegistryEntry.isVisible]
      split <;> rfl
    rw [waiting_of_map mapped same_visible, map_fst_adjusted]
    exact listed.adds_eq
  removes_nodup := listed.removes_nodup
  mem_removes other := by
    refine (listed.mem_removes other).trans ?_
    rw [Registry.setLoader, OrderedMap.get?_adjust]
    split
    · cases registry.entries.get? other <;> simp
    · rfl

/-! ## Committing what waits -/

theorem entries_settleEach (registry : Registry) (ids : List DocumentId) :
    (ids.foldl settle registry).entries.entries = registry.entries.entries.map fun entry =>
      if entry.1 ∈ ids then (entry.1, { entry.2 with state := .committed }) else entry := by
  induction ids generalizing registry with
  | nil => simp
  | cons id rest ih =>
    rw [List.foldl_cons, ih, settle, OrderedMap.entries_adjust, List.map_map]
    refine List.map_congr_left fun entry _ => ?_
    by_cases here : entry.1 = id
    · by_cases later : entry.1 ∈ rest <;> simp_all
    · simp [here]

theorem entries_forget (registry : Registry) (id : DocumentId) :
    (registry.forget id).2.entries.entries =
      registry.entries.entries.filter fun entry => entry.1 ≠ id := by
  rw [Registry.forget]
  split
  · rename_i missing
    rw [entry?_eq] at missing
    symm
    rw [List.filter_eq_self]
    rintro ⟨other, entry⟩ entry_mem
    have differs : other ≠ id := by
      rintro rfl
      rw [mem_entries_iff, missing] at entry_mem
      cases entry_mem
    simpa using differs
  · rfl

theorem entries_forgetEach (registry : Registry) (ids : List DocumentId) :
    (registry.forgetEach ids).2.entries.entries =
      registry.entries.entries.filter fun entry => entry.1 ∉ ids := by
  induction ids generalizing registry with
  | nil => simp [forgetEach]
  | cons id rest ih =>
    show ((registry.forget id).2.forgetEach rest).2.entries.entries = _
    rw [ih, entries_forget, List.filter_filter]
    refine List.filter_congr fun entry _ => ?_
    simp [Bool.and_comm]

theorem entries_drainAll (registry : Registry) : registry.drainAll.2.entries.entries = [] := by
  show (registry.forgetEach registry.entries.keys).2.entries.entries = []
  rw [entries_forgetEach, List.filter_eq_nil_iff]
  intro entry entry_mem
  have known : entry.1 ∈ registry.entries.keys := List.mem_map_of_mem entry_mem
  simp [known]

theorem listed_drainAll (registry : Registry) : registry.drainAll.2.Listed where
  adds_eq := by
    rw [waiting, entries_drainAll]
    rfl
  removes_nodup := List.nodup_nil
  mem_removes id := by
    show id ∈ [] ↔ _
    simp only [List.not_mem_nil, false_iff, not_exists, not_and]
    intro entry found
    rw [← mem_entries_iff, entries_drainAll] at found
    cases found

theorem entries_completeFlush (registry : Registry) :
    registry.completeFlush.2.entries.entries =
      (registry.entries.entries.map fun entry =>
        if entry.1 ∈ registry.pendingAdds then (entry.1, { entry.2 with state := .committed })
        else entry).filter fun entry => entry.1 ∉ registry.pendingRemoves := by
  show ((registry.pendingAdds.foldl settle registry).forgetEach _).2.entries.entries = _
  rw [entries_forgetEach, entries_settleEach]

theorem Listed.entries_completeFlush (listed : registry.Listed) :
    registry.completeFlush.2.entries.entries =
      (registry.entries.entries.filter fun entry => entry.2.state ≠ .pendingRemove).map
        fun entry => (entry.1, { entry.2 with state := .committed }) := by
  have leaves_iff {entry : DocumentId × RegistryEntry}
      (entry_mem : entry ∈ registry.entries.entries) :
      entry.1 ∈ registry.pendingRemoves ↔ entry.2.state = .pendingRemove := by
    rw [listed.mem_removes, mem_entries_iff.mp entry_mem]
    simp
  have waits_iff {entry : DocumentId × RegistryEntry}
      (entry_mem : entry ∈ registry.entries.entries) :
      entry.1 ∈ registry.pendingAdds ↔ entry.2.state = .pendingAdd := by
    rw [listed.mem_adds, mem_entries_iff.mp entry_mem]
    simp
  -- settling changes no key, so what leaves can be taken out before the rest is settled
  rw [Registry.entries_completeFlush, List.filter_map]
  have same_kept : registry.entries.entries.filter
      ((fun entry => decide (entry.1 ∉ registry.pendingRemoves)) ∘ fun entry =>
        if entry.1 ∈ registry.pendingAdds then (entry.1, { entry.2 with state := .committed })
        else entry) =
          registry.entries.entries.filter fun entry => entry.2.state ≠ .pendingRemove := by
    refine List.filter_congr fun entry entry_mem => ?_
    have same_key : (if entry.1 ∈ registry.pendingAdds then
        (entry.1, { entry.2 with state := .committed }) else entry).1 = entry.1 := by
      split <;> rfl
    simp only [Function.comp, same_key, leaves_iff entry_mem]
  rw [same_kept]
  refine List.map_congr_left fun entry entry_mem => ?_
  obtain ⟨present, stays⟩ := List.mem_filter.mp entry_mem
  simp only [waits_iff present]
  obtain ⟨id, document, buffer?, state, watch?, pathKey?⟩ := entry
  cases state with
  | pendingAdd | committed => rfl
  | pendingRemove => simp at stays

theorem committed_of_completeFlush (listed : registry.Listed) {entry : DocumentId × RegistryEntry}
    (entry_mem : entry ∈ registry.completeFlush.2.entries.entries) :
    entry.2.state = .committed := by
  rw [listed.entries_completeFlush] at entry_mem
  obtain ⟨old, _, rfl⟩ := List.mem_map.mp entry_mem
  rfl

theorem Listed.shown_completeFlush (listed : registry.Listed) :
    registry.completeFlush.2.shown = registry.completeFlush.2.entries.entries := by
  refine List.filter_eq_self.mpr fun entry entry_mem => ?_
  simp [RegistryEntry.isVisible, committed_of_completeFlush listed entry_mem]

theorem Listed.waiting_completeFlush (listed : registry.Listed) :
    registry.completeFlush.2.waiting = [] := by
  refine List.filter_eq_nil_iff.mpr fun entry entry_mem => ?_
  simp [RegistryEntry.isVisible, committed_of_completeFlush listed entry_mem]

theorem Listed.completeFlush (listed : registry.Listed) :
    registry.completeFlush.2.Listed where
  adds_eq := by
    rw [listed.waiting_completeFlush]
    rfl
  removes_nodup := List.nodup_nil
  mem_removes id := by
    show id ∈ [] ↔ _
    simp only [List.not_mem_nil, false_iff]
    rintro ⟨entry, found, state⟩
    rw [committed_of_completeFlush listed (mem_entries_iff.mpr found)] at state
    cases state

end Registry

end CodeWorkspace
