import Mathlib.Data.List.Nodup
import CodeWorkspace.Proofs.Host.Watches
import CodeWorkspace.Proofs.Registry.Custody

/-!
# The watches that a registry holds

A registry is tended when those of its documents are watched that come from a file and are not about
to leave, and no others.  Each operation on a registry keeps this, provided that the watches are
traded accordingly; settling what waits and loading anew leave the watches alone.
-/

namespace CodeWorkspace

/-- What occurs in several places of a list without repetitions comes from the same element. -/
theorem eq_of_nodup_flatMap {α β : Type} {elements : List α} {parts : α → List β}
    (distinct : (elements.flatMap parts).Nodup) {one other : Nat} {first second : α}
    (first_found : elements[one]? = some first) (second_found : elements[other]? = some second)
    {part : β} (first_part : part ∈ parts first) (second_part : part ∈ parts second) :
    one = other := by
  obtain ⟨one_lt, rfl⟩ := List.getElem?_eq_some_iff.mp first_found
  obtain ⟨other_lt, rfl⟩ := List.getElem?_eq_some_iff.mp second_found
  have apart := List.pairwise_iff_getElem.mp (List.nodup_flatMap.mp distinct).2
  rcases Nat.lt_trichotomy one other with before | same | after
  · exact absurd second_part (apart one other one_lt other_lt before first_part)
  · exact same
  · exact absurd first_part (apart other one other_lt one_lt after second_part)

namespace RegistryEntry

variable {entry : RegistryEntry}

/-- The watch that an entry holds, with the path that it is for. -/
def watched? (entry : RegistryEntry) : Option (WatchToken × String) :=
  match entry.watch?, entry.document.path? with
  | some token, some path => some (token, path)
  | _, _ => none

/-- An entry is watched if and only if its document comes from a file and is not about to leave. -/
structure Tended (entry : RegistryEntry) : Prop where
  watched_iff : entry.watch?.isSome = true ↔ entry.buffer? = none ∧ entry.state ≠ .pendingRemove
  located : entry.buffer? = none → entry.document.path?.isSome = true

theorem watched?_eq_some_iff {token : WatchToken} {path : String} :
    entry.watched? = some (token, path) ↔
      entry.watch? = some token ∧ entry.document.path? = some path := by
  rw [watched?]
  cases entry.watch? <;> cases entry.document.path? <;> simp

/-- The watch of a tended entry is for the path of its document. -/
theorem Tended.exists_watched (tended : entry.Tended) {token : WatchToken}
    (watches : entry.watch? = some token) : ∃ path, entry.watched? = some (token, path) := by
  have unbuffered := (tended.watched_iff.mp (watches ▸ rfl)).1
  obtain ⟨path, located⟩ := Option.isSome_iff_exists.mp (tended.located unbuffered)
  exact ⟨path, watched?_eq_some_iff.mpr ⟨watches, located⟩⟩

theorem Tended.map_fst_watched? (tended : entry.Tended) :
    entry.watched?.toList.map Prod.fst = entry.watch?.toList := by
  cases watches : entry.watch? with
  | none => simp [watched?, watches]
  | some token =>
    obtain ⟨path, held⟩ := tended.exists_watched watches
    rw [held]
    rfl

theorem Tended.watched?_of_pendingRemove (tended : entry.Tended)
    (leaves : entry.state = .pendingRemove) : entry.watched? = none := by
  cases watches : entry.watch? with
  | none => simp [watched?, watches]
  | some token => exact absurd leaves (tended.watched_iff.mp (watches ▸ rfl)).2

end RegistryEntry

namespace Registry

variable {registry after : Registry} {id : DocumentId} {entry : RegistryEntry}
  {document : Document} {buffer? : Option BufferId} {watch? : Option WatchToken}
  {state : EntryState}

/-- The watches that the documents hold, with the paths that they are for. -/
def watches (registry : Registry) : List (WatchToken × String) :=
  registry.entries.entries.filterMap fun entry => entry.2.watched?

/-- All documents are tended. -/
def Tended (registry : Registry) : Prop :=
  ∀ id entry, registry.entries.get? id = some entry → entry.Tended

theorem mem_watches {held : WatchToken × String} :
    held ∈ registry.watches ↔
      ∃ id entry, registry.entries.get? id = some entry ∧ entry.watched? = some held := by
  rw [watches, List.mem_filterMap]
  constructor
  · rintro ⟨⟨id, entry⟩, entry_mem, watched⟩
    exact ⟨id, entry, mem_entries_iff.mp entry_mem, watched⟩
  · rintro ⟨id, entry, found, watched⟩
    exact ⟨(id, entry), mem_entries_iff.mpr found, watched⟩

/-- A watch that is held once is held by one document. -/
theorem eq_of_watched (distinct : registry.watches.Nodup) {other : DocumentId}
    {last : RegistryEntry} (found : registry.entries.get? id = some entry)
    (last_found : registry.entries.get? other = some last) {held : WatchToken × String}
    (watched : entry.watched? = some held) (also : last.watched? = some held) : id = other := by
  obtain ⟨one, at_one⟩ := List.mem_iff_getElem?.mp (mem_entries_iff.mpr found)
  obtain ⟨two, at_two⟩ := List.mem_iff_getElem?.mp (mem_entries_iff.mpr last_found)
  rw [watches, List.filterMap_eq_flatMap_toList] at distinct
  have same := eq_of_nodup_flatMap distinct at_one at_two (Option.mem_toList.mpr watched)
    (Option.mem_toList.mpr also)
  rw [same, at_two] at at_one
  exact (congrArg Prod.fst (Option.some.inj at_one)).symm

/-! ## Adding documents -/

theorem watches_insert (fresh : document.id ∉ registry.entries.keys) :
    (registry.insert document buffer? watch? state).watches =
      registry.watches ++
        (registry.entryFor document buffer? watch? state).watched?.toList := by
  rw [watches, entries_insert buffer? watch? state fresh, List.filterMap_append, watches]
  cases added : (registry.entryFor document buffer? watch? state).watched? <;> simp [added]

theorem Tended.insert (tended : registry.Tended)
    (added : (registry.entryFor document buffer? watch? state).Tended) :
    (registry.insert document buffer? watch? state).Tended := by
  intro id entry found
  rw [show (registry.insert document buffer? watch? state).entries =
    registry.entries.insert document.id (registry.entryFor document buffer? watch? state) from rfl,
    OrderedMap.get?_insert] at found
  split at found
  · cases found
    exact added
  · exact tended id entry found

/-! ## Removing documents -/

/-- Taking an entry out gives its watch back. -/
theorem watches_perm_of_erase (entries : after.entries = registry.entries.erase id)
    (found : registry.entries.get? id = some entry) :
    registry.watches.Perm (entry.watched?.toList ++ after.watches) := by
  have parts := (OrderedMap.entries_perm_erase found).filterMap fun entry => entry.2.watched?
  rw [watches, watches, entries]
  refine parts.trans (List.Perm.of_eq ?_)
  cases held : entry.watched? <;> simp [held]

theorem Tended.of_erase (tended : registry.Tended)
    (entries : after.entries = registry.entries.erase id) : after.Tended := by
  intro other entry found
  rw [entries, OrderedMap.get?_erase] at found
  split at found
  · cases found
  · exact tended other entry found

/-- An entry that waits to leave from now on gives its watch back. -/
theorem watches_perm_of_defer
    (entries : after.entries = registry.entries.adjust id .leaving)
    (found : registry.entries.get? id = some entry) :
    registry.watches.Perm (entry.watched?.toList ++ after.watches) := by
  have parts := (OrderedMap.entries_perm_erase found).filterMap fun entry => entry.2.watched?
  have parts_after := (OrderedMap.entries_adjust_perm found RegistryEntry.leaving).filterMap
    fun entry => entry.2.watched?
  rw [List.filterMap_cons_none rfl] at parts_after
  rw [watches, watches, entries]
  refine parts.trans (.trans (List.Perm.of_eq ?_) (parts_after.symm.append_left _))
  cases held : entry.watched? <;> simp [held]

theorem Tended.of_defer (tended : registry.Tended)
    (entries : after.entries = registry.entries.adjust id .leaving) : after.Tended := by
  intro other entry found
  rw [entries, OrderedMap.get?_adjust] at found
  split at found
  · obtain ⟨old, old_found, rfl⟩ := Option.map_eq_some_iff.mp found
    exact ⟨by simp, (tended other old old_found).located⟩
  · exact tended other entry found

/-- Removing a tracked document in a batch gives its watch back. -/
theorem Tended.removeInBatch (tended : registry.Tended) (tracked : registry.isTracked id = true) :
    (registry.removeInBatch id).2.Tended ∧ ∃ given, registry.givenBack id = given.map Prod.fst ∧
      registry.watches.Perm (given ++ (registry.removeInBatch id).2.watches) := by
  rw [givenBack]
  obtain ⟨entry, found, -, removal⟩ | ⟨entry, found, -, removal⟩ | ⟨untracked, -⟩ :=
    registry.removeInBatch_cases id
  · have given_eq := (tended id entry found).map_fst_watched?
    rw [removal]
    exact ⟨tended.of_erase rfl, _, given_eq.symm, watches_perm_of_erase rfl found⟩
  · have given_eq := (tended id entry found).map_fst_watched?
    rw [removal]
    exact ⟨tended.of_defer rfl, _, given_eq.symm, watches_perm_of_defer rfl found⟩
  · rw [untracked] at tracked
    cases tracked

/-- Forgetting a document gives its watch back. -/
theorem Tended.forget (tended : registry.Tended) (id : DocumentId) :
    (registry.forget id).2.Tended ∧
      ∃ given, ((registry.forget id).1.bind Forgotten.watch?).toList = given.map Prod.fst ∧
        registry.watches.Perm (given ++ (registry.forget id).2.watches) := by
  have entries := registry.entries_forget_eq_erase id
  refine ⟨tended.of_erase entries, ?_⟩
  rw [forget_fst]
  cases found : registry.entries.get? id with
  | none =>
    have stays : (registry.forget id).2 = registry := by
      simp only [Registry.forget, entry?_eq, found]
    rw [stays]
    exact ⟨[], rfl, .refl _⟩
  | some entry =>
    exact ⟨_, (tended id entry found).map_fst_watched?.symm, watches_perm_of_erase entries found⟩

/-- All watches are given back when all documents are forgotten. -/
theorem Tended.drainAll (tended : registry.Tended) :
    registry.drainAll.1.filterMap Forgotten.watch? = registry.watches.map Prod.fst := by
  rw [drainAll_fst, List.filterMap_map, watches, List.map_filterMap]
  refine List.filterMap_congr fun entry entry_mem => ?_
  have given_eq := (tended entry.1 entry.2 (mem_entries_iff.mp entry_mem)).map_fst_watched?
  show entry.2.watch? = entry.2.watched?.map Prod.fst
  cases held : entry.2.watched? <;> cases watches : entry.2.watch? <;>
    simp_all

/-! ## Settling and loading anew -/

/-- The documents that leave the snapshot hold no watches any more, and those that enter it keep
theirs. -/
theorem Tended.watches_completeFlush (tended : registry.Tended) (consistent : registry.Consistent) :
    registry.completeFlush.2.watches = registry.watches := by
  rw [watches, entries_completeFlush, List.filterMap_filter, List.filterMap_map, watches]
  refine List.filterMap_congr fun entry entry_mem => ?_
  have found := mem_entries_iff.mp entry_mem
  have same : ((if entry.1 ∈ registry.pendingAdds then
      (entry.1, { entry.2 with state := .committed }) else entry).2).watched? =
        entry.2.watched? := by
    split <;> rfl
  have same_key : (if entry.1 ∈ registry.pendingAdds then
      (entry.1, { entry.2 with state := .committed }) else entry).1 = entry.1 := by
    split <;> rfl
  simp only [Function.comp, same, same_key]
  split
  · rfl
  · rename_i gone
    obtain ⟨other, other_found, leaves⟩ :=
      (consistent.mem_removes entry.1).mp (by simpa using gone)
    rw [found] at other_found
    cases other_found
    exact ((tended _ _ found).watched?_of_pendingRemove leaves).symm

theorem Tended.completeFlush (tended : registry.Tended) (consistent : registry.Consistent) :
    registry.completeFlush.2.Tended := by
  intro id entry found
  rw [get?_completeFlush consistent] at found
  obtain ⟨old, kept, rfl⟩ := Option.map_eq_some_iff.mp found
  obtain ⟨old_found, stays⟩ := Option.filter_eq_some_iff.mp kept
  obtain ⟨watched_iff, located⟩ := tended id old old_found
  have tracked : old.state ≠ .pendingRemove := by simpa using stays
  exact ⟨by simpa [tracked] using watched_iff, located⟩

theorem watches_setLoader (registry : Registry) (id : DocumentId) (loader : Loader) :
    (registry.setLoader id loader).watches = registry.watches := by
  rw [watches, setLoader, OrderedMap.entries_adjust, List.filterMap_map, watches]
  refine List.filterMap_congr fun entry _ => ?_
  simp only [Function.comp]
  split <;> rfl

theorem Tended.setLoader (tended : registry.Tended) (id : DocumentId) (loader : Loader) :
    (registry.setLoader id loader).Tended := by
  intro other entry found
  rw [Registry.setLoader, OrderedMap.get?_adjust] at found
  split at found
  · obtain ⟨old, old_found, rfl⟩ := Option.map_eq_some_iff.mp found
    exact ⟨(tended other old old_found).watched_iff, (tended other old old_found).located⟩
  · exact tended other entry found

end Registry

end CodeWorkspace
