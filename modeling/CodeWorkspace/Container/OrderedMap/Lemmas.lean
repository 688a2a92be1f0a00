import CodeWorkspace.Container.OrderedMap

/-!
# Looking up in ordered maps

What each operation on an ordered map does to its keys and to the value at a key.  A map is
determined by its list of keys together with the values that are found at them.
-/

namespace CodeWorkspace

namespace OrderedMap

universe u v

variable {κ : Type u} {α : Type v}

theorem mem_keys_of_mem_entries {map : OrderedMap κ α} {key : κ} {value : α}
    (entry_mem : (key, value) ∈ map.entries) : key ∈ map.keys :=
  List.mem_map_of_mem entry_mem

theorem ext_entries {first second : OrderedMap κ α} (same : first.entries = second.entries) :
    first = second := by
  obtain ⟨entries, distinct⟩ := first
  cases same
  rfl

variable [DecidableEq κ]

theorem contains_iff_mem_keys {map : OrderedMap κ α} {key : κ} :
    map.contains key = true ↔ key ∈ map.keys := by
  simp [contains, keys, List.any_eq_true]

/-- The value found at a key is the one that stands beside it. -/
theorem get?_eq_some_iff {map : OrderedMap κ α} {key : κ} {value : α} :
    map.get? key = some value ↔ (key, value) ∈ map.entries := by
  obtain ⟨entries, distinct⟩ := map
  induction entries with
  | nil => simp [get?]
  | cons head rest ih =>
    simp only [List.map_cons, List.nodup_cons] at distinct
    obtain ⟨head_fresh, rest_distinct⟩ := distinct
    have tail := ih rest_distinct
    simp only [get?] at tail
    by_cases same : head.1 = key
    · have not_later : (key, value) ∉ rest := by
        intro later
        exact head_fresh (same ▸ List.mem_map_of_mem later)
      simp only [get?, List.find?_cons, same, decide_true, Option.map_some, Option.some.injEq,
        List.mem_cons, not_later, or_false]
      constructor
      · rintro rfl
        rw [← same]
      · intro equal
        rw [← equal]
    · simp only [get?, List.find?_cons, same, decide_false, List.mem_cons, tail]
      constructor
      · exact Or.inr
      · rintro (rfl | later)
        · exact absurd rfl same
        · exact later

theorem get?_eq_none_iff {map : OrderedMap κ α} {key : κ} :
    map.get? key = none ↔ key ∉ map.keys := by
  simp only [get?, Option.map_eq_none_iff, List.find?_eq_none, decide_eq_true_eq, keys,
    List.mem_map, not_exists, not_and]

theorem mem_keys_iff {map : OrderedMap κ α} {key : κ} :
    key ∈ map.keys ↔ ∃ value, map.get? key = some value := by
  constructor
  · intro key_mem
    obtain ⟨entry, entry_mem, rfl⟩ := List.mem_map.mp key_mem
    exact ⟨entry.2, get?_eq_some_iff.mpr entry_mem⟩
  · rintro ⟨value, found⟩
    exact mem_keys_of_mem_entries (get?_eq_some_iff.mp found)

theorem mem_values_iff {map : OrderedMap κ α} {value : α} :
    value ∈ map.values ↔ ∃ key, map.get? key = some value := by
  constructor
  · intro value_mem
    obtain ⟨entry, entry_mem, rfl⟩ := List.mem_map.mp value_mem
    exact ⟨entry.1, get?_eq_some_iff.mpr entry_mem⟩
  · rintro ⟨key, found⟩
    exact List.mem_map_of_mem (get?_eq_some_iff.mp found)

/-- No value occurs twice if each is found at one key only. -/
theorem nodup_values {map : OrderedMap κ α}
    (apart : ∀ key other value, map.get? key = some value → map.get? other = some value →
      key = other) : map.values.Nodup := by
  have keys_differ : map.entries.Pairwise fun first second => first.1 ≠ second.1 :=
    List.pairwise_map.mp map.keys_nodup
  refine List.pairwise_map.mpr (keys_differ.imp_of_mem ?_)
  rintro ⟨key, value⟩ ⟨other, there⟩ first_mem second_mem differs same
  obtain rfl : value = there := same
  exact differs (apart key other value (get?_eq_some_iff.mpr first_mem)
    (get?_eq_some_iff.mpr second_mem))

theorem isSome_get? {map : OrderedMap κ α} {key : κ} :
    (map.get? key).isSome = map.contains key := by
  rw [get?, Option.isSome_map, List.isSome_find?, contains]

theorem isEmpty_iff_forall_get? {map : OrderedMap κ α} :
    map.isEmpty = true ↔ ∀ key, map.get? key = none := by
  simp only [get?_eq_none_iff, keys, isEmpty, List.isEmpty_iff]
  rw [← List.eq_nil_iff_forall_not_mem, List.map_eq_nil_iff]

@[simp]
theorem get?_empty (key : κ) : (empty : OrderedMap κ α).get? key = none := rfl

@[simp]
theorem keys_adjust (map : OrderedMap κ α) (key : κ) (change : α → α) :
    (map.adjust key change).keys = map.keys := by
  simp only [keys, adjust, List.map_map]
  apply List.map_congr_left
  intro entry _
  by_cases same : entry.1 = key <;> simp [same]

theorem entries_adjust (map : OrderedMap κ α) (key : κ) (change : α → α) :
    (map.adjust key change).entries = map.entries.map fun entry =>
      if entry.1 = key then (entry.1, change entry.2) else entry := rfl

/-- Changing the value at a key changes no other value. -/
theorem get?_adjust (map : OrderedMap κ α) (key other : κ) (change : α → α) :
    (map.adjust key change).get? other =
      if other = key then (map.get? other).map change else map.get? other := by
  simp only [get?, adjust, List.find?_map, Function.comp_def]
  have keeps_key : (fun entry : κ × α =>
      decide ((if entry.1 = key then (entry.1, change entry.2) else entry).1 = other)) =
        fun entry => decide (entry.1 = other) := by
    funext entry
    by_cases same : entry.1 = key <;> simp [same]
  rw [keeps_key]
  cases found : map.entries.find? fun entry => decide (entry.1 = other) with
  | none => simp
  | some entry =>
    have entry_key : entry.1 = other := by simpa using List.find?_some found
    subst entry_key
    by_cases same : entry.1 = key <;> simp [same]

theorem keys_insert_of_mem {map : OrderedMap κ α} {key : κ} {value : α}
    (present : key ∈ map.keys) : (map.insert key value).keys = map.keys := by
  rw [insert, dif_pos (contains_iff_mem_keys.mpr present), keys_adjust]

theorem keys_insert_of_not_mem {map : OrderedMap κ α} {key : κ} {value : α}
    (absent : key ∉ map.keys) : (map.insert key value).keys = map.keys ++ [key] := by
  have not_contained : ¬ map.contains key = true := fun found =>
    absent (contains_iff_mem_keys.mp found)
  rw [insert, dif_neg not_contained]
  simp [keys, append]

theorem entries_insert_of_not_mem {map : OrderedMap κ α} {key : κ} {value : α}
    (absent : key ∉ map.keys) : (map.insert key value).entries = map.entries ++ [(key, value)] := by
  have not_contained : ¬ map.contains key = true := fun found =>
    absent (contains_iff_mem_keys.mp found)
  rw [insert, dif_neg not_contained]
  rfl

/-- Inserting sets the value at one key and changes no other value. -/
theorem get?_insert (map : OrderedMap κ α) (key other : κ) (value : α) :
    (map.insert key value).get? other = if other = key then some value else map.get? other := by
  by_cases present : map.contains key = true
  · rw [insert, dif_pos present, get?_adjust]
    split
    · rename_i same
      subst same
      rw [← isSome_get?] at present
      obtain ⟨old, found⟩ := Option.isSome_iff_exists.mp present
      simp [found]
    · rfl
  · rw [insert, dif_neg present]
    have absent : map.get? key = none := by
      rw [← isSome_get?] at present
      simpa using present
    simp only [get?, append, List.find?_append]
    simp only [get?] at absent
    by_cases same : other = key
    · subst same
      cases found : map.entries.find? fun entry => decide (entry.1 = other) with
      | none => simp
      | some entry => simp [found] at absent
    · have differs : ¬ key = other := fun equal => same equal.symm
      simp [same, differs]

theorem entries_erase (map : OrderedMap κ α) (key : κ) :
    (map.erase key).entries = map.entries.filter fun entry => entry.1 ≠ key := rfl

theorem keys_erase (map : OrderedMap κ α) (key : κ) :
    (map.erase key).keys = map.keys.filter fun other => other ≠ key := by
  simp only [keys, erase, filter, List.filter_map]
  rfl

/-- Erasing takes away the value at one key and changes no other value. -/
theorem get?_erase (map : OrderedMap κ α) (key other : κ) :
    (map.erase key).get? other = if other = key then none else map.get? other := by
  simp only [get?, erase, filter, List.find?_filter]
  by_cases same : other = key
  · subst same
    simp only [if_true, Option.map_eq_none_iff, List.find?_eq_none]
    intro entry _
    simp
  · simp only [same, if_false]
    congr 1
    apply congrArg (fun test => map.entries.find? test)
    funext entry
    by_cases here : entry.1 = other
    · simp [here, same]
    · simp [here]

theorem get?_filter (map : OrderedMap κ α) (keep : κ → Bool) (key : κ) :
    (map.filter fun key _ => keep key).get? key = if keep key then map.get? key else none := by
  apply Option.ext
  intro value
  rw [get?_eq_some_iff]
  by_cases kept : keep key = true
  · simp [filter, kept, get?_eq_some_iff]
  · simp [filter, kept]

/-- Two maps with the same keys in the same order and the same values are equal. -/
theorem ext_get? {first second : OrderedMap κ α} (same_keys : first.keys = second.keys)
    (same_values : ∀ key, first.get? key = second.get? key) : first = second := by
  have entry_eq (map : OrderedMap κ α) :
      map.entries.map (fun entry => (entry.1, some entry.2)) =
        map.keys.map fun key => (key, map.get? key) := by
    rw [keys, List.map_map]
    apply List.map_congr_left
    intro entry entry_mem
    have found : map.get? entry.1 = some entry.2 := get?_eq_some_iff.mpr entry_mem
    simp [found]
  have mapped : first.entries.map (fun entry => (entry.1, some entry.2)) =
      second.entries.map fun entry => (entry.1, some entry.2) := by
    rw [entry_eq, entry_eq, same_keys]
    apply List.map_congr_left
    intro key _
    rw [same_values]
  refine ext_entries (List.map_inj_right (fun one other equal => ?_) |>.mp mapped)
  simp only [Prod.mk.injEq, Option.some.injEq] at equal
  exact Prod.ext equal.1 equal.2

/-- Erasing a key that was new takes back the insertion. -/
theorem erase_insert_of_not_mem {map : OrderedMap κ α} {key : κ} (absent : key ∉ map.keys)
    (value : α) : (map.insert key value).erase key = map := by
  refine ext_get? ?_ fun other => ?_
  · rw [keys_erase, keys_insert_of_not_mem absent, List.filter_append, List.filter_eq_self.mpr]
    · simp
    · intro other other_mem
      have differs : other ≠ key := fun same => absent (same ▸ other_mem)
      simpa using differs
  · rw [get?_erase]
    split
    · rename_i same
      rw [same, get?_eq_none_iff.mpr absent]
    · rename_i differs
      rw [get?_insert, if_neg differs]

/-- Setting a key back to the value that it had takes back the insertion. -/
theorem insert_insert_of_get? {map : OrderedMap κ α} {key : κ} {value : α}
    (found : map.get? key = some value) (other : α) :
    (map.insert key other).insert key value = map := by
  have present : key ∈ map.keys := mem_keys_iff.mpr ⟨value, found⟩
  have still_present : key ∈ (map.insert key other).keys := by
    rwa [keys_insert_of_mem present]
  refine ext_get? ?_ fun there => ?_
  · rw [keys_insert_of_mem still_present, keys_insert_of_mem present]
  · simp only [get?_insert]
    split
    · rename_i same
      rw [same, found]
    · rfl

/-- Inserting entries with different keys one after another leaves them in their order. -/
theorem entries_ofList {entries : List (κ × α)} (distinct : (entries.map Prod.fst).Nodup) :
    (ofList entries).entries = entries := by
  have along (entries : List (κ × α)) (start : OrderedMap κ α)
      (distinct : ((start.entries ++ entries).map Prod.fst).Nodup) :
      (entries.foldl (fun map entry => map.insert entry.1 entry.2) start).entries =
        start.entries ++ entries := by
    induction entries generalizing start with
    | nil => rw [List.foldl_nil, List.append_nil]
    | cons entry rest ih =>
      have fresh : entry.1 ∉ start.keys := by
        rw [List.map_append, List.nodup_append] at distinct
        exact fun known => distinct.2.2 _ known _ List.mem_cons_self rfl
      have inserted : (start.insert entry.1 entry.2).entries = start.entries ++ [entry] :=
        entries_insert_of_not_mem fresh
      rw [List.foldl_cons, ih _ (by simpa [inserted] using distinct), inserted, List.append_assoc]
      rfl
  exact along entries empty distinct

/-- A map is made again from its entries. -/
theorem ofList_entries (map : OrderedMap κ α) : ofList map.entries = map :=
  ext_entries (entries_ofList map.keys_nodup)

/-! ## One entry and the rest -/

/-- At most one entry has a given key. -/
theorem filter_entries_key (map : OrderedMap κ α) (key : κ) :
    (map.entries.filter fun entry => entry.1 = key) =
      ((map.get? key).map fun value => (key, value)).toList := by
  obtain ⟨entries, distinct⟩ := map
  induction entries with
  | nil => rfl
  | cons head rest ih =>
    obtain ⟨head_fresh, rest_distinct⟩ := List.nodup_cons.mp distinct
    have tail := ih rest_distinct
    by_cases same : head.1 = key
    · have none_later : (rest.filter fun entry => entry.1 = key) = [] := by
        rw [List.filter_eq_nil_iff]
        intro entry entry_mem
        rw [decide_eq_true_eq, ← same]
        exact fun equal => head_fresh (equal ▸ List.mem_map_of_mem entry_mem)
      rw [List.filter_cons_of_pos (by simp [same]), none_later, ← same]
      simp [get?]
    · rw [List.filter_cons_of_neg (by simp [same]), tail]
      simp [get?, same]

/-- A map is an entry together with the others. -/
theorem entries_perm_erase {map : OrderedMap κ α} {key : κ} {value : α}
    (found : map.get? key = some value) :
    map.entries.Perm ((key, value) :: (map.erase key).entries) := by
  have parts := List.filter_append_perm (fun entry : κ × α => decide (entry.1 = key)) map.entries
  rw [filter_entries_key, found] at parts
  refine parts.symm.trans (List.Perm.of_eq ?_)
  rw [entries_erase]
  simp

theorem entries_adjust_perm {map : OrderedMap κ α} {key : κ} {value : α}
    (found : map.get? key = some value) (change : α → α) :
    (map.adjust key change).entries.Perm ((key, change value) :: (map.erase key).entries) := by
  have changed := (entries_perm_erase found).map fun entry : κ × α =>
    if entry.1 = key then (entry.1, change entry.2) else entry
  have others : ((map.erase key).entries.map fun entry =>
      if entry.1 = key then (entry.1, change entry.2) else entry) = (map.erase key).entries := by
    refine (List.map_congr_left fun entry entry_mem => ?_).trans (List.map_id _)
    have differs := (List.mem_filter.mp entry_mem).2
    rw [if_neg (by simpa using differs)]
    rfl
  rwa [List.map_cons, if_pos rfl, others, ← entries_adjust] at changed

end OrderedMap

end CodeWorkspace
