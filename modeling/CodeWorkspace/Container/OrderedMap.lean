/-!
# Maps in insertion order

A finite map that lists its entries in the order in which their keys were first inserted.
Inserting at a key already present replaces the value and leaves the key where it stands; erasing
a key leaves the order of the others alone.  The defining view is `OrderedMap.entries`, whose keys
are distinct by construction.
-/

namespace CodeWorkspace

universe u v w

/-- A finite map whose entries stand in the order of first insertion. -/
structure OrderedMap (κ : Type u) (α : Type v) where
  /-- Every key with its value, oldest key first. -/
  entries : List (κ × α)
  /-- No key occurs twice. -/
  keys_nodup : (entries.map Prod.fst).Nodup

namespace OrderedMap

variable {κ : Type u} {α : Type v} {β : Type w}

/-- The map without entries. -/
def empty : OrderedMap κ α where
  entries := []
  keys_nodup := List.nodup_nil

instance : Inhabited (OrderedMap κ α) := ⟨empty⟩

/-- The keys, oldest first. -/
def keys (map : OrderedMap κ α) : List κ := map.entries.map Prod.fst

/-- The values, in the order of their keys. -/
def values (map : OrderedMap κ α) : List α := map.entries.map Prod.snd

/-- The number of keys. -/
def size (map : OrderedMap κ α) : Nat := map.entries.length

/-- Whether there are no entries. -/
def isEmpty (map : OrderedMap κ α) : Bool := map.entries.isEmpty

/-- Changes every value and no key. -/
def mapValues (change : κ → α → β) (map : OrderedMap κ α) : OrderedMap κ β where
  entries := map.entries.map fun entry => (entry.1, change entry.1 entry.2)
  keys_nodup := by
    simpa [Function.comp_def] using map.keys_nodup

/-- The entries that pass a test, in the same order. -/
def filter (keep : κ → α → Bool) (map : OrderedMap κ α) : OrderedMap κ α where
  entries := map.entries.filter fun entry => keep entry.1 entry.2
  keys_nodup := map.keys_nodup.sublist (List.filter_sublist.map _)

variable [DecidableEq κ]

/-- The value at a key. -/
def get? (map : OrderedMap κ α) (key : κ) : Option α :=
  (map.entries.find? fun entry => entry.1 = key).map Prod.snd

/-- Whether a key is present. -/
def contains (map : OrderedMap κ α) (key : κ) : Bool :=
  map.entries.any fun entry => entry.1 = key

/-- Removes a key; the other entries keep their order. -/
def erase (map : OrderedMap κ α) (key : κ) : OrderedMap κ α :=
  map.filter fun other _ => other ≠ key

/-- Changes the value at a key, if the key is present. -/
def adjust (map : OrderedMap κ α) (key : κ) (change : α → α) : OrderedMap κ α where
  entries := map.entries.map fun entry =>
    if entry.1 = key then (entry.1, change entry.2) else entry
  keys_nodup := by
    have keys_same : (map.entries.map fun entry =>
        if entry.1 = key then (entry.1, change entry.2) else entry).map Prod.fst =
          map.entries.map Prod.fst := by
      simp only [List.map_map]
      apply List.map_congr_left
      intro entry _
      by_cases same : entry.1 = key <;> simp [same]
    rw [keys_same]
    exact map.keys_nodup

theorem not_mem_keys_of_contains {map : OrderedMap κ α} {key : κ}
    (absent : map.contains key = false) : key ∉ map.entries.map Prod.fst := by
  intro present
  obtain ⟨entry, entry_mem, rfl⟩ := List.mem_map.mp present
  have found : map.contains entry.1 = true :=
    List.any_eq_true.mpr ⟨entry, entry_mem, by simp⟩
  rw [absent] at found
  cases found

/-- Adds an entry behind the others. -/
def append (map : OrderedMap κ α) (key : κ) (value : α)
    (absent : map.contains key = false) : OrderedMap κ α where
  entries := map.entries ++ [(key, value)]
  keys_nodup := by
    rw [List.map_append, List.nodup_append]
    refine ⟨map.keys_nodup, by simp, ?_⟩
    intro present present_mem added added_mem
    simp only [List.map_cons, List.map_nil, List.mem_singleton] at added_mem
    subst added_mem
    intro same
    exact not_mem_keys_of_contains absent (same ▸ present_mem)

/-- Sets the value at a key: in place if the key is present, behind the others if not. -/
def insert (map : OrderedMap κ α) (key : κ) (value : α) : OrderedMap κ α :=
  if present : map.contains key = true then map.adjust key fun _ => value
  else map.append key value (Bool.eq_false_iff.mpr present)

theorem mem_entries_adjust {map : OrderedMap κ α} {key : κ} {change : α → α} {entry : κ × α}
    (entry_mem : entry ∈ (map.adjust key change).entries) :
    entry ∈ map.entries ∨ ∃ old, (key, old) ∈ map.entries ∧ entry = (key, change old) := by
  obtain ⟨old, old_mem, rfl⟩ := List.mem_map.mp entry_mem
  by_cases same : old.1 = key
  · right
    refine ⟨old.2, ?_, by simp [same]⟩
    rw [← same]
    exact old_mem
  · left
    simpa [same] using old_mem

theorem mem_entries_insert {map : OrderedMap κ α} {key : κ} {value : α} {entry : κ × α}
    (entry_mem : entry ∈ (map.insert key value).entries) :
    entry = (key, value) ∨ entry ∈ map.entries := by
  unfold insert at entry_mem
  split at entry_mem
  · rcases mem_entries_adjust entry_mem with kept | ⟨_, _, changed⟩
    · exact Or.inr kept
    · exact Or.inl changed
  · rcases List.mem_append.mp entry_mem with kept | added
    · exact Or.inr kept
    · exact Or.inl (List.mem_singleton.mp added)

theorem mem_entries_erase {map : OrderedMap κ α} {key : κ} {entry : κ × α}
    (entry_mem : entry ∈ (map.erase key).entries) : entry ∈ map.entries :=
  (List.mem_filter.mp entry_mem).1

/-- The map that results from inserting a list of entries one after another. -/
def ofList (entries : List (κ × α)) : OrderedMap κ α :=
  entries.foldl (fun map entry => map.insert entry.1 entry.2) empty

end OrderedMap

end CodeWorkspace
