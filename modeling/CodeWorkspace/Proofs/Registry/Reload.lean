import CodeWorkspace.Proofs.Registry.Mirror

/-!
# Changes of files

The change of a file concerns the committed document that comes from it, and no other one, since no
two documents of a registry have paths with the same key.  That document is loaded anew and stays
what and where it is.
-/

namespace CodeWorkspace

/-- The document after its text was loaded anew. -/
def Document.reloaded (document : Document) : Document :=
  { document with loader := document.loader.reloaded }

namespace RegistryEntry

variable {comparison : PathComparison} {path : String} {entry : RegistryEntry}

/-- Whether a change of the file at a path concerns an entry: the document is committed, it comes
from a file, and its path has the same key. -/
def hears (comparison : PathComparison) (path : String) (entry : RegistryEntry) : Bool :=
  entry.state = .committed ∧ entry.document.isBuffered = false ∧
    entry.document.path?.map comparison.key = some (comparison.key path)

/-- The entry after the text of its document was loaded anew. -/
def reloaded (entry : RegistryEntry) : RegistryEntry :=
  { entry with document := entry.document.reloaded }

/-- An entry after a change of the file at a path. -/
def heard (comparison : PathComparison) (path : String) (entry : RegistryEntry) : RegistryEntry :=
  if entry.hears comparison path then entry.reloaded else entry

theorem hears_iff : entry.hears comparison path = true ↔
    entry.state = .committed ∧ entry.document.isBuffered = false ∧
      entry.document.path?.map comparison.key = some (comparison.key path) := by
  simp [hears]

theorem heard_of_hears (hears : entry.hears comparison path = true) :
    entry.heard comparison path = entry.reloaded := if_pos hears

theorem heard_of_not_hears (deaf : entry.hears comparison path = false) :
    entry.heard comparison path = entry := if_neg (Bool.eq_false_iff.mp deaf)

end RegistryEntry

namespace Registry

variable {registry : Registry} {id other : DocumentId} {entry there : RegistryEntry}
  {path : String} {loader : Loader}

/-- The entries of a registry after a change of the file at a path. -/
def heard (registry : Registry) (path : String) : List (DocumentId × RegistryEntry) :=
  registry.entries.entries.map fun known => (known.1, known.2.heard registry.comparison path)

theorem Indexed.hears_iff (indexed : registry.Indexed)
    (found : registry.entries.get? id = some entry) :
    entry.hears registry.comparison path = true ↔ entry.state = .committed ∧
      entry.buffer? = none ∧ registry.byPath.get? (registry.key path) = some id := by
  have unbuffered : entry.document.isBuffered = false ↔ entry.buffer? = none := by
    rw [indexed.isBuffered_eq found, Option.isSome_eq_false_iff, Option.isNone_iff_eq_none]
  have located : entry.document.path?.map registry.comparison.key = some (registry.key path) ↔
      registry.byPath.get? (registry.key path) = some id := by
    rw [indexed.byPath (registry.key path) id, found]
    simp only [Option.some.injEq, exists_eq_left', indexed.pathKey_eq id entry found]
    rfl
  rw [RegistryEntry.hears_iff, unbuffered]
  exact and_congr_right fun _ => and_congr_right fun _ => located

/-- A change of a file concerns one document at most. -/
theorem Indexed.eq_of_hears (indexed : registry.Indexed)
    (found : registry.entries.get? id = some entry)
    (hears : entry.hears registry.comparison path = true)
    (there_found : registry.entries.get? other = some there)
    (there_hears : there.hears registry.comparison path = true) : other = id := by
  have here := ((indexed.hears_iff found).mp hears).2.2
  rw [((indexed.hears_iff there_found).mp there_hears).2.2] at here
  exact Option.some.inj here

theorem Indexed.reloadCandidate?_eq_some_iff (indexed : registry.Indexed) :
    registry.reloadCandidate? path = some (id, loader) ↔
      ∃ entry, registry.entries.get? id = some entry ∧
        entry.hears registry.comparison path = true ∧
          entry.document.loader.reloaded = loader := by
  simp only [reloadCandidate?, entry?_eq, Option.bind_eq_bind, Option.bind_eq_some_iff,
    Option.ite_none_right_eq_some, Option.some_inj, Prod.mk.injEq]
  constructor
  · rintro ⟨here, located, entry, found, ⟨state, unbuffered⟩, rfl, reloaded⟩
    exact ⟨entry, found, (indexed.hears_iff found).mpr ⟨state, unbuffered, located⟩, reloaded⟩
  · rintro ⟨entry, found, hears, reloaded⟩
    obtain ⟨state, unbuffered, located⟩ := (indexed.hears_iff found).mp hears
    exact ⟨id, located, entry, found, ⟨state, unbuffered⟩, rfl, reloaded⟩

/-- Without a candidate the change of a file concerns nothing. -/
theorem Indexed.heard_of_none (indexed : registry.Indexed)
    (no_candidate : registry.reloadCandidate? path = none) :
    registry.heard path = registry.entries.entries := by
  refine (List.map_congr_left ?_).trans (List.map_id _)
  rintro ⟨id, entry⟩ entry_mem
  have found := mem_entries_iff.mp entry_mem
  have deaf : entry.hears registry.comparison path = false := by
    rw [Bool.eq_false_iff]
    intro hears
    have candidate := indexed.reloadCandidate?_eq_some_iff.mpr ⟨entry, found, hears, rfl⟩
    rw [no_candidate] at candidate
    cases candidate
  rw [RegistryEntry.heard_of_not_hears deaf]
  rfl

/-- The candidate is all that the change of a file concerns. -/
theorem Indexed.entries_setLoader (indexed : registry.Indexed)
    (candidate : registry.reloadCandidate? path = some (id, loader)) :
    (registry.setLoader id loader).entries.entries = registry.heard path := by
  obtain ⟨entry, found, hears, rfl⟩ := indexed.reloadCandidate?_eq_some_iff.mp candidate
  refine List.map_congr_left ?_
  rintro ⟨other, there⟩ there_mem
  have there_found := mem_entries_iff.mp there_mem
  by_cases here : other = id
  · subst here
    rw [found] at there_found
    cases there_found
    rw [RegistryEntry.heard_of_hears hears]
    exact if_pos rfl
  · have deaf : there.hears registry.comparison path = false := by
      rw [Bool.eq_false_iff]
      intro there_hears
      exact here (indexed.eq_of_hears found hears there_found there_hears)
    rw [RegistryEntry.heard_of_not_hears deaf]
    exact if_neg here

end Registry

end CodeWorkspace
