import CodeWorkspace.Proofs.Snapshot.Replacing
import Mathlib.Data.List.Basic

/-!
# The contents of snapshots

Two snapshots may hold the same projects although they were written at different moments and carry
different versions.
-/

namespace CodeWorkspace

namespace Snapshot

variable {first second : Snapshot}

/-- Two snapshots hold the same projects in the same order; versions and revisions may differ. -/
structure SameContents (first second : Snapshot) : Prop where
  ids_eq : second.ids = first.ids
  project?_eq : ∀ id, second.project? id = first.project? id

theorem SameContents.refl (snapshot : Snapshot) : SameContents snapshot snapshot :=
  ⟨rfl, fun _ => rfl⟩

/-- The contents are told by the identities and the projects found under them. -/
theorem contents_eq_filterMap (snapshot : Snapshot) : snapshot.contents =
    snapshot.ids.filterMap fun id => (snapshot.project? id).map fun project => (id, project) := by
  rw [contents, ids, OrderedMap.keys, List.filterMap_map, ← List.filterMap_eq_map]
  refine List.filterMap_congr fun entry entry_mem => ?_
  have found : snapshot.revisions.get? entry.1 = some entry.2 :=
    OrderedMap.get?_eq_some_iff.mpr entry_mem
  simp only [Function.comp, project?, found, Option.map_some]

theorem SameContents.contents_eq (same : SameContents first second) :
    second.contents = first.contents := by
  rw [contents_eq_filterMap, contents_eq_filterMap, same.ids_eq]
  simp only [same.project?_eq]

/-- Replacing the same project in the same way keeps the contents the same. -/
theorem SameContents.replaced (same : SameContents first second) {id : ProjectId}
    {project : Project} {after last : Snapshot} (replaced : first.Replaced id project after)
    (second_replaced : second.Replaced id project last) : SameContents after last where
  ids_eq := by rw [second_replaced.ids_eq, replaced.ids_eq, same.ids_eq]
  project?_eq other := by
    by_cases here : other = id
    · rw [here, second_replaced.found, replaced.found]
    · rw [second_replaced.project?_of_ne here, replaced.project?_of_ne here, same.project?_eq]

end Snapshot

end CodeWorkspace
