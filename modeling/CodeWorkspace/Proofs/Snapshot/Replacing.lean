import CodeWorkspace.Container.OrderedMap.Lemmas
import CodeWorkspace.Snapshot.Change

/-!
# Replacing one project of a snapshot

What is found in a snapshot after it was changed.  Nearly every change puts another project in the
place of one that is there and leaves all others exactly as they were, the moment of their last
writing included; `Snapshot.Replaced` says so.
-/

namespace CodeWorkspace

namespace Snapshot

variable {snapshot middle next : Snapshot} {id other : ProjectId} {project changed : Project}

/-! ## Finding projects -/

theorem contains_iff :
    snapshot.contains id = true ↔ ∃ project, snapshot.project? id = some project := by
  rw [contains, ← OrderedMap.isSome_get?, project?]
  cases snapshot.revisions.get? id <;> simp

theorem mem_ids_iff : id ∈ snapshot.ids ↔ snapshot.contains id = true :=
  OrderedMap.contains_iff_mem_keys.symm

theorem project?_eq_none_iff : snapshot.project? id = none ↔ snapshot.contains id = false := by
  rw [contains, ← OrderedMap.isSome_get?, project?]
  cases snapshot.revisions.get? id <;> simp

theorem mem_contents_iff :
    (id, project) ∈ snapshot.contents ↔ snapshot.project? id = some project := by
  simp only [contents, List.mem_map, project?, Option.map_eq_some_iff,
    OrderedMap.get?_eq_some_iff, Prod.mk.injEq]
  constructor
  · rintro ⟨⟨_, revision⟩, revision_mem, rfl, rfl⟩
    exact ⟨revision, revision_mem, rfl⟩
  · rintro ⟨revision, revision_mem, rfl⟩
    exact ⟨(id, revision), revision_mem, rfl, rfl⟩

theorem keys_contents (snapshot : Snapshot) : snapshot.contents.map Prod.fst = snapshot.ids := by
  simp [contents, ids, OrderedMap.keys]

theorem ids_nodup (snapshot : Snapshot) : snapshot.ids.Nodup := snapshot.revisions.keys_nodup

theorem projects_eq_contents (snapshot : Snapshot) :
    snapshot.projects = snapshot.contents.map Prod.snd := by
  simp [projects, contents, OrderedMap.values]

theorem mem_projects_iff :
    project ∈ snapshot.projects ↔ ∃ id, snapshot.project? id = some project := by
  simp [projects_eq_contents, mem_contents_iff]

/-! ## Writing and erasing -/

theorem get?_write (snapshot : Snapshot) (id other : ProjectId) (project : Project) :
    (snapshot.write id project).revisions.get? other =
      if other = id then some { project, stamp := snapshot.clock }
      else snapshot.revisions.get? other :=
  OrderedMap.get?_insert _ _ _ _

theorem project?_write (snapshot : Snapshot) (id other : ProjectId) (project : Project) :
    (snapshot.write id project).project? other =
      if other = id then some project else snapshot.project? other := by
  rw [project?, get?_write]
  split <;> rfl

theorem ids_write_of_contains (present : snapshot.contains id = true) (project : Project) :
    (snapshot.write id project).ids = snapshot.ids :=
  OrderedMap.keys_insert_of_mem (OrderedMap.contains_iff_mem_keys.mp present)

theorem contents_write_of_absent (absent : snapshot.contains id = false) (project : Project) :
    (snapshot.write id project).contents = snapshot.contents ++ [(id, project)] := by
  have missing : id ∉ snapshot.revisions.keys := fun known => by
    rw [contains, OrderedMap.contains_iff_mem_keys.mpr known] at absent
    cases absent
  simp only [contents, write, OrderedMap.entries_insert_of_not_mem missing, List.map_append,
    List.map_cons, List.map_nil]

theorem project?_erase (snapshot : Snapshot) (id other : ProjectId) :
    (snapshot.erase id).project? other = if other = id then none else snapshot.project? other := by
  rw [project?, erase, OrderedMap.get?_erase]
  split <;> rfl

/-! ## Replacing one project -/

/-- A snapshot has another project in the place of one and holds the others as before. -/
structure Replaced (snapshot : Snapshot) (id : ProjectId) (project : Project) (next : Snapshot) :
    Prop where
  found : next.project? id = some project
  others : ∀ other, other ≠ id → next.revisions.get? other = snapshot.revisions.get? other
  ids_eq : next.ids = snapshot.ids

theorem Replaced.project?_of_ne (replaced : Replaced snapshot id project next)
    (differs : other ≠ id) : next.project? other = snapshot.project? other := by
  rw [project?, project?, replaced.others other differs]

theorem Replaced.contains_eq (replaced : Replaced snapshot id project next) (other : ProjectId) :
    next.contains other = snapshot.contains other := by
  rw [Bool.eq_iff_iff, ← mem_ids_iff, ← mem_ids_iff, replaced.ids_eq]

theorem Replaced.refl (found : snapshot.project? id = some project) :
    Replaced snapshot id project snapshot :=
  ⟨found, fun _ _ => rfl, rfl⟩

theorem Replaced.trans (first : Replaced snapshot id project middle)
    (second : Replaced middle id changed next) : Replaced snapshot id changed next where
  found := second.found
  others other differs := (second.others other differs).trans (first.others other differs)
  ids_eq := second.ids_eq.trans first.ids_eq

theorem Replaced.withVersion (replaced : Replaced snapshot id project next) (version : UInt64) :
    Replaced snapshot id project (next.withVersion version) :=
  ⟨replaced.found, replaced.others, replaced.ids_eq⟩

theorem replaced_write (found : snapshot.project? id = some project) (changed : Project) :
    Replaced snapshot id changed (snapshot.write id changed) where
  found := by rw [project?_write, if_pos rfl]
  others other differs := by rw [get?_write, if_neg differs]
  ids_eq := ids_write_of_contains (contains_iff.mpr ⟨project, found⟩) changed

theorem require_of_found (found : snapshot.project? id = some project) :
    snapshot.require id = .ok project := by
  rw [require, found]

theorem modify_of_found (found : snapshot.project? id = some project)
    (change : Project → Attempt Project) :
    snapshot.modify id change = (change project).map fun reached => snapshot.write id reached := by
  rw [modify, found]

theorem modify_of_missing (missing : snapshot.project? id = none)
    (change : Project → Attempt Project) :
    snapshot.modify id change = .stopped snapshot (.projectNotFound id) := by
  rw [modify, missing]

/-! ## Taking out references to a project -/

/-- What remains of a project when another one is removed. -/
def cutOff (target : ProjectId) (project : Project) : Project :=
  if project.refersTo target then project.withoutReferencesTo target else project

theorem project?_dropReferencesTo (target : ProjectId) (contents : List (ProjectId × Project))
    (distinct : (contents.map Prod.fst).Nodup)
    (found : ∀ entry ∈ contents, snapshot.project? entry.1 = some entry.2) (id : ProjectId) :
    (snapshot.dropReferencesTo target contents).project? id =
      if id ∈ contents.map Prod.fst then (snapshot.project? id).map (cutOff target)
      else snapshot.project? id := by
  induction contents generalizing snapshot with
  | nil => rfl
  | cons entry rest ih =>
    obtain ⟨key, project⟩ := entry
    simp only [List.map_cons, List.nodup_cons] at distinct
    obtain ⟨fresh, distinct⟩ := distinct
    have here : snapshot.project? key = some project := found _ List.mem_cons_self
    have later : ∀ entry ∈ rest, snapshot.project? entry.1 = some entry.2 :=
      fun entry entry_mem => found entry (List.mem_cons_of_mem _ entry_mem)
    have not_key : ∀ entry ∈ rest, entry.1 ≠ key := fun entry entry_mem same =>
      fresh (same ▸ List.mem_map_of_mem entry_mem)
    simp only [dropReferencesTo, List.foldl_cons, List.map_cons, List.mem_cons]
    by_cases refers : project.refersTo target = true
    · rw [if_pos refers]
      have step := @ih (snapshot.write key (project.withoutReferencesTo target)) distinct
        fun entry entry_mem => by
          rw [project?_write, if_neg (not_key entry entry_mem), later entry entry_mem]
      simp only [dropReferencesTo] at step
      rw [step, project?_write]
      by_cases same : id = key
      · subst same
        simp [fresh, here, cutOff, refers]
      · simp only [same, false_or, if_false]
    · rw [if_neg refers]
      have step := ih distinct later
      simp only [dropReferencesTo] at step
      rw [step]
      by_cases same : id = key
      · subst same
        simp [fresh, here, cutOff, refers]
      · simp only [same, false_or]

theorem ids_dropReferencesTo (target : ProjectId) (contents : List (ProjectId × Project))
    (present : ∀ entry ∈ contents, snapshot.contains entry.1 = true) :
    (snapshot.dropReferencesTo target contents).ids = snapshot.ids := by
  induction contents generalizing snapshot with
  | nil => rfl
  | cons entry rest ih =>
    have here := present entry List.mem_cons_self
    have later : ∀ other ∈ rest, snapshot.contains other.1 = true := fun other other_mem =>
      present other (List.mem_cons_of_mem _ other_mem)
    simp only [dropReferencesTo, List.foldl_cons]
    split
    · have same_ids := ids_write_of_contains here (entry.2.withoutReferencesTo target)
      refine (ih fun other other_mem => ?_).trans same_ids
      rw [← mem_ids_iff, same_ids, mem_ids_iff]
      exact later other other_mem
    · exact ih later

theorem removeProject_of_contains (present : snapshot.contains id = true) :
    ∃ next, snapshot.removeProject id = .ok next ∧
      (∀ other, next.project? other =
        if other = id then none else (snapshot.project? other).map (cutOff id)) ∧
      next.ids = snapshot.ids.filter (· ≠ id) := by
  refine ⟨_, by rw [removeProject, if_pos present], ?_, ?_⟩
  · intro other
    rw [project?_dropReferencesTo id _ (by rw [keys_contents]; exact ids_nodup _)
      fun entry entry_mem => mem_contents_iff.mp entry_mem, keys_contents]
    have erased := project?_erase snapshot id other
    by_cases member : other ∈ (snapshot.erase id).ids
    · rw [if_pos member, erased]
      split <;> rfl
    · have missing := project?_eq_none_iff.mpr (Bool.eq_false_iff.mpr (mt mem_ids_iff.mpr member))
      rw [if_neg member, missing]
      by_cases same : other = id
      · rw [if_pos same]
      · rw [if_neg same, missing] at erased
        rw [if_neg same, ← erased]
        rfl
  · rw [ids_dropReferencesTo]
    · exact OrderedMap.keys_erase _ _
    · intro entry entry_mem
      exact contains_iff.mpr ⟨entry.2, mem_contents_iff.mp entry_mem⟩

theorem removeProject_of_not_contains (absent : snapshot.contains id = false) :
    snapshot.removeProject id = .error (.projectNotFound id) := by
  simp [removeProject, absent]

end Snapshot

end CodeWorkspace
