import CodeWorkspace.Container.OrderedMap.Lemmas
import CodeWorkspace.Container.OrderedSet.Lemmas
import CodeWorkspace.Proofs.Session.Action

/-!
# Upkeep of the index of outputs and of the watcher

The index of outputs is a relation between projects and the keys of paths.  It shows a project as
the project's properties say, and goes on to do so when a property is replaced; hence replacing a
property and putting the old one back restores the relation, also if both outputs of the project
have the same key.  Each pair is recorded once, and no key is left without an owner.  Tokens of a
watcher are numbered below the next one, so a watch that is ended at once leaves the watches as they
were.
-/

namespace CodeWorkspace

namespace OutputIndex

variable {index after : OutputIndex} {project other : ProjectId} {key : String}
  {properties : Properties}

/-- A project publishes at the paths with a key. -/
def Publishes (index : OutputIndex) (project : ProjectId) (key : String) : Prop :=
  ∃ owners, index.owners.get? key = some owners ∧ project ∈ owners

theorem not_publishes_empty (comparison : PathComparison) :
    ¬ (empty comparison).Publishes project key := by
  rintro ⟨owners, found, _⟩
  cases found

theorem mem_ownersOf {path : String} :
    project ∈ index.ownersOf path ↔ index.Publishes project (index.comparison.key path) := by
  rw [ownersOf, Publishes]
  cases index.owners.get? (index.comparison.key path) with
  | none => simp
  | some owners => simp

theorem publishes_register (path : String) :
    (index.register project path).Publishes other key ↔
      index.Publishes other key ∨ other = project ∧ key = index.comparison.key path := by
  simp only [Publishes, register, OrderedMap.get?_insert]
  by_cases same : key = index.comparison.key path
  · subst same
    simp only [if_true, Option.some.injEq, exists_eq_left', OrderedSet.mem_insert, mem_ownersOf,
      and_true, Publishes]
  · simp only [same, if_false, and_false, or_false]

theorem publishes_withdraw (chosen : String → Bool) :
    (index.withdraw project chosen).Publishes other key ↔
      index.Publishes other key ∧ ¬ (other = project ∧ chosen key = true) := by
  simp only [Publishes, OrderedMap.get?_eq_some_iff]
  constructor
  · rintro ⟨owners, entry_mem, known⟩
    obtain ⟨⟨there, old⟩, old_mem, same⟩ := List.mem_map.mp (List.mem_filter.mp entry_mem).1
    obtain ⟨rfl, rfl⟩ := Prod.mk.inj same
    by_cases picked : chosen there = true
    · simp only [if_pos picked] at known
      obtain ⟨known, differs⟩ := OrderedSet.mem_erase.mp known
      exact ⟨⟨old, old_mem, known⟩, fun gone => differs gone.1⟩
    · simp only [if_neg picked] at known
      exact ⟨⟨old, old_mem, known⟩, fun gone => picked gone.2⟩
  · rintro ⟨⟨old, old_mem, known⟩, stays⟩
    have known_still : other ∈ if chosen key = true then old.erase project else old := by
      split
      · rename_i picked
        exact OrderedSet.mem_erase.mpr ⟨known, fun same => stays ⟨same, picked⟩⟩
      · exact known
    refine ⟨_, List.mem_filter.mpr ⟨List.mem_map.mpr ⟨(key, old), old_mem, rfl⟩, ?_⟩, known_still⟩
    rw [Bool.not_eq_true', Bool.eq_false_iff]
    intro nothing
    rw [OrderedSet.mem_def, OrderedSet.isEmpty_iff.mp nothing] at known_still
    cases known_still

theorem publishes_unregisterProject :
    (index.unregisterProject project).Publishes other key ↔
      index.Publishes other key ∧ other ≠ project := by
  rw [unregisterProject, publishes_withdraw]
  simp

theorem publishes_registerAll (paths : List String) :
    (paths.foldl (fun reached path => reached.register project path) index).Publishes other key ↔
      index.Publishes other key ∨
        other = project ∧ ∃ path ∈ paths, key = index.comparison.key path := by
  induction paths generalizing index with
  | nil => simp
  | cons path rest ih =>
    rw [List.foldl_cons, ih, publishes_register]
    simp only [List.mem_cons, exists_eq_or_imp, register]
    grind

/-- The project publishes at the paths that its properties say, and at no others. -/
def Shows (index : OutputIndex) (project : ProjectId) (properties : Properties) : Prop :=
  ∀ key, index.Publishes project key ↔
    ∃ path ∈ properties.outputPaths, key = index.comparison.key path

/-- What an index says of other projects stays. -/
def SameElsewhere (project : ProjectId) (before after : OutputIndex) : Prop :=
  ∀ other key, other ≠ project → (after.Publishes other key ↔ before.Publishes other key)

theorem publishes_follow {before : Property} (output : before.isOutput = true) :
    (index.follow project before properties).Publishes other key ↔
      index.Publishes other key ∧
          ¬ (other = project ∧ ∃ path, before.outputPath? = some path ∧
            key = index.comparison.key path) ∨
        other = project ∧ ∃ path ∈ properties.outputPaths, key = index.comparison.key path := by
  rw [follow, if_pos output, publishes_registerAll]
  cases before.outputPath? with
  | none => simp
  | some path =>
    simp only [unregister, publishes_withdraw, decide_eq_true_eq, Option.some.injEq,
      exists_eq_left']
    rfl

theorem sameElsewhere_follow (before : Property) :
    SameElsewhere project index (index.follow project before properties) := by
  intro other key differs
  cases output : before.isOutput with
  | true => simp [publishes_follow output, differs]
  | false =>
    rw [follow, output]
    rfl

/-- The paths that a project gives up and takes up when a property is replaced. -/
theorem outputPaths_set (properties : Properties) (property : Property) :
    ∀ path ∈ properties.outputPaths, (properties.now property).outputPath? = some path ∨
      path ∈ (properties.set property).outputPaths := by
  intro path path_mem
  rw [Properties.outputPaths, List.mem_append, Option.mem_toList, Option.mem_toList] at path_mem
  cases property <;>
    simp only [Properties.set, Properties.now, Property.outputPath?, Properties.outputPaths,
      List.mem_append, Option.mem_toList] at path_mem ⊢ <;> grind

theorem outputPaths_set_of_not_isOutput {property : Property}
    (silent : property.isOutput = false) (properties : Properties) :
    (properties.set property).outputPaths = properties.outputPaths := by
  cases property <;> first | rfl | cases silent

/-- An index that shows a project goes on to do so when a property of the project is replaced. -/
theorem Shows.follow (shows : index.Shows project properties) (property : Property) :
    (index.follow project (properties.now property) (properties.set property)).Shows project
      (properties.set property) := by
  intro key
  rw [Session.comparison_follow]
  cases output : property.isOutput with
  | true =>
    rw [publishes_follow ((Session.isOutput_now properties property).trans output)]
    constructor
    · rintro (⟨known, kept⟩ | ⟨_, shown⟩)
      · obtain ⟨path, path_mem, rfl⟩ := (shows key).mp known
        rcases outputPaths_set properties property path path_mem with given_up | stays
        · exact absurd ⟨rfl, path, given_up, rfl⟩ kept
        · exact ⟨path, stays, rfl⟩
      · exact shown
    · exact fun shown => Or.inr ⟨rfl, shown⟩
  | false =>
    rw [OutputIndex.follow, Session.isOutput_now, output, if_neg Bool.false_ne_true,
      outputPaths_set_of_not_isOutput output]
    exact shows key

/-! ### Records -/

/-- The pairs of a key and a project that are recorded, in the order of the keys. -/
def records (index : OutputIndex) : List (String × ProjectId) :=
  index.owners.entries.flatMap fun entry => entry.2.elements.map (entry.1, ·)

theorem mem_records : (key, project) ∈ index.records ↔ index.Publishes project key := by
  simp only [records, Publishes, OrderedMap.get?_eq_some_iff, List.mem_flatMap, List.mem_map,
    Prod.mk.injEq]
  constructor
  · rintro ⟨⟨_, owners⟩, entry_mem, _, known, rfl, rfl⟩
    exact ⟨owners, entry_mem, known⟩
  · rintro ⟨owners, entry_mem, known⟩
    exact ⟨(key, owners), entry_mem, project, known, rfl, rfl⟩

/-- No pair is recorded twice, since neither a key nor an owner of a key occurs twice. -/
theorem nodup_records (index : OutputIndex) : index.records.Nodup := by
  refine List.pairwise_flatMap.mpr ⟨fun entry _ => ?_, ?_⟩
  · exact List.pairwise_map.mpr (entry.2.nodup.imp fun differ same => differ (Prod.mk.inj same).2)
  · refine (List.pairwise_map.mp index.owners.keys_nodup).imp
      fun differ one here another there => ?_
    obtain ⟨_, _, rfl⟩ := List.mem_map.mp here
    obtain ⟨_, _, rfl⟩ := List.mem_map.mp there
    exact fun same => differ (Prod.mk.inj same).1

/-- Every key has an owner. -/
def Occupied (index : OutputIndex) : Prop :=
  ∀ key owners, (key, owners) ∈ index.owners.entries → owners.isEmpty = false

theorem occupied_empty (comparison : PathComparison) : (empty comparison).Occupied :=
  fun _ _ entry_mem => absurd entry_mem List.not_mem_nil

theorem Occupied.register (occupied : index.Occupied) (project : ProjectId) (path : String) :
    (index.register project path).Occupied := by
  intro key owners entry_mem
  rcases OrderedMap.mem_entries_insert entry_mem with added | old
  · obtain ⟨rfl, rfl⟩ := Prod.mk.inj added
    rw [Bool.eq_false_iff]
    intro nothing
    have own : project ∈ (index.ownersOf path).insert project :=
      OrderedSet.mem_insert.mpr (Or.inr rfl)
    rw [OrderedSet.mem_def, OrderedSet.isEmpty_iff.mp nothing] at own
    cases own
  · exact occupied key owners old

/-- Keys without owners are dropped whenever a project is taken out. -/
theorem occupied_withdraw (index : OutputIndex) (project : ProjectId) (chosen : String → Bool) :
    (index.withdraw project chosen).Occupied := by
  intro key owners entry_mem
  simpa using (List.mem_filter.mp entry_mem).2

theorem Occupied.registerAll (occupied : index.Occupied) (paths : List String) :
    (paths.foldl (fun reached path => reached.register project path) index).Occupied := by
  induction paths generalizing index with
  | nil => exact occupied
  | cons path rest ih => exact ih (occupied.register project path)

theorem Occupied.follow (occupied : index.Occupied) (project : ProjectId) (before : Property)
    (properties : Properties) : (index.follow project before properties).Occupied := by
  rw [OutputIndex.follow]
  split
  · refine Occupied.registerAll ?_ _
    split
    · exact index.occupied_withdraw project _
    · exact occupied
  · exact occupied

/-- Two indexes that show a project alike and are the same elsewhere are the same relation. -/
theorem publishes_iff_of_shows (shows : index.Shows project properties)
    (shows_after : after.Shows project properties) (same : after.comparison = index.comparison)
    (elsewhere : SameElsewhere project index after) :
    after.Publishes other key ↔ index.Publishes other key := by
  by_cases here : other = project
  · subst here
    rw [shows_after, shows, same]
  · exact elsewhere other key here

end OutputIndex

namespace Watcher

variable {watcher : Watcher} {token : WatchToken}

/-- The tokens in use have smaller numbers than the next one. -/
def Numbered (watcher : Watcher) : Prop :=
  ∀ token ∈ watcher.active.keys, token.number < watcher.next

theorem Numbered.watch (numbered : watcher.Numbered) (path : String) :
    (watcher.watch path).2.Numbered := by
  intro token token_mem
  obtain ⟨there, found⟩ := OrderedMap.mem_keys_iff.mp token_mem
  simp only [Watcher.watch, OrderedMap.get?_insert] at found ⊢
  split at found
  · rename_i same
    rw [same]
    exact Nat.lt_succ_self _
  · exact Nat.lt_succ_of_lt (numbered token (OrderedMap.mem_keys_iff.mpr ⟨there, found⟩))

theorem Numbered.entries_watch (numbered : watcher.Numbered) (path : String) :
    (watcher.watch path).2.active.entries =
      watcher.active.entries ++ [(⟨watcher.next⟩, path)] :=
  OrderedMap.entries_insert_of_not_mem fun used => Nat.lt_irrefl _ (numbered _ used)

theorem Numbered.unwatch (numbered : watcher.Numbered) (token : WatchToken) :
    (watcher.unwatch token).Numbered := by
  intro other other_mem
  rw [Watcher.unwatch, OrderedMap.keys_erase, List.mem_filter] at other_mem
  exact numbered other other_mem.1

theorem Numbered.unwatchAll (numbered : watcher.Numbered) (tokens : List WatchToken) :
    (watcher.unwatchAll tokens).Numbered := by
  induction tokens generalizing watcher with
  | nil => exact numbered
  | cons token rest ih => exact ih (numbered.unwatch token)

theorem next_unwatchAll (watcher : Watcher) (tokens : List WatchToken) :
    (watcher.unwatchAll tokens).next = watcher.next := by
  induction tokens generalizing watcher with
  | nil => rfl
  | cons token rest ih => exact ih (watcher.unwatch token)

theorem entries_unwatchAll (watcher : Watcher) (tokens : List WatchToken) :
    (watcher.unwatchAll tokens).active.entries =
      watcher.active.entries.filter fun entry => entry.1 ∉ tokens := by
  induction tokens generalizing watcher with
  | nil => exact (List.filter_eq_self.mpr fun _ _ => rfl).symm
  | cons token rest ih =>
    refine (ih (watcher.unwatch token)).trans ?_
    rw [Watcher.unwatch, OrderedMap.entries_erase, List.filter_filter]
    refine List.filter_congr fun entry _ => ?_
    by_cases here : entry.1 = token <;> simp [here]

theorem mem_keys_unwatchAll {tokens : List WatchToken} :
    token ∈ (watcher.unwatchAll tokens).active.keys ↔
      token ∈ watcher.active.keys ∧ token ∉ tokens := by
  rw [OrderedMap.keys, entries_unwatchAll, OrderedMap.keys]
  simp only [List.mem_map, List.mem_filter]
  grind

/-- A watch that is ended at once leaves the watches as they were. -/
theorem Numbered.active_unwatch_watch (numbered : watcher.Numbered) (path : String) :
    ((watcher.watch path).2.unwatch ⟨watcher.next⟩).active = watcher.active := by
  have absent : (⟨watcher.next⟩ : WatchToken) ∉ watcher.active.keys := fun used =>
    Nat.lt_irrefl _ (numbered _ used)
  simp only [Watcher.watch, Watcher.unwatch]
  apply OrderedMap.ext_get?
  · rw [OrderedMap.keys_erase, OrderedMap.keys_insert_of_not_mem absent, List.filter_append,
      List.filter_eq_self.mpr, List.filter_cons_of_neg (by simp), List.filter_nil,
      List.append_nil]
    intro token used
    simp only [ne_eq, decide_not, Bool.not_eq_true', decide_eq_false_iff_not]
    rintro rfl
    exact absent used
  · intro token
    rw [OrderedMap.get?_erase, OrderedMap.get?_insert]
    split
    · rename_i same
      rw [same, OrderedMap.get?_eq_none_iff.mpr absent]
    · rfl

end Watcher

end CodeWorkspace
