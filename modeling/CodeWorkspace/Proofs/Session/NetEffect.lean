import CodeWorkspace.Proofs.Draft.NetEffect
import CodeWorkspace.Proofs.Host.Upkeep
import CodeWorkspace.Proofs.Registry.Custody
import CodeWorkspace.Proofs.Session.Submission
import CodeWorkspace.Proofs.Session.Waiting

/-!
# What a batch gathers

From the moment at which a batch is opened on a project in which nothing waits until it is closed,
edits change the draft and the watches only.  Watches that were taken in the batch are held by
documents that wait to be added, so they are all given back once nothing waits.
-/

namespace CodeWorkspace

namespace Watcher

variable {watcher : Watcher}

/-- The watches with the tokens before a number. -/
def earlier (watcher : Watcher) (number : Nat) : List (WatchToken × String) :=
  watcher.active.entries.filter fun entry => entry.1.number < number

theorem Numbered.earlier_next (numbered : watcher.Numbered) :
    watcher.earlier watcher.next = watcher.active.entries :=
  List.filter_eq_self.mpr fun entry listed =>
    decide_eq_true (numbered entry.1 (OrderedMap.mem_keys_of_mem_entries listed))

end Watcher

namespace Draft

variable {draft : Draft}

/-- A batch in which no property is set leaves no property waiting. -/
theorem properties_later (draft : Draft) (action : Action) :
    (action.later draft).changes.properties = [] ↔
      draft.changes.properties = [] ∧ action.answer ≠ .changed true := by
  cases action with
  | insert collection _ _ _ => cases collection <;> simp [Action.later, withRegistry, Action.answer]
  | remove collection _ => cases collection <;> simp [Action.later, withRegistry, Action.answer]
  | setProperty property => simp [Action.later, ChangeSet.pushProperty, Action.answer]
  | _ => simp [Action.later, Action.answer]

end Draft

namespace Session

variable {comparison : PathComparison} {project : Project} {start now after : Session}
  {edit : Edit} {action : Draft.Action} {collection : DocumentCollection}

/-- Who holds the watches since a batch was opened.  Those that were taken since then have larger
tokens and are held by documents that wait to be added; those from before are there as long as no
document was removed that is in the snapshot. -/
structure Custody (start now : Session) : Prop where
  numbered : now.host.watcher.Numbered
  next_le : start.host.watcher.next ≤ now.host.watcher.next
  taken : ∀ collection, ∀ token ∈ (now.draft.registry collection).waitingWatches,
    start.host.watcher.next ≤ token.number
  held : ∀ token ∈ now.host.watcher.active.keys, start.host.watcher.next ≤ token.number →
    ∃ collection, token ∈ (now.draft.registry collection).waitingWatches
  earlier : (∀ collection, (now.draft.registry collection).pendingRemoves = []) →
    now.host.watcher.earlier start.host.watcher.next = start.host.watcher.active.entries
  shown : ∀ collection, (now.draft.registry collection).pendingRemoves = [] →
    (now.draft.registry collection).shown = (start.draft.registry collection).entries.entries

theorem Custody.of_same (custody : Custody start now)
    (registries : ∀ collection, after.draft.registry collection = now.draft.registry collection)
    (watcher : after.host.watcher = now.host.watcher) : Custody start after := by
  obtain ⟨numbered, next_le, taken, held, earlier, shown⟩ := custody
  simp only [← registries, ← watcher] at numbered next_le taken held earlier shown
  exact ⟨numbered, next_le, taken, held, earlier, shown⟩

/-- When a batch is opened nothing has been taken. -/
theorem custody_refl (numbered : start.host.watcher.Numbered)
    (mirrors : Draft.Mirrors comparison project start.draft)
    (settled : start.draft.hasPending = false) : Custody start start := by
  have no_adds (collection : DocumentCollection) :
      (start.draft.registry collection).pendingAdds = [] :=
    (Registry.hasPending_eq_false_iff.mp
      ((Draft.hasPending_eq_false_iff.mp settled).1 collection)).1
  refine ⟨numbered, Nat.le_refl _, fun collection token held => ?_, fun token used later => ?_,
    fun _ => numbered.earlier_next, fun collection _ => ?_⟩
  · rw [Registry.waitingWatches,
      (mirrors collection).mirrors.waiting_eq_nil (no_adds collection)] at held
    cases held
  · exact absurd (numbered token used) (Nat.not_lt.mpr later)
  · exact (mirrors collection).mirrors.shown_eq_entries (no_adds collection)

/-- The document that is added holds the watch that is taken. -/
theorem Custody.insert (custody : Custody start now) {document : Document}
    {buffer? : Option BufferId} {watch? : Option WatchToken}
    (fresh : document.id ∉ (now.draft.registry collection).entries.keys)
    (draft_eq : after.draft = now.draft.withRegistry
      ((now.draft.registry collection).insert document buffer? watch? .pendingAdd) collection)
    (numbered : after.host.watcher.Numbered)
    (next_le : now.host.watcher.next ≤ after.host.watcher.next)
    (later : ∀ token, watch? = some token → now.host.watcher.next ≤ token.number)
    (entries : after.host.watcher.active.entries = now.host.watcher.active.entries ∨
      ∃ token path, watch? = some token ∧ after.host.watcher.active.entries =
        now.host.watcher.active.entries ++ [(token, path)]) : Custody start after := by
  have registry_eq (there : DocumentCollection) :
      (after.draft.registry there).waitingWatches =
          (now.draft.registry there).waitingWatches ++
            (if there = collection then watch?.toList else []) ∧
        (after.draft.registry there).shown = (now.draft.registry there).shown ∧
        (after.draft.registry there).pendingRemoves =
          (now.draft.registry there).pendingRemoves := by
    rw [draft_eq]
    by_cases here : there = collection
    · subst here
      rw [Draft.registry_withRegistry_self, if_pos rfl]
      exact ⟨Registry.waitingWatches_insert buffer? watch? fresh,
        Registry.shown_insert_pendingAdd buffer? watch? fresh, rfl⟩
    · rw [Draft.registry_withRegistry_of_ne here, if_neg here, List.append_nil]
      exact ⟨rfl, rfl, rfl⟩
  refine ⟨numbered, Nat.le_trans custody.next_le next_le, fun there token holds => ?_,
    fun token used from_start => ?_, fun none_leaves => ?_, fun there none_leaves => ?_⟩
  · rw [(registry_eq there).1, List.mem_append] at holds
    rcases holds with old | new
    · exact custody.taken there token old
    · split at new
      · exact Nat.le_trans custody.next_le (later token (Option.mem_toList.mp new))
      · cases new
  · have known : token ∈ now.host.watcher.active.keys ∨ watch? = some token := by
      rw [OrderedMap.keys] at used ⊢
      rcases entries with same | ⟨added, path, watched, more⟩
      · exact Or.inl (same ▸ used)
      · rw [more, List.map_append, List.mem_append] at used
        refine used.imp_right fun new => ?_
        rw [List.mem_singleton.mp new]
        exact watched
    rcases known with old | new
    · obtain ⟨there, holds⟩ := custody.held token old from_start
      exact ⟨there, (registry_eq there).1 ▸ List.mem_append_left _ holds⟩
    · refine ⟨collection, (registry_eq collection).1 ▸ List.mem_append_right _ ?_⟩
      rw [if_pos rfl]
      exact Option.mem_toList.mpr new
  · simp only [(registry_eq _).2.2] at none_leaves
    rw [← custody.earlier none_leaves, Watcher.earlier, Watcher.earlier]
    rcases entries with same | ⟨added, path, watched, more⟩
    · rw [same]
    · have late : ¬ added.number < start.host.watcher.next :=
        Nat.not_lt.mpr (Nat.le_trans custody.next_le (later added watched))
      rw [more, List.filter_append, List.filter_cons_of_neg (by simpa using late)]
      simp
  · rw [(registry_eq there).2.1]
    exact custody.shown there ((registry_eq there).2.2 ▸ none_leaves)

/-- A document that is removed gives back its watch. -/
theorem Custody.remove (custody : Custody start now) {id : DocumentId}
    (tracked : (now.draft.registry collection).isTracked id = true)
    (draft_eq : after.draft = now.draft.withRegistry
      ((now.draft.registry collection).removeInBatch id).2 collection)
    (watcher_eq : after.host.watcher =
      now.host.watcher.unwatchAll ((now.draft.registry collection).givenBack id)) :
    Custody start after := by
  have elsewhere {there : DocumentCollection} (differs : there ≠ collection) :
      after.draft.registry there = now.draft.registry there := by
    rw [draft_eq, Draft.registry_withRegistry_of_ne differs]
  have here : after.draft.registry collection =
      ((now.draft.registry collection).removeInBatch id).2 := by
    rw [draft_eq, Draft.registry_withRegistry_self]
  have numbered : after.host.watcher.Numbered := watcher_eq ▸ custody.numbered.unwatchAll _
  have next_le : start.host.watcher.next ≤ after.host.watcher.next := by
    rw [watcher_eq, Watcher.next_unwatchAll]
    exact custody.next_le
  obtain ⟨entry, found, stays⟩ := Registry.isTracked_iff.mp tracked
  cases state : entry.state with
  | pendingRemove => exact absurd state stays
  | committed =>
    obtain ⟨leaves, waiting_eq⟩ := Registry.removeInBatch_of_committed found state
    have watches_eq (there : DocumentCollection) : (after.draft.registry there).waitingWatches =
        (now.draft.registry there).waitingWatches := by
      by_cases same : there = collection
      · rw [same, here, Registry.waitingWatches, waiting_eq, Registry.waitingWatches]
      · rw [elsewhere same]
    refine ⟨numbered, next_le, fun there token holds => ?_, fun token used from_start => ?_,
      fun none_leaves => ?_, fun there none_leaves => ?_⟩
    · exact custody.taken there token (watches_eq there ▸ holds)
    · rw [watcher_eq, Watcher.mem_keys_unwatchAll] at used
      obtain ⟨there, holds⟩ := custody.held token used.1 from_start
      exact ⟨there, (watches_eq there).symm ▸ holds⟩
    · exact absurd (here ▸ none_leaves collection) leaves
    · by_cases same : there = collection
      · subst same
        exact absurd (here ▸ none_leaves) leaves
      · rw [elsewhere same] at none_leaves ⊢
        exact custody.shown there none_leaves
  | pendingAdd =>
    obtain ⟨given_eq, shown_eq, removes_eq, waiting_eq⟩ :=
      Registry.removeInBatch_of_waiting found state
    have same_removes (there : DocumentCollection) : (after.draft.registry there).pendingRemoves =
        (now.draft.registry there).pendingRemoves := by
      by_cases same : there = collection
      · rw [same, here, removes_eq]
      · rw [elsewhere same]
    have given_taken : ∀ token ∈ (now.draft.registry collection).givenBack id,
        start.host.watcher.next ≤ token.number := by
      intro token given
      rw [given_eq] at given
      refine custody.taken collection token (List.mem_filterMap.mpr ⟨(id, entry), ?_,
        Option.mem_toList.mp given⟩)
      exact List.mem_filter.mpr ⟨Registry.mem_entries_iff.mpr found,
        by simp [RegistryEntry.isVisible, state]⟩
    refine ⟨numbered, next_le, fun there token holds => ?_, fun token used from_start => ?_,
      fun none_leaves => ?_, fun there none_leaves => ?_⟩
    · by_cases same : there = collection
      · subst same
        rw [here, Registry.waitingWatches, waiting_eq] at holds
        exact custody.taken there token
          ((List.filter_sublist.filterMap _).subset holds)
      · exact custody.taken there token (elsewhere same ▸ holds)
    · rw [watcher_eq, Watcher.mem_keys_unwatchAll] at used
      obtain ⟨there, holds⟩ := custody.held token used.1 from_start
      refine ⟨there, ?_⟩
      by_cases same : there = collection
      · subst same
        rw [here]
        exact Registry.mem_waitingWatches_of_removeInBatch found state holds used.2
      · rw [elsewhere same]
        exact holds
    · simp only [same_removes] at none_leaves
      rw [← custody.earlier none_leaves, Watcher.earlier, Watcher.earlier, watcher_eq,
        Watcher.entries_unwatchAll, List.filter_filter]
      refine List.filter_congr fun known _ => ?_
      by_cases early : known.1.number < start.host.watcher.next
      · have kept : known.1 ∉ (now.draft.registry collection).givenBack id := fun given =>
          Nat.not_lt.mpr (given_taken known.1 given) early
        simp [early, kept]
      · simp [early]
    · by_cases same : there = collection
      · subst same
        rw [here] at none_leaves ⊢
        rw [shown_eq]
        exact custody.shown there (removes_eq ▸ none_leaves)
      · rw [elsewhere same] at none_leaves ⊢
        exact custody.shown there none_leaves

theorem Custody.putOff (custody : Custody start now) (accepted : now.Accepted edit action)
    (fresh : ∀ id ∈ edit.drawn, id ∉ now.draft.ids) (outputs : OutputIndex) :
    Custody start (now.putOff action outputs) := by
  have absent {collection : DocumentCollection} {id : DocumentId} (drawn : id ∈ edit.drawn) :
      id ∉ (now.draft.registry collection).entries.keys := fun known =>
    fresh id drawn (Draft.mem_ids.mpr ⟨collection, known⟩)
  cases accepted with
  | @addFile collection path kind folders id free =>
    refine custody.insert (absent (List.mem_singleton_self id)) rfl
      (custody.numbered.watch path) (Nat.le_succ _) (fun token watched => ?_)
      (Or.inr ⟨_, path, rfl, custody.numbered.entries_watch path⟩)
    cases watched
    exact Nat.le_refl _
  | @addBuffer collection held path? kind folders id free =>
    exact custody.insert (absent (List.mem_singleton_self id)) rfl custody.numbered
      (Nat.le_refl _) (fun _ watched => nomatch watched) (Or.inl rfl)
  | removeFile found => exact custody.remove (lookupPath_tracked found) rfl rfl
  | removeBuffer found => exact custody.remove (lookupBuffer_tracked found) rfl rfl
  | _ => exact custody.of_same (fun collection => by cases collection <;> rfl) rfl

/-- A session in a batch, compared with the moment before the batch was opened. -/
structure Gathers (start now : Session) : Prop where
  id_eq : now.draft.id = start.draft.id
  live : now.draft.removed = false
  store_eq : now.host.store = start.host.store
  editor_eq : now.host.editor = start.host.editor
  defers : now.draft.Defers (fun _ => false) start.draft.metadataReferences
  custody : Custody start now

theorem gathers_begin (numbered : start.host.watcher.Numbered)
    (mirrors : Draft.Mirrors comparison project start.draft)
    (live : start.draft.removed = false) (settled : start.draft.hasPending = false) :
    Gathers start start :=
  ⟨rfl, live, rfl, rfl, Draft.defers_of_settled _ settled, custody_refl numbered mirrors settled⟩

theorem Gathers.withBatches (gathers : Gathers start now) (batches : BatchCounter) :
    Gathers start { now with draft := { now.draft with batches } } where
  id_eq := gathers.id_eq
  live := gathers.live
  store_eq := gathers.store_eq
  editor_eq := gathers.editor_eq
  defers := ⟨gathers.defers.metadata, gathers.defers.unclosed⟩
  custody := gathers.custody.of_same (fun collection => by cases collection <;> rfl) rfl

/-- A batch goes on gathering with every edit that reports no change of a file; a property waits
exactly if one did or is set now. -/
theorem Gathers.perform (gathers : Gathers start now) (batching : now.draft.isBatching = true)
    (unreported : ∀ path, edit ≠ .fileChanged path)
    (fresh : ∀ id ∈ edit.drawn, id ∉ now.draft.ids) :
    Gathers start (now.perform edit).2 ∧
      ((now.perform edit).2.draft.changes.properties = [] ↔
        now.draft.changes.properties = [] ∧ (now.perform edit).1 ≠ .ok (.changed true)) := by
  rcases perform_of_batching gathers.live batching unreported with
    ⟨same, silent⟩ | ⟨action, outputs, accepted, performed⟩
  · rw [same]
    exact ⟨gathers, fun nothing => ⟨nothing, silent⟩, And.left⟩
  · rw [performed]
    have identity := Draft.sameIdentity_later now.draft action
    refine ⟨⟨identity.id_eq.trans gathers.id_eq, identity.removed_eq.trans gathers.live,
      gathers.store_eq, gathers.editor_eq, gathers.defers.later accepted.allowed.1 fun _ _ => rfl,
      gathers.custody.putOff accepted fresh outputs⟩, ?_⟩
    show (action.later now.draft).changes.properties = [] ↔ _
    rw [Draft.properties_later]
    simp

/-- Once nothing waits in a batch, the watches and the documents are those from before it. -/
theorem Gathers.of_settled (gathers : Gathers start now)
    (mirrors : Draft.Mirrors comparison project now.draft)
    (settled : now.draft.hasPending = false) :
    now.host.watcher.active = start.host.watcher.active ∧
      ∀ collection, (now.draft.registry collection).entries =
        (start.draft.registry collection).entries := by
  have nothing (collection : DocumentCollection) :=
    Registry.hasPending_eq_false_iff.mp ((Draft.hasPending_eq_false_iff.mp settled).1 collection)
  constructor
  · have all_early : now.host.watcher.earlier start.host.watcher.next =
        now.host.watcher.active.entries := by
      refine List.filter_eq_self.mpr fun entry listed => decide_eq_true ?_
      by_contra late
      obtain ⟨collection, holds⟩ := gathers.custody.held entry.1
        (OrderedMap.mem_keys_of_mem_entries listed) (Nat.not_lt.mp late)
      rw [Registry.waitingWatches,
        (mirrors collection).mirrors.waiting_eq_nil (nothing collection).1] at holds
      cases holds
    exact OrderedMap.ext_entries (all_early.symm.trans
      (gathers.custody.earlier fun collection => (nothing collection).2))
  · intro collection
    have all_shown := (mirrors collection).mirrors.shown_eq_entries (nothing collection).1
    exact OrderedMap.ext_entries (all_shown.symm.trans
      (gathers.custody.shown collection (nothing collection).2))

end Session

end CodeWorkspace
