import CodeWorkspace.Proofs.Registry.Watches
import CodeWorkspace.Proofs.Session.Stage

/-!
# Watches in a session

In every stage of an operation the draft and the watcher trade watches: the draft goes on to hold
those of the documents that come from files and are not about to leave, and the watcher has them and
those of other drafts.
-/

namespace CodeWorkspace

namespace Draft

variable {draft before after : Draft} {collection : DocumentCollection} {registry : Registry}
  {watcher traded : Watcher}

/-- The watches that the documents of a draft hold, with the paths that they are for. -/
def watches (draft : Draft) : List (WatchToken × String) :=
  draft.sources.watches ++ draft.additional.watches

/-- All documents of a draft are tended. -/
def Tended (draft : Draft) : Prop := ∀ collection, (draft.registry collection).Tended

theorem mem_watches {held : WatchToken × String} :
    held ∈ draft.watches ↔ ∃ collection id entry,
      (draft.registry collection).entries.get? id = some entry ∧ entry.watched? = some held := by
  rw [watches, List.mem_append, Registry.mem_watches, Registry.mem_watches]
  constructor
  · rintro (source | additional)
    · exact ⟨.source, source⟩
    · exact ⟨.additional, additional⟩
  · rintro ⟨collection, listed⟩
    cases collection with
    | source => exact Or.inl listed
    | additional => exact Or.inr listed

/-- A watch that a draft holds once is held by one document. -/
theorem eq_of_watched (distinct : draft.watches.Nodup) {other : DocumentCollection}
    {id last : DocumentId} {entry there : RegistryEntry}
    (found : (draft.registry collection).entries.get? id = some entry)
    (there_found : (draft.registry other).entries.get? last = some there)
    {held : WatchToken × String} (watched : entry.watched? = some held)
    (also : there.watched? = some held) : collection = other ∧ id = last := by
  obtain ⟨sources, additional, apart⟩ := List.nodup_append.mp distinct
  have listed := Registry.mem_watches.mpr ⟨id, entry, found, watched⟩
  have there_listed := Registry.mem_watches.mpr ⟨last, there, there_found, also⟩
  cases collection <;> cases other
  · exact ⟨rfl, Registry.eq_of_watched sources found there_found watched also⟩
  · exact absurd rfl (apart held listed held there_listed)
  · exact absurd rfl (apart held there_listed held listed)
  · exact ⟨rfl, Registry.eq_of_watched additional found there_found watched also⟩

theorem SameDocuments.watches_eq (same : before.SameDocuments after) :
    after.watches = before.watches := by
  rw [watches, watches, show after.sources = before.sources from same .source,
    show after.additional = before.additional from same .additional]

theorem SameDocuments.tended (same : before.SameDocuments after) (tended : before.Tended) :
    after.Tended := fun collection => same collection ▸ tended collection

theorem Tended.withRegistry (tended : draft.Tended) (registry_tended : registry.Tended) :
    (draft.withRegistry registry collection).Tended := by
  intro other
  by_cases same : other = collection
  · subst same
    rw [registry_withRegistry_self]
    exact registry_tended
  · rw [registry_withRegistry_of_ne same]
    exact tended other

/-- What is traded for one collection is traded for the draft. -/
theorem trades_withRegistry (trades : watcher.Trades (draft.registry collection).watches traded
    registry.watches) :
    watcher.Trades draft.watches traded (draft.withRegistry registry collection).watches := by
  cases collection with
  | source => exact trades.frame draft.additional.watches
  | additional =>
    have first := (Watcher.trades_of_perm List.perm_append_comm).trans
      (trades.frame draft.sources.watches)
    exact first.trans (Watcher.trades_of_perm List.perm_append_comm)

/-- A draft that knows no documents holds no watches. -/
theorem watches_of_ids_nil (unknown : draft.ids = []) : draft.watches = [] ∧ draft.Tended := by
  have no_keys (collection : DocumentCollection) :
      (draft.registry collection).entries.entries = [] := by
    have parts := List.append_eq_nil_iff.mp unknown
    cases collection with
    | source => exact List.map_eq_nil_iff.mp parts.1
    | additional => exact List.map_eq_nil_iff.mp parts.2
  constructor
  · rw [watches, Registry.watches, Registry.watches, show draft.sources.entries.entries = [] from
      no_keys .source, show draft.additional.entries.entries = [] from no_keys .additional]
    rfl
  · intro collection id entry found
    rw [← Registry.mem_entries_iff, no_keys] at found
    cases found

/-- All watches are given back when a draft is discarded. -/
theorem Tended.discard (tended : draft.Tended) :
    draft.discard.1.filterMap Forgotten.watch? = draft.watches.map Prod.fst := by
  have sources := (tended .source).drainAll
  have additional := (tended .additional).drainAll
  show ((draft.registry .source).drainAll.1 ++
    (draft.registry .additional).drainAll.1).filterMap _ =
    _
  rw [List.filterMap_append, sources, additional, ← List.map_append]
  rfl

end Draft

namespace Session

variable {comparison : PathComparison} {project : Project} {session before after : Session}
  {edit : Edit} {action : Draft.Action} {given : List (DocumentCollection × Document)}

/-- The draft stays tended when it comes to another state, and the watches are traded. -/
structure Attends (session : Session) (watcher : Watcher) (draft : Draft) : Prop where
  tended : draft.Tended
  trades : session.host.watcher.Trades session.draft.watches watcher draft.watches

theorem attends_of_sameDocuments (tended : session.draft.Tended) {draft : Draft}
    (same : session.draft.SameDocuments draft) : session.Attends session.host.watcher draft where
  tended := same.tended tended
  trades := Watcher.trades_of_perm (.of_eq same.watches_eq.symm)

/-! ## Actions -/

/-- A file that is added is watched, and a buffer is not. -/
theorem Accepted.attends_insert {collection : DocumentCollection} {document : Document}
    {buffer? : Option BufferId} {watch? : Option WatchToken}
    (accepted : session.Accepted edit (.insert collection document buffer? watch?))
    (tended : session.draft.Tended) (fresh : document.id ∉ session.draft.ids) {state : EntryState}
    (stays : state ≠ .pendingRemove) :
    session.Attends
      ((Draft.Action.insert collection document buffer? watch?).watching session.draft
        session.host.watcher)
      (session.draft.withRegistry
        ((session.draft.registry collection).insert document buffer? watch? state)
          collection) := by
  have absent : document.id ∉ (session.draft.registry collection).entries.keys := fun known =>
    fresh (Draft.mem_ids.mpr ⟨collection, known⟩)
  cases accepted with
  | @addFile _ path _ _ _ free =>
    refine ⟨tended.withRegistry ((tended collection).insert ⟨by simp [Registry.entryFor, stays],
      fun _ => rfl⟩), Draft.trades_withRegistry ?_⟩
    rw [Registry.watches_insert absent]
    exact Watcher.trades_watch _ _ path
  | addBuffer free =>
    refine ⟨tended.withRegistry ((tended collection).insert ⟨by simp [Registry.entryFor],
      by simp [Registry.entryFor]⟩), Draft.trades_withRegistry ?_⟩
    rw [Registry.watches_insert absent]
    exact Watcher.trades_of_perm (.of_eq (List.append_nil _).symm)

theorem Accepted.attends_later (accepted : session.Accepted edit action)
    (tended : session.draft.Tended) (fresh : ∀ id ∈ edit.drawn, id ∉ session.draft.ids) :
    session.Attends (action.watching session.draft session.host.watcher)
      (action.later session.draft) := by
  obtain ⟨allowed, drawn_eq⟩ := accepted.allowed
  rw [← drawn_eq] at fresh
  cases action with
  | insert collection document buffer? watch? =>
    exact accepted.attends_insert tended (fresh document.id List.mem_cons_self) (by decide)
  | remove collection id =>
    obtain ⟨left, given, given_eq, parts⟩ := (tended collection).removeInBatch allowed
    refine ⟨tended.withRegistry left, Draft.trades_withRegistry ?_⟩
    show Watcher.Trades _ _ (session.host.watcher.unwatchAll (Registry.givenBack _ id)) _
    rw [given_eq]
    exact (Watcher.trades_of_perm parts).trans (Watcher.trades_unwatchAll _ given _)
  | _ => exact attends_of_sameDocuments tended fun collection => by cases collection <;> rfl

theorem Accepted.attends_now (accepted : session.Accepted edit action)
    (tended : session.draft.Tended) (fresh : ∀ id ∈ edit.drawn, id ∉ session.draft.ids) :
    session.Attends (action.watchingNow session.draft session.host.watcher)
      (action.now session.draft) := by
  rw [← accepted.allowed.2] at fresh
  cases action with
  | insert collection document buffer? watch? =>
    exact accepted.attends_insert tended (fresh document.id List.mem_cons_self) (by decide)
  | remove collection id =>
    obtain ⟨left, given, given_eq, parts⟩ := (tended collection).forget id
    refine ⟨tended.withRegistry left, Draft.trades_withRegistry ?_⟩
    simp only [Draft.Action.watchingNow, given_eq]
    exact (Watcher.trades_of_perm parts).trans (Watcher.trades_unwatchAll _ given _)
  | _ => exact attends_of_sameDocuments tended fun collection => by cases collection <;> rfl

/-- A watch that was taken for a document that cannot be committed is given back. -/
theorem Accepted.attends_still (accepted : session.Accepted edit action)
    (tended : session.draft.Tended) :
    session.Attends (action.watchingStill session.draft session.host.watcher) session.draft := by
  refine ⟨tended, ?_⟩
  cases accepted with
  | @addFile _ path _ _ _ free =>
    have taken := session.host.watcher.trades_watch session.draft.watches path
    have given_back := Watcher.trades_unwatchAll (session.host.watcher.watch path).2
      [(⟨session.host.watcher.next⟩, path)] session.draft.watches
    exact taken.trans ((Watcher.trades_of_perm List.perm_append_comm).trans given_back)
  | _ => exact Watcher.trades_of_perm (.refl _)

/-! ## Stages -/

/-- In every stage the draft stays tended and the watches are traded. -/
theorem Conduct.attends (conduct : Conduct given before after)
    (mirrored : before.Mirrored comparison project) (tended : before.draft.Tended)
    (fresh : ∀ id ∈ identities given, id ∉ before.draft.ids) :
    before.Attends after.host.watcher after.draft := by
  -- the documents of the draft may be those of another draft whose watches are easier to see
  have via {watcher : Watcher} {draft : Draft} (attends : before.Attends watcher draft)
      (watcher_eq : after.host.watcher = watcher) (documents : draft.SameDocuments after.draft) :
      before.Attends after.host.watcher after.draft := by
    refine ⟨documents.tended attends.tended, ?_⟩
    rw [documents.watches_eq, watcher_eq]
    exact attends.trades
  have edit_fresh {edit : Edit} (introduced : edit.introduced = given) :
      ∀ id ∈ edit.drawn, id ∉ before.draft.ids := by
    rw [edit.drawn_eq, introduced]
    exact fresh
  cases conduct with
  | rest documents watcher editor =>
    exact via (attends_of_sameDocuments tended (.refl _)) watcher documents
  | putOff accepted introduced documents watcher editor =>
    exact via (accepted.attends_later tended (edit_fresh introduced)) watcher documents
  | givenUp accepted documents watcher editor =>
    exact via (accepted.attends_still tended) watcher documents
  | committed accepted introduced settled documents watcher editor =>
    exact via (accepted.attends_now tended (edit_fresh introduced)) watcher documents
  | settled documents watcher editor =>
    have consistent (collection : DocumentCollection) :=
      (mirrored.mirrors collection).mirrors.toConsistent
    refine via ⟨fun collection => ?_, Watcher.trades_of_perm (.of_eq ?_)⟩ watcher documents
    · rw [Draft.settle_registry]
      exact (tended collection).completeFlush (consistent collection)
    · have same (collection : DocumentCollection) :=
        (tended collection).watches_completeFlush (consistent collection)
      exact congrArg₂ (· ++ ·) (same .source).symm (same .additional).symm
  | @reloaded collection _ id loader candidate documents watcher editor =>
    refine via ⟨tended.withRegistry ((tended collection).setLoader id loader),
      Draft.trades_withRegistry (Watcher.trades_of_perm (.of_eq ?_))⟩ watcher documents
    exact (Registry.watches_setLoader _ id loader).symm

end Session

end CodeWorkspace
