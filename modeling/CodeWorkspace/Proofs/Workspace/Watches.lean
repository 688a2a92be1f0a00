import Mathlib.Data.List.Perm.Basic
import Mathlib.Data.Set.Function
import CodeWorkspace.Proofs.Session.Watches
import CodeWorkspace.Proofs.Workspace.Stage

/-!
# Watches of a workspace

The drafts of a workspace share one watcher.  Whatever is done to them, and whatever the store
refuses, the watches are those of the documents that come from files and are not about to leave:
each document has one of its own, no other watch is left, and none was given back twice.
-/

namespace CodeWorkspace

theorem Watcher.InOrder.of_same {watcher after : Watcher} (inOrder : watcher.InOrder)
    (active : after.active = watcher.active) (next : after.next = watcher.next)
    (released : after.released = watcher.released) : after.InOrder where
  numbered token := by
    rw [active, next]
    exact inOrder.numbered token
  once := released ▸ inOrder.once
  spent token := by
    rw [active, next, released]
    exact inOrder.spent token

namespace Workspace

variable {comparison : PathComparison} {known drawn : List DocumentId}
  {workspace next : Workspace} {place : Nat} {draft : Draft}

/-! ## The watches of all drafts -/

/-- The watches that the documents of all drafts hold, with the paths that they are for. -/
def watches (workspace : Workspace) : List (WatchToken × String) :=
  workspace.drafts.flatMap Draft.watches

/-- The watches of one draft are held besides those of the others, whatever becomes of it. -/
theorem watches_worked (found : workspace.drafts[place]? = some draft) :
    ∃ others, workspace.watches.Perm (others ++ draft.watches) ∧
      ∀ after, (workspace.worked place after).watches.Perm (others ++ after.draft.watches) := by
  obtain ⟨within, at_place⟩ := List.getElem?_eq_some_iff.mp found
  have apart (drafts : List Draft) (present : place < drafts.length) :
      (drafts.flatMap Draft.watches).Perm
        ((drafts.eraseIdx place).flatMap Draft.watches ++ drafts[place].watches) :=
    ((List.getElem_cons_eraseIdx_perm present).symm.flatMap_right Draft.watches).trans
      List.perm_append_comm
  refine ⟨(workspace.drafts.eraseIdx place).flatMap Draft.watches, ?_, fun after => ?_⟩
  · have parts := apart workspace.drafts within
    rwa [at_place] at parts
  · have parts := apart (workspace.drafts.set place after.draft) (by rwa [List.length_set])
    rwa [List.eraseIdx_set_eq, List.getElem_set_self] at parts

theorem watches_forgetReferencesTo (workspace : Workspace) (target : ProjectId) :
    (workspace.forgetReferencesTo target).watches = workspace.watches := by
  have same : (workspace.forgetReferencesTo target).drafts.map Draft.watches =
      workspace.drafts.map Draft.watches := by
    refine List.ext_getElem? fun place => ?_
    rw [List.getElem?_map, List.getElem?_map, getElem?_forgetReferencesTo, Option.map_map]
    refine congrArg (Option.map · _) (funext fun draft => ?_)
    simp only [Function.comp]
    split <;> rfl
  rw [watches, watches, List.flatMap, List.flatMap, same]

/-- The watches of the watcher are those that the drafts hold; removed ones hold none. -/
structure Attended (workspace : Workspace) : Prop where
  inOrder : workspace.host.watcher.InOrder
  shared : workspace.host.watcher.active.entries.Perm workspace.watches
  tended : ∀ (place : Nat) draft, workspace.drafts[place]? = some draft → draft.Tended
  emptied : ∀ (place : Nat) draft, workspace.drafts[place]? = some draft →
    draft.removed = true → draft.ids = []

/-! ## Changes -/

/-- One draft may be worked on as long as it trades its watches. -/
theorem Attended.worked (attended : workspace.Attended)
    (found : workspace.drafts[place]? = some draft) {after : Session}
    (attends : ({ host := workspace.host, draft } : Session).Attends after.host.watcher after.draft)
    (emptied : after.draft.removed = true → after.draft.ids = []) :
    (workspace.worked place after).Attended := by
  obtain ⟨others, shared, shared_after⟩ := watches_worked found
  obtain ⟨inOrder, traded⟩ := attends.trades others attended.inOrder (attended.shared.trans shared)
  refine ⟨inOrder, traded.trans (shared_after after).symm, ?_, ?_⟩
  · intro other there there_found
    rcases getElem?_set_cases there_found with ⟨_, rfl⟩ | ⟨_, there_found⟩
    · exact attends.tended
    · exact attended.tended other there there_found
  · intro other there there_found removed
    rcases getElem?_set_cases there_found with ⟨_, rfl⟩ | ⟨_, there_found⟩
    · exact emptied removed
    · exact attended.emptied other there there_found removed

theorem Attended.forgetReferencesTo (attended : workspace.Attended) (target : ProjectId) :
    (workspace.forgetReferencesTo target).Attended := by
  have before {place : Nat} {draft : Draft}
      (found : (workspace.forgetReferencesTo target).drafts[place]? = some draft) :
      ∃ old, workspace.drafts[place]? = some old ∧ old.SameDocuments draft ∧
        draft.removed = old.removed ∧ draft.ids = old.ids := by
    rw [getElem?_forgetReferencesTo] at found
    obtain ⟨old, old_found, rfl⟩ := Option.map_eq_some_iff.mp found
    refine ⟨old, old_found, ?_⟩
    split
    · exact ⟨fun collection => by cases collection <;> rfl, rfl, rfl⟩
    · exact ⟨.refl old, rfl, rfl⟩
  refine ⟨attended.inOrder, ?_, ?_, ?_⟩
  · rw [watches_forgetReferencesTo]
    exact attended.shared
  · intro place draft found
    obtain ⟨old, old_found, same, _⟩ := before found
    exact same.tended (attended.tended place old old_found)
  · intro place draft found removed
    obtain ⟨old, old_found, _, removed_eq, ids_eq⟩ := before found
    exact ids_eq.trans (attended.emptied place old old_found (removed_eq ▸ removed))

/-- A draft trades its watches in every stage. -/
theorem Attended.stage (attended : workspace.Attended)
    (mirrors : workspace.Mirrors comparison known)
    (found : workspace.drafts[place]? = some draft) (live : draft.removed = false)
    {given : List (DocumentCollection × Document)} {after : Session}
    (stage : Session.Stage given { host := workspace.host, draft } after)
    (distinct : (identities given).Nodup) (fresh : ∀ id ∈ identities given, id ∉ known) :
    (workspace.worked place after).Attended := by
  obtain ⟨project, mirrored⟩ := mirrors.exists_mirrored found live
  have attends := stage.conduct.attends mirrored (attended.tended place draft found)
    fun id new own => fresh id new (mirrors.known_ids place draft found id own)
  refine attended.worked found attends fun removed => ?_
  rw [(mirrors.stage found live stage distinct fresh).2] at removed
  cases removed

/-- A draft that is removed has no watches to trade. -/
theorem Attended.idle (attended : workspace.Attended)
    (found : workspace.drafts[place]? = some draft) (gone : draft.removed = true) {after : Session}
    (host_eq : after.host = workspace.host) (ids_eq : after.draft.ids = draft.ids) :
    (workspace.worked place after).Attended := by
  have unknown := attended.emptied place draft found gone
  obtain ⟨watches_before, _⟩ := Draft.watches_of_ids_nil unknown
  obtain ⟨watches_after, tended_after⟩ := Draft.watches_of_ids_nil (ids_eq.trans unknown)
  refine attended.worked found ⟨tended_after, ?_⟩ fun _ => ids_eq.trans unknown
  rw [host_eq, watches_after]
  exact Watcher.trades_of_perm (.of_eq watches_before)

/-- A project that is taken out gives all of its watches back. -/
theorem Attended.takenOut (attended : workspace.Attended)
    (found : workspace.drafts[place]? = some draft) {removed : Session} (id : ProjectId)
    (done : { host := workspace.host, draft : Session }.removeProject = (.ok (), removed))
    (discarded : removed.draft = draft.discard.2) :
    (workspace.takenOut place id removed).Attended := by
  have unknown : removed.draft.ids = [] := discarded ▸ draft.ids_discard
  obtain ⟨none_left, tended_after⟩ := Draft.watches_of_ids_nil unknown
  have reached : (workspace.worked place removed).Attended := by
    refine attended.worked found ⟨tended_after, ?_⟩ fun _ => unknown
    rw [(Session.host_of_removeProject done).1, (attended.tended place draft found).discard,
      none_left]
    have given_back := Watcher.trades_unwatchAll workspace.host.watcher draft.watches []
    rwa [List.append_nil] at given_back
  have unlisted : Attended { workspace.worked place removed with
      live := workspace.live.erase id } :=
    ⟨reached.inOrder, reached.shared, reached.tended, reached.emptied⟩
  exact unlisted.forgetReferencesTo id

theorem Attended.putIn (attended : workspace.Attended) (info : ProjectInfo) (store : Store) :
    (workspace.putIn info store).Attended := by
  have unknown : (Draft.ofInfo workspace.host.comparison info).ids = [] := rfl
  obtain ⟨no_watches, added_tended⟩ := Draft.watches_of_ids_nil unknown
  refine ⟨attended.inOrder, ?_, fun place draft found => ?_, fun place draft found removed => ?_⟩
  · show workspace.host.watcher.active.entries.Perm ((_ ++ [_]).flatMap Draft.watches)
    rw [List.flatMap_append, List.flatMap_singleton, no_watches, List.append_nil]
    exact attended.shared
  · rcases getElem?_concat_cases found with old | ⟨_, rfl⟩
    · exact attended.tended place draft old
    · exact added_tended
  · rcases getElem?_concat_cases found with old | ⟨_, rfl⟩
    · exact attended.emptied place draft old removed
    · rfl

/-- Nothing but removals and documents that come and go concerns the watches. -/
theorem Attended.around (attended : workspace.Attended)
    (ground : workspace.host.SameGround next.host) (drafts : next.drafts = workspace.drafts) :
    next.Attended := by
  have same : next.watches = workspace.watches := by rw [watches, watches, drafts]
  refine ⟨attended.inOrder.of_same ground.active ground.next ground.released, ?_, ?_, ?_⟩
  · rw [ground.active, same]
    exact attended.shared
  · rw [drafts]
    exact attended.tended
  · rw [drafts]
    exact attended.emptied

/-- The watches stay with the drafts, whatever happens. -/
theorem staged_attended (comparison : PathComparison)
    (origin : List (DocumentCollection × Document)) :
    Staged comparison origin fun _ workspace => workspace.Attended where
  stage mirrors attended found live stage distinct fresh _ :=
    attended.stage mirrors found live stage distinct fresh
  idle attended found gone host_eq ids_eq := attended.idle found gone host_eq ids_eq
  around attended ground drafts := attended.around ground drafts
  putIn info store attended := attended.putIn info store
  takeOut _ attended found _ done discarded := attended.takenOut found _ done discarded
  mono _ attended := attended

theorem attended_starting (comparison : PathComparison) (feed : ChangeFeed) (editor : Editor)
    (refusals : Nat → Option String) :
    (starting comparison { feed } editor refusals).Attended where
  inOrder := Watcher.inOrder_of_feed feed
  shared := .refl []
  tended _ _ found := by cases found
  emptied _ _ found := by cases found

/-! ## Which documents are watched -/

/-- Where a document is registered. -/
structure Spot where
  place : Nat
  collection : DocumentCollection
  id : DocumentId

/-- The entry at a spot. -/
def entryAt? (workspace : Workspace) (spot : Spot) : Option RegistryEntry :=
  workspace.drafts[spot.place]?.bind fun draft =>
    Registry.entry? (draft.registry spot.collection) spot.id

/-- The token stored at a spot. -/
def tokenAt? (workspace : Workspace) (spot : Spot) : Option WatchToken :=
  (workspace.entryAt? spot).bind RegistryEntry.watch?

/-- Whether a watch is needed at a spot: the project is live, and the document comes from a file and
waits to be added or is committed. -/
def NeedsWatch (workspace : Workspace) (spot : Spot) : Prop :=
  ∃ draft entry, workspace.drafts[spot.place]? = some draft ∧ draft.removed = false ∧
    workspace.entryAt? spot = some entry ∧ entry.buffer? = none ∧
      (entry.state = .pendingAdd ∨ entry.state = .committed)

/-- The active watches belong to the documents that need them. -/
structure WatchesAgree (workspace : Workspace) : Prop where
  /-- Each document that needs a watch has one of its own, and there are no others. -/
  matched : Set.BijOn workspace.tokenAt? {spot | workspace.NeedsWatch spot}
    (some '' {token | token ∈ workspace.host.watcher.active.keys})
  /-- A watch covers the path of the document. -/
  covered : ∀ spot entry token, workspace.entryAt? spot = some entry →
    entry.watch? = some token → ∃ path, entry.document.path? = some path ∧
      workspace.host.watcher.active.get? token = some path
  /-- A token is stored in one place. -/
  once : ∀ spot other token, workspace.tokenAt? spot = some token →
    workspace.tokenAt? other = some token → spot = other
  /-- A document that needs no watch holds none. -/
  unneeded : ∀ spot, ¬ workspace.NeedsWatch spot → workspace.tokenAt? spot = none
  /-- No token was given back twice. -/
  released_once : workspace.host.watcher.released.Nodup

/-- A document that holds a watch needs it, and the watch covers its path. -/
theorem Attended.watched (attended : workspace.Attended) {spot : Spot} {token : WatchToken}
    (stored : workspace.tokenAt? spot = some token) :
    workspace.NeedsWatch spot ∧ ∃ draft entry path, workspace.drafts[spot.place]? = some draft ∧
      (draft.registry spot.collection).entries.get? spot.id = some entry ∧
        entry.watched? = some (token, path) ∧
          workspace.host.watcher.active.get? token = some path := by
  obtain ⟨entry, at_spot, watches⟩ := Option.bind_eq_some_iff.mp stored
  obtain ⟨draft, found, entry_found⟩ := Option.bind_eq_some_iff.mp at_spot
  have tended := attended.tended spot.place draft found spot.collection spot.id entry entry_found
  obtain ⟨unbuffered, stays⟩ := tended.watched_iff.mp (watches ▸ rfl)
  obtain ⟨path, watched⟩ := tended.exists_watched watches
  refine ⟨⟨draft, entry, found, ?_, at_spot, unbuffered, ?_⟩, draft, entry, path, found,
    entry_found, watched, ?_⟩
  · refine Bool.eq_false_iff.mpr fun removed => ?_
    have known : spot.id ∈ draft.ids :=
      Draft.mem_ids.mpr ⟨spot.collection, OrderedMap.mem_keys_iff.mpr ⟨entry, entry_found⟩⟩
    rw [attended.emptied spot.place draft found removed] at known
    cases known
  · cases state : entry.state with
    | pendingAdd => exact Or.inl rfl
    | committed => exact Or.inr rfl
    | pendingRemove => exact absurd state stays
  · refine OrderedMap.get?_eq_some_iff.mpr (attended.shared.mem_iff.mpr ?_)
    exact List.mem_flatMap.mpr ⟨draft, List.mem_of_getElem? found,
      Draft.mem_watches.mpr ⟨spot.collection, spot.id, entry, entry_found, watched⟩⟩

/-- A document that needs a watch holds one. -/
theorem Attended.exists_token (attended : workspace.Attended) {spot : Spot}
    (needs : workspace.NeedsWatch spot) : ∃ token, workspace.tokenAt? spot = some token := by
  obtain ⟨draft, entry, found, _, at_spot, unbuffered, stays⟩ := needs
  obtain ⟨there, there_found, entry_found⟩ := Option.bind_eq_some_iff.mp at_spot
  have tended := attended.tended spot.place there there_found spot.collection spot.id entry
    entry_found
  have kept : entry.state ≠ .pendingRemove := by rcases stays with state | state <;> simp [state]
  obtain ⟨token, watches⟩ := Option.isSome_iff_exists.mp (tended.watched_iff.mpr ⟨unbuffered, kept⟩)
  exact ⟨token, by rw [tokenAt?, at_spot, Option.bind_some, watches]⟩

theorem Attended.once (attended : workspace.Attended) {spot other : Spot} {token : WatchToken}
    (stored : workspace.tokenAt? spot = some token)
    (also : workspace.tokenAt? other = some token) : spot = other := by
  obtain ⟨_, draft, entry, path, found, entry_found, watched, covered⟩ := attended.watched stored
  obtain ⟨_, there, last, same, there_found, last_found, last_watched, also_covered⟩ :=
    attended.watched also
  rw [covered] at also_covered
  cases also_covered
  have distinct : workspace.watches.Nodup :=
    attended.shared.nodup_iff.mp (List.Nodup.of_map _ workspace.host.watcher.active.keys_nodup)
  have listed := Draft.mem_watches.mpr ⟨_, _, entry, entry_found, watched⟩
  have same_place : spot.place = other.place := eq_of_nodup_flatMap distinct found there_found
    listed (Draft.mem_watches.mpr ⟨_, _, last, last_found, last_watched⟩)
  rw [same_place, there_found] at found
  cases found
  obtain ⟨same_collection, same_id⟩ := Draft.eq_of_watched
    ((List.nodup_flatMap.mp distinct).1 draft (List.mem_of_getElem? there_found)) entry_found
    last_found watched last_watched
  cases spot
  cases other
  cases same_place
  cases same_collection
  cases same_id
  rfl

theorem Attended.watchesAgree (attended : workspace.Attended) : workspace.WatchesAgree where
  matched := by
    refine ⟨fun spot needs => ?_, fun spot needs other _ same => ?_, ?_⟩
    · obtain ⟨token, stored⟩ := attended.exists_token needs
      obtain ⟨_, _, _, path, _, _, _, covered⟩ := attended.watched stored
      exact ⟨token, OrderedMap.mem_keys_iff.mpr ⟨path, covered⟩, stored.symm⟩
    · obtain ⟨token, stored⟩ := attended.exists_token needs
      exact attended.once stored (same ▸ stored)
    · rintro _ ⟨token, active, rfl⟩
      obtain ⟨path, covered⟩ := OrderedMap.mem_keys_iff.mp active
      have listed := attended.shared.mem_iff.mp (OrderedMap.get?_eq_some_iff.mp covered)
      obtain ⟨draft, draft_mem, held⟩ := List.mem_flatMap.mp listed
      obtain ⟨place, found⟩ := List.mem_iff_getElem?.mp draft_mem
      obtain ⟨collection, id, entry, entry_found, watched⟩ := Draft.mem_watches.mp held
      have stored : workspace.tokenAt? ⟨place, collection, id⟩ = some token := by
        rw [tokenAt?, entryAt?, found, Option.bind_some, Registry.entry?_eq, entry_found,
          Option.bind_some, (RegistryEntry.watched?_eq_some_iff.mp watched).1]
      exact ⟨_, (attended.watched stored).1, stored⟩
  covered spot entry token at_spot watches := by
    have stored : workspace.tokenAt? spot = some token := by
      rw [tokenAt?, at_spot, Option.bind_some, watches]
    obtain ⟨_, draft, same, path, found, same_found, watched, covered⟩ := attended.watched stored
    rw [entryAt?, found, Option.bind_some, Registry.entry?_eq, same_found] at at_spot
    cases at_spot
    exact ⟨path, (RegistryEntry.watched?_eq_some_iff.mp watched).2, covered⟩
  once _ _ _ stored also := attended.once stored also
  unneeded spot unneeded := by
    refine Option.eq_none_iff_forall_ne_some.mpr fun token stored => ?_
    exact unneeded (attended.watched stored).1
  released_once := attended.inOrder.once

/-- In every workspace that can be reached, the active watches are those of the documents of live
projects that come from files and are not about to leave, and no token was given back twice. -/
theorem watchesAgree_run (comparison : PathComparison) (feed : ChangeFeed) (editor : Editor)
    (refusals : Nat → Option String) (commands : List Command)
    (distinct : (commands.flatMap Command.drawn).Nodup) :
    ((starting comparison { feed } editor refusals).run commands).WatchesAgree := by
  have attended := ((staged_attended comparison (commands.flatMap Command.introduced)).run
    (keeps_starting comparison _ { feed } editor refusals)
    (attended_starting comparison feed editor refusals) commands distinct
    (List.Subset.refl _)).2
  exact attended.watchesAgree

/-- Files come and go inside of a batch and outside of one, the store refuses a commit, and a
project is removed while one of its batches is open. -/
def filesComeAndGo : List Command :=
  [.createProject ⟨⟨.ofNat 1⟩, "C#", { name := "App", assemblyName := "App" }⟩,
    .createProject ⟨⟨.ofNat 2⟩, "C#", { name := "Lib", assemblyName := "Lib" }⟩,
    .edit 0 (.addFile .source "Main.cs" .regular [] ⟨.ofNat 3⟩),
    .edit 0 (.addFile .source "Other.cs" .regular [] ⟨.ofNat 4⟩),
    .openScope 0,
    .edit 0 (.addFile .additional "notes.txt" .regular [] ⟨.ofNat 5⟩),
    .edit 0 (.removeFile .source "Main.cs"),
    .openScope 1,
    .edit 1 (.addFile .source "Lib.cs" .regular [] ⟨.ofNat 6⟩),
    .removeProject ⟨.ofNat 2⟩]

theorem watchesAgree_filesComeAndGo :
    (filesComeAndGo.flatMap Command.drawn).Nodup ∧
      ((starting .ordinal {} .absent fun attempt => if attempt = 3 then some "busy" else none).run
        filesComeAndGo).WatchesAgree :=
  ⟨by decide, watchesAgree_run _ .absent _ _ _ (by decide)⟩

end Workspace

end CodeWorkspace
