import CodeWorkspace.Proofs.Registry.Notices
import CodeWorkspace.Proofs.Session.Watches

/-!
# What the editor is told in a session

In every stage of an operation the editor is told of each document what there is to say about it.
The documents of the draft go on from where they were: they stay in their collection, come from the
same file or buffer, and do not wait again once they have been committed.
-/

namespace CodeWorkspace

/-- Whether a document of a project is in a snapshot. -/
def Snapshot.Shows (snapshot : Snapshot) (owner : ProjectId) (id : DocumentId) : Prop :=
  ∃ project collection, snapshot.project? owner = some project ∧
    id ∈ (project.documents collection).keys

/-- An entry under the identity of its document, which is in a buffer if it is found by one and in a
file otherwise. -/
structure RegistryEntry.Sound (entry : RegistryEntry) (id : DocumentId) : Prop where
  document_id : entry.document.id = id
  isBuffered_eq : entry.document.isBuffered = entry.buffer?.isSome
  located : entry.document.isBuffered = false → entry.document.path?.isSome = true

namespace Registry

variable {registry before after : Registry} {given : Document → Prop}

/-- Each document of a registry was there before and goes on from there, or has been introduced. -/
def Continues (given : Document → Prop) (before after : Registry) : Prop :=
  ∀ id entry, after.entries.get? id = some entry →
    (∃ old, before.entries.get? id = some old ∧ entry.buffer? = old.buffer? ∧
      entry.document.path? = old.document.path? ∧
        (entry.state = .pendingAdd → old.state = .pendingAdd)) ∨
    id = entry.document.id ∧ given entry.document

theorem Continues.refl (given : Document → Prop) (registry : Registry) :
    Continues given registry registry := fun _ entry found => Or.inl ⟨entry, found, rfl, rfl, id⟩

theorem Carries.continues (carries : Carries given before after) (indexed : before.Indexed)
    (indexed_after : after.Indexed) : Continues given before after := by
  intro id entry found
  refine (carries id entry found).imp_left fun ⟨old, old_found, same, waits⟩ => ?_
  refine ⟨old, old_found, ?_, congrArg Document.path? same, waits⟩
  rw [indexed_after.buffer_eq id entry found, same, indexed.buffer_eq id old old_found]

theorem continues_setLoader (registry : Registry) (id : DocumentId) (loader : Loader) :
    Continues given registry (registry.setLoader id loader) := by
  intro other entry found
  rw [setLoader, OrderedMap.get?_adjust] at found
  split at found
  · obtain ⟨old, old_found, rfl⟩ := Option.map_eq_some_iff.mp found
    exact Or.inl ⟨old, old_found, rfl, rfl, fun state => state⟩
  · exact Or.inl ⟨entry, found, rfl, rfl, fun state => state⟩

end Registry

namespace Draft

variable {comparison : PathComparison} {project : Project} {draft before between after : Draft}
  {notices : List Notice} {given : List (DocumentCollection × Document)}

/-- By the news that a document is there the editor is told of a buffer, and of a file that is
open. -/
theorem event?_arrival {document : Document} {isOpen : String → Bool} {owner : ProjectId}
    (located : document.isBuffered = false → document.path?.isSome = true) :
    (arrival document).event? isOpen owner =
      if document.isBuffered || document.path?.any isOpen then some (.opened owner document.id)
      else none := by
  rw [arrival]
  cases buffered : document.isBuffered with
  | true =>
    cases document.path? <;> rfl
  | false =>
    obtain ⟨path, path_eq⟩ := Option.isSome_iff_exists.mp (located buffered)
    rw [path_eq]
    rfl

/-- What there is to say about a document, by its entries in two drafts of a project. -/
def news (before after : Draft) (id : DocumentId) (collection : DocumentCollection) :
    List Notice :=
  Registry.news id ((before.registry collection).shown? id)
    ((after.registry collection).shown? id)

/-- Some news says about each document what there is to say. -/
def Announces (before : Draft) (notices : List Notice) (after : Draft) : Prop :=
  ∀ id, newsOf id notices = before.news after id .source ++ before.news after id .additional

theorem Announces.of_same (announces : before.Announces notices between)
    (same : between.SameDocuments after) : before.Announces notices after := by
  intro id
  rw [announces id, news, news, news, news, same .source, same .additional]

theorem announces_refl (draft : Draft) : draft.Announces [] draft := by
  intro id
  rw [news, news, Registry.news_self, Registry.news_self]
  rfl

theorem announces_withRegistry {collection : DocumentCollection} {registry : Registry}
    (announces : (draft.registry collection).Announces notices registry) :
    draft.Announces notices (draft.withRegistry registry collection) := by
  intro id
  have other (there : DocumentCollection) (differs : there ≠ collection) :
      draft.news (draft.withRegistry registry collection) id there = [] := by
    rw [news, registry_withRegistry_of_ne differs, Registry.news_self]
  have here : draft.news (draft.withRegistry registry collection) id collection =
      newsOf id notices := by
    rw [news, registry_withRegistry_self, announces id]
  cases collection with
  | source => rw [here, other .additional (by decide), List.append_nil]
  | additional => rw [here, other .source (by decide), List.nil_append]

theorem announces_settle (consistent : ∀ collection, (draft.registry collection).Consistent) :
    draft.Announces draft.settle.1 draft.settle.2 := by
  intro id
  rw [news, news, settle_registry, settle_registry,
    ← Registry.announces_completeFlush (consistent .source) id,
    ← Registry.announces_completeFlush (consistent .additional) id, ← newsOf_append]
  rfl

theorem announces_discard (draft : Draft) :
    draft.Announces (departures draft.discard.1) draft.discard.2 := by
  intro id
  have parts : departures draft.discard.1 = departures (draft.registry .source).drainAll.1 ++
      departures (draft.registry .additional).drainAll.1 := by
    rw [departures, departures, departures, ← List.map_append, ← List.filter_append]
    rfl
  rw [parts, newsOf_append, Registry.announces_drainAll (draft.registry .source) id,
    Registry.announces_drainAll (draft.registry .additional) id]
  rfl

/-- Each document of a draft was there before and goes on from there, or has been introduced. -/
def Continues (given : List (DocumentCollection × Document)) (before after : Draft) : Prop :=
  ∀ collection, Registry.Continues (fun document => (collection, document) ∈ given)
    (before.registry collection) (after.registry collection)

end Draft

namespace Session

variable {comparison : PathComparison} {project : Project} {session before after : Session}
  {edit : Edit} {action : Draft.Action} {given : List (DocumentCollection × Document)}
  {owner : ProjectId} {id : DocumentId}

/-! ## Actions -/

/-- When an action is put off, there is nothing to say. -/
theorem Accepted.announces_later (accepted : session.Accepted edit action)
    (fresh : ∀ id ∈ edit.drawn, id ∉ session.draft.ids) :
    session.draft.Announces [] (action.later session.draft) := by
  rw [← accepted.allowed.2] at fresh
  cases action with
  | insert collection document buffer? watch? =>
    have absent : document.id ∉ (session.draft.registry collection).entries.keys := fun known =>
      fresh document.id List.mem_cons_self (Draft.mem_ids.mpr ⟨collection, known⟩)
    exact Draft.announces_withRegistry (Registry.announces_insert_pendingAdd absent)
  | remove collection id =>
    exact Draft.announces_withRegistry (Registry.announces_removeInBatch _ id)
  | _ => exact session.draft.announces_refl.of_same fun collection => by cases collection <;> rfl

theorem Accepted.announces_now (accepted : session.Accepted edit action)
    (fresh : ∀ id ∈ edit.drawn, id ∉ session.draft.ids) :
    session.draft.Announces (action.news session.draft) (action.now session.draft) := by
  rw [← accepted.allowed.2] at fresh
  cases action with
  | insert collection document buffer? watch? =>
    have absent : document.id ∉ (session.draft.registry collection).entries.keys := fun known =>
      fresh document.id List.mem_cons_self (Draft.mem_ids.mpr ⟨collection, known⟩)
    exact Draft.announces_withRegistry (Registry.announces_insert_committed absent)
  | remove collection id =>
    exact Draft.announces_withRegistry (Registry.announces_forget _ id)
  | _ => exact session.draft.announces_refl.of_same fun collection => by cases collection <;> rfl

/-! ## Stages -/

/-- In every stage the editor is told what there is to say. -/
theorem Conduct.announces (conduct : Conduct given before after)
    (mirrored : before.Mirrored comparison project)
    (fresh : ∀ id ∈ identities given, id ∉ before.draft.ids) :
    ∃ notices, after.host.editor = before.host.editor.notifyAll before.draft.id notices ∧
      before.draft.Announces notices after.draft := by
  have edit_fresh {edit : Edit} (introduced : edit.introduced = given) :
      ∀ id ∈ edit.drawn, id ∉ before.draft.ids := by
    rw [edit.drawn_eq, introduced]
    exact fresh
  cases conduct with
  | rest documents watcher editor =>
    exact ⟨[], editor, before.draft.announces_refl.of_same documents⟩
  | putOff accepted introduced documents watcher editor =>
    exact ⟨[], editor, (accepted.announces_later (edit_fresh introduced)).of_same documents⟩
  | givenUp accepted documents watcher editor =>
    exact ⟨[], editor, before.draft.announces_refl.of_same documents⟩
  | committed accepted introduced settled documents watcher editor =>
    exact ⟨_, editor, (accepted.announces_now (edit_fresh introduced)).of_same documents⟩
  | settled documents watcher editor =>
    have consistent (collection : DocumentCollection) :=
      (mirrored.mirrors collection).mirrors.toConsistent
    exact ⟨_, editor, (Draft.announces_settle consistent).of_same documents⟩
  | reloaded candidate documents watcher editor =>
    refine ⟨[], editor, Draft.Announces.of_same (Draft.announces_withRegistry ?_) documents⟩
    exact Registry.announces_setLoader _ _ _

/-- The documents of a draft go on from where they were. -/
theorem Conduct.continues (conduct : Conduct given before after)
    (indexed : ∀ collection, (before.draft.registry collection).Indexed)
    (indexed_after : ∀ collection, (after.draft.registry collection).Indexed) :
    before.draft.Continues given after.draft := by
  have of_carries {between : Draft} (carries : before.draft.Carries given between)
      (documents : between.SameDocuments after.draft) : before.draft.Continues given after.draft :=
    fun collection => ((carries.trans (Draft.carries_of_same documents)) collection).continues
      (indexed collection) (indexed_after collection)
  cases conduct with
  | rest documents watcher editor => exact of_carries (Draft.carries_of_same fun _ => rfl) documents
  | putOff accepted introduced documents watcher editor =>
    rw [← accepted.introduced_eq] at introduced
    exact of_carries (introduced ▸ before.draft.carries_later _) documents
  | givenUp accepted documents watcher editor =>
    exact of_carries (Draft.carries_of_same fun _ => rfl) documents
  | committed accepted introduced settled documents watcher editor =>
    rw [← accepted.introduced_eq] at introduced
    exact of_carries (introduced ▸ before.draft.carries_now _) documents
  | settled documents watcher editor => exact of_carries before.draft.carries_settle documents
  | @reloaded collection _ id loader candidate documents watcher editor =>
    intro there
    rw [documents there]
    by_cases here : there = collection
    · subst here
      rw [Draft.registry_withRegistry_self]
      exact Registry.continues_setLoader _ id loader
    · rw [Draft.registry_withRegistry_of_ne here]
      exact .refl _ _

/-- What is done to a draft that may introduce some documents, as far as the editor is
concerned. -/
structure Reports (given : List (DocumentCollection × Document)) (before after : Session) :
    Prop where
  id_eq : after.draft.id = before.draft.id
  told : ∃ notices, after.host.editor = before.host.editor.notifyAll before.draft.id notices ∧
    before.draft.Announces notices after.draft
  continues : before.draft.Continues given after.draft
  separate : after.draft.Separate
  sound : ∀ collection id entry,
    (after.draft.registry collection).entries.get? id = some entry → entry.Sound id

theorem Stage.reports (stage : Stage given before after)
    (mirrored : before.Mirrored comparison project) (tended : before.draft.Tended)
    (distinct : (identities given).Nodup) (fresh : ∀ id ∈ identities given, id ∉ before.draft.ids) :
    Reports given before after := by
  obtain ⟨⟨changed, mirrored_after⟩, id_eq, _⟩ := stage.mirrored mirrored distinct fresh
  have tended_after := (stage.conduct.attends mirrored tended fresh).tended
  have indexed (collection : DocumentCollection) :=
    (mirrored.mirrors collection).mirrors.toIndexed
  have indexed_after (collection : DocumentCollection) :=
    (mirrored_after.mirrors collection).mirrors.toIndexed
  refine ⟨id_eq, stage.conduct.announces mirrored fresh,
    stage.conduct.continues indexed indexed_after, mirrored_after.separate, ?_⟩
  intro collection id entry found
  have isBuffered_eq := (indexed_after collection).isBuffered_eq found
  refine ⟨(indexed_after collection).document_id id entry found, isBuffered_eq, fun buffered => ?_⟩
  rw [isBuffered_eq, Option.isSome_eq_false_iff, Option.isNone_iff_eq_none] at buffered
  exact (tended_after collection id entry found).located buffered

/-- When a project is removed, the editor is told of the buffers that are gone. -/
theorem reports_of_removeProject (done : session.removeProject = (.ok (), after))
    (discarded : after.draft = session.draft.discard.2) : Reports [] session after := by
  have unknown (collection : DocumentCollection) (id : DocumentId) :
      id ∉ (after.draft.registry collection).entries.keys := by
    intro known
    have listed := Draft.mem_ids.mpr ⟨collection, known⟩
    rw [discarded, session.draft.ids_discard] at listed
    cases listed
  have missing {collection : DocumentCollection} {id : DocumentId} {entry : RegistryEntry}
      (found : (after.draft.registry collection).entries.get? id = some entry) : False :=
    unknown collection id (OrderedMap.mem_keys_iff.mpr ⟨entry, found⟩)
  refine ⟨discarded ▸ rfl, ⟨_, (host_of_removeProject done).2.2,
    discarded ▸ session.draft.announces_discard⟩, fun collection id entry found => ?_,
    fun first second id known => ?_, fun collection id entry found => ?_⟩
  · exact (missing found).elim
  · exact absurd known (unknown first id)
  · exact (missing found).elim

/-! ## What is known of one document -/

/-- A document that is in a collection afterwards was there before, or has been introduced. -/
theorem Reports.mem_keys (reports : Reports given before after) {id : DocumentId}
    {collection : DocumentCollection}
    (known : id ∈ (after.draft.registry collection).entries.keys) :
    id ∈ (before.draft.registry collection).entries.keys ∨ id ∈ identities given := by
  obtain ⟨entry, found⟩ := OrderedMap.mem_keys_iff.mp known
  rcases reports.continues collection id entry found with ⟨old, old_found, _⟩ | ⟨same, new⟩
  · exact Or.inl (OrderedMap.mem_keys_iff.mpr ⟨old, old_found⟩)
  · exact Or.inr (List.mem_map.mpr ⟨_, new, same.symm⟩)

theorem Reports.mem_ids (reports : Reports given before after) {id : DocumentId}
    (known : id ∈ after.draft.ids) : id ∈ before.draft.ids ∨ id ∈ identities given := by
  obtain ⟨collection, known_there⟩ := Draft.mem_ids.mp known
  exact (reports.mem_keys known_there).imp_left fun old => Draft.mem_ids.mpr ⟨collection, old⟩

/-- A document has a place in one collection, before and after; what the editor comes to hear of it
is what there is to say about it there. -/
theorem Reports.exists_home (reports : Reports given before after)
    (here : before.host.editor ≠ .absent) (separate : before.draft.Separate)
    (fresh : ∀ id ∈ identities given, id ∉ before.draft.ids) (id : DocumentId) :
    ∃ collection, (∀ other, other ≠ collection →
        id ∉ (before.draft.registry other).entries.keys ∧
          id ∉ (after.draft.registry other).entries.keys) ∧
      after.host.editor.history id = before.host.editor.history id ++
        (before.draft.news after.draft id collection).filterMap
          (Notice.event? before.host.editor.isOpen before.draft.id) := by
  have came {collection : DocumentCollection}
      (known : id ∈ (after.draft.registry collection).entries.keys) (old : id ∈ before.draft.ids) :
      id ∈ (before.draft.registry collection).entries.keys :=
    (reports.mem_keys known).resolve_right fun new => fresh id new old
  have home : ∃ collection, ∀ other, other ≠ collection →
      id ∉ (before.draft.registry other).entries.keys ∧
        id ∉ (after.draft.registry other).entries.keys := by
    by_cases old : id ∈ before.draft.ids
    · obtain ⟨collection, known⟩ := Draft.mem_ids.mp old
      refine ⟨collection, fun other differs => ⟨fun there => ?_, fun there => ?_⟩⟩
      · exact differs (separate other collection id there known)
      · exact differs (separate other collection id (came there old) known)
    · have nowhere (collection : DocumentCollection) :
          id ∉ (before.draft.registry collection).entries.keys := fun known =>
        old (Draft.mem_ids.mpr ⟨collection, known⟩)
      by_cases new : ∃ collection, id ∈ (after.draft.registry collection).entries.keys
      · obtain ⟨collection, known⟩ := new
        exact ⟨collection, fun other differs => ⟨nowhere other, fun there =>
          differs (reports.separate other collection id there known)⟩⟩
      · exact ⟨.source, fun other _ => ⟨nowhere other, fun there => new ⟨other, there⟩⟩⟩
  obtain ⟨collection, away⟩ := home
  have nothing (other : DocumentCollection) (differs : other ≠ collection) :
      before.draft.news after.draft id other = [] := by
    rw [Draft.news, Registry.shown?_of_not_mem (away other differs).1,
      Registry.shown?_of_not_mem (away other differs).2]
    rfl
  refine ⟨collection, away, ?_⟩
  obtain ⟨notices, editor, announces⟩ := reports.told
  rw [editor, Editor.history_notifyAll here, announces id]
  cases collection with
  | source => rw [nothing .additional (by decide), List.append_nil]
  | additional => rw [nothing .source (by decide), List.nil_append]

/-- What the editor comes to hear of a document is what there is to say in its collection. -/
theorem Reports.history_eq (reports : Reports given before after)
    (here : before.host.editor ≠ .absent) (separate : before.draft.Separate)
    (fresh : ∀ id ∈ identities given, id ∉ before.draft.ids) {collection : DocumentCollection}
    (known : id ∈ (before.draft.registry collection).entries.keys ∨
      id ∈ (after.draft.registry collection).entries.keys) :
    after.host.editor.history id = before.host.editor.history id ++
      (before.draft.news after.draft id collection).filterMap
        (Notice.event? before.host.editor.isOpen before.draft.id) := by
  obtain ⟨home, away, history⟩ := reports.exists_home here separate fresh id
  have at_home : collection = home := by
    by_contra elsewhere
    exact known.elim (away collection elsewhere).1 (away collection elsewhere).2
  rw [at_home, history]

/-- Nothing is said of documents that a draft does not come to know. -/
theorem Reports.history_of_absent (reports : Reports given before after)
    (here : before.host.editor ≠ .absent) (separate : before.draft.Separate)
    (fresh : ∀ id ∈ identities given, id ∉ before.draft.ids) (absent : id ∉ before.draft.ids)
    (absent_after : id ∉ after.draft.ids) :
    after.host.editor.history id = before.host.editor.history id := by
  obtain ⟨collection, _, history⟩ := reports.exists_home here separate fresh id
  rw [history, Draft.news,
    Registry.shown?_of_not_mem fun known => absent (Draft.mem_ids.mpr ⟨collection, known⟩),
    Registry.shown?_of_not_mem fun known => absent_after (Draft.mem_ids.mpr ⟨collection, known⟩)]
  exact List.append_nil _

/-! ## Coming into the snapshot and leaving it -/

theorem Mirrored.shows_iff (mirrored : session.Mirrored comparison project) :
    session.current.Shows session.draft.id id ↔
      ∃ collection entry, (session.draft.registry collection).shown? id = some entry := by
  have visible (collection : DocumentCollection) : id ∈ (project.documents collection).keys ↔
      ∃ entry, (session.draft.registry collection).shown? id = some entry := by
    rw [(mirrored.mirrors collection).mirrors.mem_keys_iff, Registry.shown?]
    refine exists_congr fun entry => ?_
    rw [Option.filter_eq_some_iff, Registry.isVisible_iff]
  constructor
  · rintro ⟨there, collection, found, known⟩
    rw [mirrored.found] at found
    cases found
    exact ⟨collection, (visible collection).mp known⟩
  · rintro ⟨collection, shown⟩
    exact ⟨project, collection, mirrored.found, (visible collection).mpr shown⟩

/-- Nothing but a document that comes into the snapshot is said to be there. -/
theorem opened_mem_news {isOpen : String → Bool} {there : ProjectId}
    {old new : Option RegistryEntry}
    (located : ∀ entry, new = some entry →
      entry.document.isBuffered = false → entry.document.path?.isSome = true)
    (told : .opened owner id ∈
      (Registry.news id old new).filterMap (Notice.event? isOpen there)) :
    owner = there ∧ old = none ∧ ∃ entry, new = some entry ∧
      (entry.document.isBuffered || entry.document.path?.any isOpen) = true := by
  obtain ⟨notice, said, passed⟩ := List.mem_filterMap.mp told
  cases old with
  | some entry =>
    exfalso
    cases new with
    | some _ => cases said
    | none =>
      simp only [Registry.news] at said
      split at said
      · rw [List.mem_singleton.mp said] at passed
        cases passed
      · cases said
  | none =>
    cases new with
    | none => cases said
    | some entry =>
      rw [List.mem_singleton.mp said, Draft.event?_arrival (located entry rfl)] at passed
      split at passed
      · rename_i heard
        cases passed
        exact ⟨rfl, rfl, entry, rfl, heard⟩
      · cases passed

/-- The editor is told that a document is there when it comes into the snapshot. -/
theorem Reports.opened (reports : Reports given before after)
    (here : before.host.editor ≠ .absent) (separate : before.draft.Separate)
    (fresh : ∀ id ∈ identities given, id ∉ before.draft.ids)
    (told : .opened owner id ∈ after.host.editor.history id)
    (untold : .opened owner id ∉ before.host.editor.history id) :
    owner = before.draft.id ∧
      (∀ collection, (before.draft.registry collection).shown? id = none) ∧
      ∃ collection entry, (after.draft.registry collection).shown? id = some entry ∧
        (entry.document.isBuffered ||
          entry.document.path?.any before.host.editor.isOpen) = true := by
  obtain ⟨collection, away, history⟩ := reports.exists_home here separate fresh id
  rw [history, List.mem_append] at told
  obtain ⟨owner_eq, old, entry, new, heard⟩ := opened_mem_news (fun entry new =>
    (reports.sound collection id entry (Option.filter_eq_some_iff.mp new).1).located)
    (told.resolve_left untold)
  refine ⟨owner_eq, fun other => ?_, collection, entry, new, heard⟩
  by_cases same : other = collection
  · rw [same, old]
  · exact Registry.shown?_of_not_mem (away other same).1

/-- A document that leaves the snapshot is not known any more. -/
theorem Reports.not_mem_ids (reports : Reports given before after)
    (separate : before.draft.Separate) (fresh : ∀ id ∈ identities given, id ∉ before.draft.ids)
    {collection : DocumentCollection} {entry : RegistryEntry}
    (shown : (before.draft.registry collection).shown? id = some entry)
    (hidden : ∀ there, (after.draft.registry there).shown? id = none) : id ∉ after.draft.ids := by
  intro known
  obtain ⟨found, visible⟩ := Option.filter_eq_some_iff.mp shown
  obtain ⟨there, known_there⟩ := Draft.mem_ids.mp known
  obtain ⟨last, last_found⟩ := OrderedMap.mem_keys_iff.mp known_there
  have known_before := OrderedMap.mem_keys_iff.mpr ⟨entry, found⟩
  rcases reports.continues there id last last_found with ⟨old, old_found, _, _, waits⟩ | ⟨same, new⟩
  · have here := separate there collection id (OrderedMap.mem_keys_iff.mpr ⟨old, old_found⟩)
      known_before
    subst here
    rw [found] at old_found
    cases old_found
    have unseen := hidden there
    rw [Registry.shown?, last_found, Option.filter_eq_none_iff] at unseen
    have waiting : last.state = .pendingAdd := by
      have invisible := unseen last rfl
      rwa [Registry.isVisible_iff, not_not] at invisible
    exact Registry.isVisible_iff.mp visible (waits waiting)
  · exact fresh id (List.mem_map.mpr ⟨_, new, same.symm⟩)
      (Draft.mem_ids.mpr ⟨collection, known_before⟩)

end Session

end CodeWorkspace
