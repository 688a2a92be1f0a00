import CodeWorkspace.Proofs.Session.Notices
import CodeWorkspace.Proofs.Workspace.Watches

/-!
# What the editor is told

Of each document the editor was told what its place requires: nothing as long as the document waits
to be added, that it is there once it is in the snapshot, and of a buffer that it is gone.
-/

namespace CodeWorkspace

/-- What an editor was told of a document that is known: nothing as long as the document waits to be
added, and then that it is there, except for a file. -/
structure RegistryEntry.Announced (entry : RegistryEntry) (owner : ProjectId) (id : DocumentId)
    (history : List EditorEvent) : Prop where
  waiting : entry.state = .pendingAdd → history = []
  shown : entry.state ≠ .pendingAdd →
    history = [.opened owner id] ∨ entry.buffer? = none ∧ history = []

/-- What an editor may have been told of a document that is not known any more. -/
def Document.Dismissed (document : Document) (history : List EditorEvent) : Prop :=
  history = [] ∨ ∃ owner, history =
    if document.isBuffered then [.opened owner document.id, .closed owner document.id]
    else [.opened owner document.id]

namespace RegistryEntry

variable {entry old : RegistryEntry} {owner : ProjectId} {id : DocumentId}
  {history : List EditorEvent} {isOpen : String → Bool}

theorem filter_isVisible_of_waiting (waits : entry.state = .pendingAdd) :
    (some entry).filter isVisible = none := by simp [isVisible, waits]

theorem filter_isVisible_of_shown (shown : entry.state ≠ .pendingAdd) :
    (some entry).filter isVisible = some entry := by simp [isVisible, shown]

/-- A document of which nothing has been said yet. -/
theorem announced_of_new (sound : entry.Sound id) :
    entry.Announced owner id ((Registry.news id none ((some entry).filter isVisible)).filterMap
      (Notice.event? isOpen owner)) := by
  by_cases hidden : entry.state = .pendingAdd
  · rw [filter_isVisible_of_waiting hidden]
    exact ⟨fun _ => rfl, fun shown => absurd hidden shown⟩
  · have told : (Registry.news id none (some entry)).filterMap (Notice.event? isOpen owner) =
        ((Draft.arrival entry.document).event? isOpen owner).toList := by
      cases event : (Draft.arrival entry.document).event? isOpen owner <;>
        simp [Registry.news, event]
    rw [filter_isVisible_of_shown hidden, told, Draft.event?_arrival sound.located,
      sound.document_id]
    refine ⟨fun waits => absurd waits hidden, fun _ => ?_⟩
    split
    · exact Or.inl rfl
    · rename_i unopened
      refine Or.inr ⟨?_, rfl⟩
      have unbuffered : entry.document.isBuffered = false := by
        cases buffered : entry.document.isBuffered <;> simp [buffered] at unopened ⊢
      rwa [sound.isBuffered_eq, Option.isSome_eq_false_iff, Option.isNone_iff_eq_none] at unbuffered

theorem Announced.goOn (announced : old.Announced owner id history) (sound : entry.Sound id)
    (same_buffer : entry.buffer? = old.buffer?)
    (waits : entry.state = .pendingAdd → old.state = .pendingAdd) :
    entry.Announced owner id (history ++ (Registry.news id ((some old).filter isVisible)
      ((some entry).filter isVisible)).filterMap (Notice.event? isOpen owner)) := by
  by_cases hidden : old.state = .pendingAdd
  · rw [announced.waiting hidden, filter_isVisible_of_waiting hidden]
    exact announced_of_new sound
  · have shown : entry.state ≠ .pendingAdd := fun state => hidden (waits state)
    rw [filter_isVisible_of_shown hidden, filter_isVisible_of_shown shown]
    refine ⟨fun state => absurd state shown, fun _ => ?_⟩
    rw [same_buffer, show Registry.news id (some old) (some entry) = [] from rfl,
      List.filterMap_nil, List.append_nil]
    exact announced.shown hidden

theorem Announced.dismissed {document : Document}
    (announced : old.Announced owner document.id history)
    (isBuffered_eq : document.isBuffered = old.buffer?.isSome) :
    document.Dismissed (history ++ (Registry.news document.id ((some old).filter isVisible)
      none).filterMap (Notice.event? isOpen owner)) := by
  by_cases hidden : old.state = .pendingAdd
  · rw [announced.waiting hidden, filter_isVisible_of_waiting hidden]
    exact Or.inl rfl
  · rw [filter_isVisible_of_shown hidden]
    rcases announced.shown hidden with told | ⟨unbuffered, silent⟩
    · refine Or.inr ⟨owner, ?_⟩
      rw [told, isBuffered_eq]
      cases buffer : old.buffer? <;> simp [Registry.news, buffer, Notice.event?]
    · rw [silent]
      refine Or.inl ?_
      simp [Registry.news, unbuffered]

end RegistryEntry

namespace Workspace

variable {comparison : PathComparison} {known : List DocumentId}
  {origin given : List (DocumentCollection × Document)} {silent : List DocumentId}
  {workspace next : Workspace} {place : Nat} {draft : Draft} {after : Session}

/-- The editor was told of each document what its place requires.  The documents come from among
given ones, and some of them are gone without the editor ever having heard of them. -/
structure Notified (origin : List (DocumentCollection × Document)) (silent : List DocumentId)
    (known : List DocumentId) (workspace : Workspace) : Prop where
  here : workspace.host.editor ≠ .absent
  sourced : ∀ (place : Nat) draft, workspace.drafts[place]? = some draft →
    ∀ collection id entry, (draft.registry collection).entries.get? id = some entry →
      ∃ document, (collection, document) ∈ origin ∧ document.id = id ∧
        document.path? = entry.document.path? ∧ document.isBuffered = entry.buffer?.isSome
  announced : ∀ (place : Nat) draft, workspace.drafts[place]? = some draft →
    ∀ collection id entry, (draft.registry collection).entries.get? id = some entry →
      entry.Announced draft.id id (workspace.host.editor.history id)
  unheard : ∀ id, id ∉ known → workspace.host.editor.history id = []
  dismissed : ∀ new ∈ origin,
    (∀ (place : Nat) draft, workspace.drafts[place]? = some draft → new.2.id ∉ draft.ids) →
      new.2.Dismissed (workspace.host.editor.history new.2.id)
  unsaid : ∀ id ∈ silent, id ∈ known ∧ workspace.host.editor.history id = [] ∧
    ∀ (place : Nat) draft, workspace.drafts[place]? = some draft → id ∉ draft.ids

theorem eq_of_identities_nodup (distinct : (identities origin).Nodup)
    {first second : DocumentCollection × Document} (first_mem : first ∈ origin)
    (second_mem : second ∈ origin) (same : first.2.id = second.2.id) : first = second :=
  List.inj_on_of_nodup_map distinct first_mem second_mem same

theorem ids_of_found {collection : DocumentCollection} {id : DocumentId} {entry : RegistryEntry}
    (found : (draft.registry collection).entries.get? id = some entry) : id ∈ draft.ids :=
  Draft.mem_ids.mpr ⟨collection, OrderedMap.mem_keys_iff.mpr ⟨entry, found⟩⟩

/-! ## Work on a draft -/

section Work

variable (notified : workspace.Notified origin silent known)
  (found : workspace.drafts[place]? = some draft) (separate : draft.Separate)
  (reports : Session.Reports given { host := workspace.host, draft } after)

include notified found separate reports

/-- Of the documents of the draft the editor was told what their new place requires. -/
theorem Notified.announced_worked (fresh : ∀ id ∈ identities given, id ∉ draft.ids)
    (unheard : ∀ id ∈ identities given, workspace.host.editor.history id = [])
    {collection : DocumentCollection} {id : DocumentId} {entry : RegistryEntry}
    (entry_found : (after.draft.registry collection).entries.get? id = some entry) :
    entry.Announced after.draft.id id (after.host.editor.history id) := by
  have sound := reports.sound collection id entry entry_found
  have known_after := OrderedMap.mem_keys_iff.mpr ⟨entry, entry_found⟩
  rw [reports.history_eq notified.here separate fresh (Or.inr known_after), reports.id_eq,
    Draft.news, Registry.shown?, Registry.shown?, entry_found]
  rcases reports.continues collection id entry entry_found with
    ⟨old, old_found, same_buffer, _, waits⟩ | ⟨same, new⟩
  · rw [old_found]
    exact (notified.announced _ draft found collection id old old_found).goOn sound same_buffer
      waits
  · have id_new : id ∈ identities given := List.mem_map.mpr ⟨_, new, same.symm⟩
    have unknown : (draft.registry collection).entries.get? id = none :=
      OrderedMap.get?_eq_none_iff.mpr fun known =>
        fresh id id_new (Draft.mem_ids.mpr ⟨collection, known⟩)
    rw [unknown, unheard id id_new]
    exact RegistryEntry.announced_of_new sound

/-- Of a document that leaves the draft the editor was told what there is to say. -/
theorem Notified.dismissed_worked (origin_distinct : (identities origin).Nodup)
    (fresh : ∀ id ∈ identities given, id ∉ draft.ids) {new : DocumentCollection × Document}
    (new_mem : new ∈ origin) (own : new.2.id ∈ draft.ids) (absent : new.2.id ∉ after.draft.ids) :
    new.2.Dismissed (after.host.editor.history new.2.id) := by
  obtain ⟨collection, known_here⟩ := Draft.mem_ids.mp own
  obtain ⟨old, old_found⟩ := OrderedMap.mem_keys_iff.mp known_here
  obtain ⟨document, document_mem, same_id, _, isBuffered_eq⟩ :=
    notified.sourced place draft found collection new.2.id old old_found
  obtain rfl : (collection, document) = new :=
    eq_of_identities_nodup origin_distinct document_mem new_mem same_id
  rw [reports.history_eq notified.here separate fresh (Or.inl known_here), Draft.news,
    Registry.shown?_of_not_mem fun known => absent (Draft.mem_ids.mpr ⟨collection, known⟩),
    Registry.shown?, old_found]
  exact (notified.announced place draft found collection _ old old_found).dismissed isBuffered_eq

end Work

theorem Notified.worked (notified : workspace.Notified origin silent known)
    (mirrors : workspace.Mirrors comparison known)
    (found : workspace.drafts[place]? = some draft) (live : draft.removed = false)
    (reports : Session.Reports given { host := workspace.host, draft } after)
    (origin_distinct : (identities origin).Nodup) (fresh : ∀ id ∈ identities given, id ∉ known)
    (within : given ⊆ origin) :
    (workspace.worked place after).Notified origin silent (known ++ identities given) := by
  obtain ⟨project, mirrored⟩ := mirrors.exists_mirrored found live
  have separate : draft.Separate := mirrored.separate
  have fresh_here : ∀ id ∈ identities given, id ∉ draft.ids := fun id new own =>
    fresh id new (mirrors.known_ids place draft found id own)
  have same_history {id : DocumentId} (absent : id ∉ draft.ids) (old : id ∉ identities given) :
      after.host.editor.history id = workspace.host.editor.history id :=
    reports.history_of_absent notified.here separate fresh_here absent fun known_after =>
      (reports.mem_ids known_after).elim absent old
  have placed := getElem?_worked_self found after
  refine ⟨?_, ?_, ?_, ?_, ?_, ?_⟩
  · obtain ⟨notices, editor, _⟩ := reports.told
    show after.host.editor ≠ .absent
    rw [editor]
    exact (Editor.notifyAll_eq notified.here _ _).1
  · intro other there there_found collection id entry entry_found
    rcases getElem?_set_cases there_found with ⟨rfl, rfl⟩ | ⟨_, there_found⟩
    · rcases reports.continues collection id entry entry_found with
        ⟨old, old_found, same_buffer, same_path, _⟩ | ⟨same, new⟩
      · rw [same_buffer, same_path]
        exact notified.sourced _ draft found collection id old old_found
      · exact ⟨entry.document, within new, same.symm, rfl,
          (reports.sound collection id entry entry_found).isBuffered_eq⟩
    · exact notified.sourced other there there_found collection id entry entry_found
  · intro other there there_found collection id entry entry_found
    rcases getElem?_set_cases there_found with ⟨rfl, rfl⟩ | ⟨differs, there_found⟩
    · exact notified.announced_worked found separate reports fresh_here
        (fun id new => notified.unheard id (fresh id new)) entry_found
    · have known_there := ids_of_found entry_found
      have absent : id ∉ draft.ids := fun own =>
        differs (mirrors.apart other place there draft there_found found id known_there own)
      have old : id ∉ identities given := fun new =>
        fresh id new (mirrors.known_ids other there there_found id known_there)
      show entry.Announced there.id id (after.host.editor.history id)
      rw [same_history absent old]
      exact notified.announced other there there_found collection id entry entry_found
  · intro id unknown
    have id_old : id ∉ known := fun old => unknown (List.mem_append_left _ old)
    show after.host.editor.history id = []
    rw [same_history (fun own => id_old (mirrors.known_ids place draft found id own)) fun new =>
      unknown (List.mem_append_right _ new)]
    exact notified.unheard id id_old
  · intro new new_mem nowhere
    have absent_after : new.2.id ∉ after.draft.ids := nowhere place after.draft placed
    show new.2.Dismissed (after.host.editor.history new.2.id)
    by_cases own : new.2.id ∈ draft.ids
    · exact notified.dismissed_worked found separate reports origin_distinct fresh_here new_mem own
        absent_after
    · rw [reports.history_of_absent notified.here separate fresh_here own absent_after]
      refine notified.dismissed new new_mem fun other there there_found => ?_
      by_cases same : other = place
      · subst same
        rw [found] at there_found
        cases there_found
        exact own
      · exact nowhere other there ((getElem?_worked_of_ne same after).trans there_found)
  · intro id id_mem
    obtain ⟨id_known, silence, nowhere⟩ := notified.unsaid id id_mem
    have absent := nowhere place draft found
    have old : id ∉ identities given := fun new => fresh id new id_known
    refine ⟨List.mem_append_left _ id_known, (same_history absent old).trans silence, ?_⟩
    intro other there there_found known_there
    rcases getElem?_set_cases there_found with ⟨_, rfl⟩ | ⟨_, there_found⟩
    · exact (reports.mem_ids known_there).elim absent old
    · exact nowhere other there there_found known_there

/-! ## Everything else -/

/-- What is known in the drafts stays the same, and so does what the editor was told. -/
theorem Notified.of_entries (notified : workspace.Notified origin silent known)
    (here : next.host.editor ≠ .absent)
    (events : next.host.editor.events = workspace.host.editor.events)
    (entries : ∀ (place : Nat) draft, next.drafts[place]? = some draft →
      ∀ collection id entry, (draft.registry collection).entries.get? id = some entry →
        ∃ old, workspace.drafts[place]? = some old ∧ old.id = draft.id ∧
          (old.registry collection).entries.get? id = some entry)
    (ids : ∀ (place : Nat) draft, workspace.drafts[place]? = some draft → ∀ id ∈ draft.ids,
      ∃ last, next.drafts[place]? = some last ∧ id ∈ last.ids) :
    next.Notified origin silent known := by
  have history (id : DocumentId) :
      next.host.editor.history id = workspace.host.editor.history id := by
    rw [Editor.history, Editor.history, events]
  refine ⟨here, ?_, ?_, ?_, ?_, ?_⟩
  · intro place draft found collection id entry entry_found
    obtain ⟨old, old_found, _, same⟩ := entries place draft found collection id entry entry_found
    exact notified.sourced place old old_found collection id entry same
  · intro place draft found collection id entry entry_found
    obtain ⟨old, old_found, id_eq, same⟩ :=
      entries place draft found collection id entry entry_found
    rw [history, ← id_eq]
    exact notified.announced place old old_found collection id entry same
  · intro id unknown
    rw [history]
    exact notified.unheard id unknown
  · intro new new_mem nowhere
    rw [history]
    refine notified.dismissed new new_mem fun place draft found known => ?_
    obtain ⟨last, last_found, known_last⟩ := ids place draft found _ known
    exact nowhere place last last_found known_last
  · intro id id_mem
    obtain ⟨id_known, silence, nowhere⟩ := notified.unsaid id id_mem
    refine ⟨id_known, (history id).trans silence, fun place draft found known => ?_⟩
    obtain ⟨collection, known_there⟩ := Draft.mem_ids.mp known
    obtain ⟨entry, entry_found⟩ := OrderedMap.mem_keys_iff.mp known_there
    obtain ⟨old, old_found, _, same⟩ := entries place draft found collection id entry entry_found
    exact nowhere place old old_found (ids_of_found same)

/-- A draft that is removed knows nothing that the editor might hear of. -/
theorem Notified.idle (notified : workspace.Notified origin silent known)
    (found : workspace.drafts[place]? = some draft) (unknown : draft.ids = [])
    (host_eq : after.host = workspace.host) (ids_eq : after.draft.ids = draft.ids) :
    (workspace.worked place after).Notified origin silent known := by
  have editor_eq : (workspace.worked place after).host.editor = workspace.host.editor :=
    congrArg Host.editor host_eq
  refine notified.of_entries (editor_eq ▸ notified.here) (congrArg Editor.events editor_eq) ?_ ?_
  · intro other there there_found collection id entry entry_found
    rcases getElem?_set_cases there_found with ⟨_, rfl⟩ | ⟨_, there_found⟩
    · have known_here := ids_of_found entry_found
      rw [ids_eq, unknown] at known_here
      cases known_here
    · exact ⟨there, there_found, rfl, entry_found⟩
  · intro other there there_found id known_there
    have differs : other ≠ place := by
      rintro rfl
      rw [found] at there_found
      cases there_found
      rw [unknown] at known_there
      cases known_there
    exact ⟨there, (getElem?_worked_of_ne differs after).trans there_found, known_there⟩

theorem Notified.putIn (notified : workspace.Notified origin silent known) (info : ProjectInfo)
    (store : Store) : (workspace.putIn info store).Notified origin silent known := by
  refine notified.of_entries notified.here rfl ?_ ?_
  · intro place draft found collection id entry entry_found
    rcases getElem?_concat_cases found with old | ⟨_, rfl⟩
    · exact ⟨draft, old, rfl, entry_found⟩
    · cases collection <;> cases entry_found
  · intro place draft found id known
    refine ⟨draft, ?_, known⟩
    show (workspace.drafts ++ [_])[place]? = some draft
    rw [List.getElem?_append_left (List.getElem?_eq_some_iff.mp found).1]
    exact found

/-- When a project is taken out, the editor is told which buffers are gone. -/
theorem Notified.takenOut (notified : workspace.Notified origin silent known)
    (mirrors : workspace.Mirrors comparison known)
    (found : workspace.drafts[place]? = some draft) (live : draft.removed = false)
    (done : { host := workspace.host, draft : Session }.removeProject = (.ok (), after))
    (discarded : after.draft = draft.discard.2) (origin_distinct : (identities origin).Nodup) :
    (workspace.takenOut place draft.id after).Notified origin silent known := by
  have nothing : ∀ id ∈ identities [], id ∉ known := fun _ new => absurd new List.not_mem_nil
  have reached := notified.worked mirrors found live
    (Session.reports_of_removeProject done discarded) origin_distinct nothing (List.nil_subset _)
  rw [show known ++ identities [] = known from List.append_nil known] at reached
  refine reached.of_entries reached.here rfl ?_ ?_
  · intro other last last_found collection id entry entry_found
    rw [Workspace.takenOut, getElem?_forgetReferencesTo] at last_found
    obtain ⟨there, there_found, rfl⟩ := Option.map_eq_some_iff.mp last_found
    refine ⟨there, there_found, by split <;> rfl, ?_⟩
    split at entry_found <;> cases collection <;> exact entry_found
  · intro other there there_found id known_there
    refine ⟨_, (getElem?_forgetReferencesTo _ draft.id other).trans
      (congrArg (Option.map _) there_found), ?_⟩
    split <;> exact known_there

/-- What the editor was told stays in order, whatever happens. -/
theorem staged_notified (comparison : PathComparison)
    (origin_distinct : (identities origin).Nodup) : Staged comparison origin fun known workspace =>
      workspace.Attended ∧ workspace.Notified origin silent known where
  stage mirrors holds found live stage distinct fresh within := by
    obtain ⟨attended, notified⟩ := holds
    obtain ⟨project, mirrored⟩ := mirrors.exists_mirrored found live
    have reports := stage.reports mirrored (attended.tended _ _ found) distinct
      fun id new own => fresh id new (mirrors.known_ids _ _ found id own)
    exact ⟨attended.stage mirrors found live stage distinct fresh,
      notified.worked mirrors found live reports origin_distinct fresh within⟩
  idle holds found gone host_eq ids_eq := ⟨holds.1.idle found gone host_eq ids_eq,
    holds.2.idle found (holds.1.emptied _ _ found gone) host_eq ids_eq⟩
  around holds ground drafts := by
    refine ⟨holds.1.around ground drafts,
      holds.2.of_entries (fun absent => holds.2.here (ground.absent.mp absent)) ground.events ?_ ?_⟩
    · rw [drafts]
      exact fun place draft found collection id entry entry_found =>
        ⟨draft, found, rfl, entry_found⟩
    · rw [drafts]
      exact fun place draft found id known => ⟨draft, found, known⟩
  putIn info store holds := ⟨holds.1.putIn info store, holds.2.putIn info store⟩
  takeOut mirrors holds found live done discarded := ⟨holds.1.takenOut found _ done discarded,
    holds.2.takenOut mirrors found live done discarded origin_distinct⟩
  mono subset holds := ⟨holds.1, { holds.2 with
    unheard := fun id unknown => holds.2.unheard id fun old => unknown (subset old)
    unsaid := fun id id_mem => (holds.2.unsaid id id_mem).imp_left fun old => subset old }⟩

theorem notified_starting (comparison : PathComparison) (feed : ChangeFeed)
    (openPaths : OrderedSet String) (refusals : Nat → Option String) :
    (starting comparison { feed } (.present openPaths []) refusals).Notified origin [] [] where
  here := Editor.noConfusion
  sourced _ _ found := by cases found
  announced _ _ found := by cases found
  unheard _ _ := rfl
  dismissed _ _ _ := Or.inl rfl
  unsaid _ said := absurd said List.not_mem_nil

end Workspace

end CodeWorkspace
