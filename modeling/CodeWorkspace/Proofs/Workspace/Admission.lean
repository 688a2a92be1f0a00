import CodeWorkspace.Proofs.Session.Waiting
import CodeWorkspace.Proofs.Workspace.Notices

/-!
# How the editor comes to hear of a document

The editor hears that a document is there by the command by which the document comes into the
snapshot, and it never hears of one that is taken back while it is waiting.
-/

namespace CodeWorkspace

namespace Workspace

variable {comparison : PathComparison} {known silent : List DocumentId}
  {origin given : List (DocumentCollection × Document)} {workspace : Workspace}
  {place : Nat} {draft : Draft} {after : Session} {owner : ProjectId} {id : DocumentId}

/-! ## When the editor hears that a document is there -/

/-- All that is known of a workspace at a moment of a run. -/
structure Followed (comparison : PathComparison) (origin : List (DocumentCollection × Document))
    (silent known : List DocumentId) (workspace : Workspace) : Prop where
  mirrors : workspace.Mirrors comparison known
  attended : workspace.Attended
  notified : workspace.Notified origin silent known
  origin_distinct : (identities origin).Nodup

theorem Followed.stage (followed : workspace.Followed comparison origin silent known)
    (found : workspace.drafts[place]? = some draft) (live : draft.removed = false)
    (stage : Session.Stage given { host := workspace.host, draft } after)
    (distinct : (identities given).Nodup) (fresh : ∀ id ∈ identities given, id ∉ known)
    (within : given ⊆ origin) :
    (workspace.worked place after).Followed comparison origin silent (known ++ identities given) ∧
      after.draft.removed = false := by
  obtain ⟨mirrors, live_after⟩ := followed.mirrors.stage found live stage distinct fresh
  obtain ⟨attended, notified⟩ := (staged_notified comparison followed.origin_distinct).stage
    followed.mirrors ⟨followed.attended, followed.notified⟩ found live stage distinct fresh within
  exact ⟨⟨mirrors, attended, notified, followed.origin_distinct⟩, live_after⟩

theorem Followed.reports (followed : workspace.Followed comparison origin silent known)
    (found : workspace.drafts[place]? = some draft) (live : draft.removed = false)
    (stage : Session.Stage given { host := workspace.host, draft } after)
    (distinct : (identities given).Nodup) (fresh : ∀ id ∈ identities given, id ∉ known) :
    Session.Reports given { host := workspace.host, draft } after := by
  obtain ⟨project, mirrored⟩ := followed.mirrors.exists_mirrored found live
  exact stage.reports mirrored (followed.attended.tended place draft found) distinct
    fun id new own => fresh id new (followed.mirrors.known_ids place draft found id own)

/-- A document that was introduced is known by its path and as a buffer or a file. -/
theorem Followed.of_introduced (followed : workspace.Followed comparison origin silent known)
    (found : workspace.drafts[place]? = some draft) {new : DocumentCollection × Document}
    (new_mem : new ∈ origin) {collection : DocumentCollection} {entry : RegistryEntry}
    (entry_found : (draft.registry collection).entries.get? new.2.id = some entry) :
    new.2.path? = entry.document.path? ∧ new.2.isBuffered = entry.buffer?.isSome := by
  obtain ⟨document, document_mem, same_id, path_eq, isBuffered_eq⟩ :=
    followed.notified.sourced place draft found collection new.2.id entry entry_found
  obtain rfl : (collection, document) = new :=
    eq_of_identities_nodup followed.origin_distinct document_mem new_mem same_id
  exact ⟨path_eq, isBuffered_eq⟩

/-- The editor hears in a stage that a document is there. -/
structure Admitted (origin : List (DocumentCollection × Document)) (workspace : Workspace)
    (draft : Draft) (after : Session) (owner : ProjectId) (id : DocumentId) : Prop where
  owner_eq : owner = draft.id
  hidden : ∀ collection, (draft.registry collection).shown? id = none
  known : id ∈ after.draft.ids
  shows : after.current.Shows owner id
  heard : ∀ new ∈ origin, new.2.id = id →
    (new.2.isBuffered || new.2.path?.any workspace.host.editor.isOpen) = true

theorem Followed.admitted_of_stage (followed : workspace.Followed comparison origin silent known)
    (found : workspace.drafts[place]? = some draft) (live : draft.removed = false)
    (stage : Session.Stage given { host := workspace.host, draft } after)
    (distinct : (identities given).Nodup) (fresh : ∀ id ∈ identities given, id ∉ known)
    (within : given ⊆ origin) (told : .opened owner id ∈ after.host.editor.history id)
    (untold : .opened owner id ∉ workspace.host.editor.history id) :
    Admitted origin workspace draft after owner id := by
  obtain ⟨project, mirrored⟩ := followed.mirrors.exists_mirrored found live
  have fresh_here : ∀ id ∈ identities given, id ∉ draft.ids := fun id new own =>
    fresh id new (followed.mirrors.known_ids place draft found id own)
  have reports := followed.reports found live stage distinct fresh
  obtain ⟨rfl, hidden, collection, entry, shown, heard⟩ :=
    reports.opened followed.notified.here mirrored.separate fresh_here told untold
  obtain ⟨⟨changed, mirrored_after⟩, id_eq, _⟩ := stage.mirrored mirrored distinct fresh_here
  obtain ⟨next, _⟩ := followed.stage found live stage distinct fresh within
  have placed := getElem?_worked_self found after
  have entry_found := (Option.filter_eq_some_iff.mp shown).1
  refine ⟨rfl, hidden, ids_of_found entry_found, ?_, fun new new_mem same_id => ?_⟩
  · have shows := mirrored_after.shows_iff.mpr ⟨collection, entry, shown⟩
    rwa [id_eq] at shows
  · obtain ⟨path_eq, isBuffered_eq⟩ := next.of_introduced placed new_mem (same_id ▸ entry_found)
    rw [path_eq, isBuffered_eq, ← (reports.sound collection id entry entry_found).isBuffered_eq]
    exact heard

/-- The editor hears of a document by an operation when the document comes into the snapshot, at the
end or when what was left waiting is committed on occasion of an edit. -/
theorem Followed.admitted_of_operate
    (followed : workspace.Followed comparison origin silent known)
    (found : workspace.drafts[place]? = some draft) (operation : Session.Operation)
    (fresh : ∀ id ∈ operation.drawn, id ∉ known) (within : operation.introduced ⊆ origin)
    (told : .opened owner id ∈
      (Session.operate { host := workspace.host, draft } operation).host.editor.history id)
    (untold : .opened owner id ∉ workspace.host.editor.history id) :
    ¬ workspace.snapshot.Shows owner id ∧
      ((Session.operate { host := workspace.host, draft } operation).current.Shows owner id ∨
        (∃ edit, operation = .perform edit) ∧
          (Session.flush { host := workspace.host, draft }).2.current.Shows owner id) ∧
      ∀ new ∈ origin, new.2.id = id →
        (new.2.isBuffered || new.2.path?.any workspace.host.editor.isOpen) = true := by
  cases live : draft.removed with
  | true =>
    rw [Session.host_operate_of_removed live] at told
    exact absurd told untold
  | false =>
    have live_session : ({ host := workspace.host, draft } : Session).draft.removed = false := live
    obtain ⟨middle, first, second, heard⟩ := Session.operate_stages live_session operation
    have nothing : ∀ id ∈ identities [], id ∉ known := fun _ new => absurd new List.not_mem_nil
    obtain ⟨project, mirrored⟩ := followed.mirrors.exists_mirrored found live
    by_cases early : .opened owner id ∈ middle.host.editor.history id
    · have admitted := followed.admitted_of_stage found live first List.nodup_nil nothing
        (List.nil_subset _) early untold
      refine ⟨fun shows => ?_, ?_, admitted.heard⟩
      · rw [admitted.owner_eq] at shows
        obtain ⟨collection, entry, shown⟩ := mirrored.shows_iff.mp shows
        rw [admitted.hidden] at shown
        cases shown
      · rcases heard with same | ⟨editing, current⟩
        · rw [same] at early
          exact absurd early untold
        · exact Or.inr ⟨editing, current ▸ admitted.shows⟩
    · have reports := followed.reports found live first List.nodup_nil nothing
      obtain ⟨between, live_middle⟩ := followed.stage found live first List.nodup_nil nothing
        (List.nil_subset _)
      rw [show known ++ identities [] = known from List.append_nil known] at between
      have placed := getElem?_worked_self found middle
      rw [operation.drawn_eq] at fresh
      have admitted := between.admitted_of_stage placed live_middle second
        (Operation.introduced_nodup operation) fresh within told early
      have later := between.reports placed live_middle second
        (Operation.introduced_nodup operation) fresh
      have same_open : middle.host.editor.isOpen = workspace.host.editor.isOpen := by
        obtain ⟨notices, editor, _⟩ := reports.told
        rw [editor]
        exact (Editor.notifyAll_eq followed.notified.here _ _).2.1
      refine ⟨fun shows => ?_, Or.inl admitted.shows, same_open ▸ admitted.heard⟩
      rw [admitted.owner_eq, show middle.draft.id = draft.id from reports.id_eq] at shows
      obtain ⟨collection, entry, shown⟩ := mirrored.shows_iff.mp shows
      have known_before := ids_of_found (Option.filter_eq_some_iff.mp shown).1
      -- a document that has left has left for good
      rcases later.mem_ids admitted.known with still | new
      · exact reports.not_mem_ids mirrored.separate (fun _ new => absurd new List.not_mem_nil) shown
          admitted.hidden still
      · exact fresh id new (followed.mirrors.known_ids place draft found id known_before)

/-- A document of a project comes into the snapshot by a command: it is there at the end, or when
what was left waiting has been committed on occasion of an edit. -/
def Admits (workspace : Workspace) (command : Command) (owner : ProjectId) (id : DocumentId) :
    Prop :=
  ¬ workspace.snapshot.Shows owner id ∧
    ((workspace.step command).2.snapshot.Shows owner id ∨
      ∃ place edit draft, command = .edit place edit ∧ workspace.drafts[place]? = some draft ∧
        (Session.flush { host := workspace.host, draft }).2.current.Shows owner id)

/-- The editor does not hear that a document is there unless a draft is edited or a batch ends. -/
theorem Followed.untold_of_other (followed : workspace.Followed comparison origin silent known)
    {command : Command} (unedited : ∀ place edit, command ≠ .edit place edit)
    (unreleased : ∀ number, command ≠ .releaseScope number)
    (untold : .opened owner id ∉ workspace.host.editor.history id) :
    .opened owner id ∉ (workspace.step command).2.host.editor.history id := by
  have same_host (session : Session) : session.beginBatch.2.host = session.host := by
    rw [Session.beginBatch]
    split <;> rfl
  refine @holds_step workspace (fun reached => .opened owner id ∉ reached.host.editor.history id)
    command (fun before ground _ _ => ?_) (fun {before _ draft} operation reached _ performs => ?_)
    (fun _ _ _ => untold) (fun _ _ _ done => ?_) untold
  · rwa [Editor.history, ground.events]
  · have same : (Session.operate { host := before.host, draft } operation).host.editor =
        before.host.editor := by
      cases command with
      | edit place edit => exact absurd rfl (unedited place edit)
      | releaseScope number => exact absurd rfl (unreleased number)
      | openScope place =>
        cases performs
        exact congrArg Host.editor (same_host _)
      | dispatch path =>
        cases performs
        exact Session.editor_fileChanged _ path
      | raise path =>
        obtain ⟨path, rfl⟩ := performs
        exact Session.editor_fileChanged _ path
      | _ => cases performs
    show .opened owner id ∉
      (Session.operate { host := before.host, draft } operation).host.editor.history id
    rwa [same]
  · rename_i draft removed _ _ _
    show .opened owner id ∉ removed.host.editor.history id
    rw [(Session.host_of_removeProject done).2.2, Editor.history_notifyAll followed.notified.here,
      List.mem_append, not_or]
    refine ⟨untold, fun told => ?_⟩
    -- of what is gone, the editor hears no more than that
    obtain ⟨notice, said, passed⟩ := List.mem_filterMap.mp told
    obtain ⟨gone, _, rfl⟩ := List.mem_map.mp (List.mem_filter.mp said).1
    cases passed

/-- Releasing a scope ends a batch of a draft, or touches nothing that projects share. -/
theorem host_releaseScope (workspace : Workspace) (number : Nat) :
    (workspace.releaseScope number).2.host = workspace.host ∨
      ∃ (place : Nat) (draft : Draft), workspace.drafts[place]? = some draft ∧
        (workspace.releaseScope number).2.host =
          (Session.operate { host := workspace.host, draft } .endBatch).host := by
  rw [releaseScope]
  split
  · exact Or.inl rfl
  · rename_i scope _
    split
    · exact Or.inl rfl
    · rw [onDraft]
      split
      · exact Or.inl rfl
      · rename_i draft found
        exact Or.inr ⟨scope.draft, draft, found, rfl⟩

theorem Followed.admits_of_step (followed : workspace.Followed comparison origin silent known)
    (command : Command) (fresh : ∀ id ∈ command.drawn, id ∉ known)
    (within : command.introduced ⊆ origin)
    (told : .opened owner id ∈ (workspace.step command).2.host.editor.history id)
    (untold : .opened owner id ∉ workspace.host.editor.history id) :
    workspace.Admits command owner id ∧ ∀ new ∈ origin, new.2.id = id →
      (new.2.isBuffered || new.2.path?.any workspace.host.editor.isOpen) = true := by
  by_cases editing : ∃ place edit, command = .edit place edit
  · obtain ⟨place, edit, rfl⟩ := editing
    cases found : workspace.drafts[place]? with
    | none =>
      have stays : (workspace.step (.edit place edit)).2 = workspace := by
        simp only [Workspace.step, onDraft, found]
      rw [stays] at told
      exact absurd told untold
    | some draft =>
      rw [step_edit found] at told
      obtain ⟨absent, committed, heard⟩ :=
        followed.admitted_of_operate found (.perform edit) fresh within told untold
      refine ⟨⟨absent, ?_⟩, heard⟩
      rcases committed with shows | ⟨_, shows⟩
      · rw [step_edit found]
        exact Or.inl shows
      · exact Or.inr ⟨place, edit, draft, rfl, found, shows⟩
  · by_cases releasing : ∃ number, command = .releaseScope number
    · obtain ⟨number, rfl⟩ := releasing
      have told_there :
          .opened owner id ∈ (workspace.releaseScope number).2.host.editor.history id := told
      rcases workspace.host_releaseScope number with same | ⟨place, draft, found, host_eq⟩
      · rw [same] at told_there
        exact absurd told_there untold
      · rw [host_eq] at told_there
        obtain ⟨absent, committed, heard⟩ := followed.admitted_of_operate found .endBatch
          (fun _ drawn => absurd drawn List.not_mem_nil) (List.nil_subset _) told_there untold
        refine ⟨⟨absent, ?_⟩, heard⟩
        rcases committed with shows | ⟨⟨_, impossible⟩, _⟩
        · refine Or.inl ?_
          show (workspace.releaseScope number).2.host.store.current.Shows owner id
          rw [host_eq]
          exact shows
        · cases impossible
    · have unedited (place : Nat) (edit : Edit) : command ≠ .edit place edit :=
        fun same => editing ⟨place, edit, same⟩
      have unreleased (number : Nat) : command ≠ .releaseScope number :=
        fun same => releasing ⟨number, same⟩
      exact absurd told (followed.untold_of_other unedited unreleased untold)

/-! ## Documents that never come into the snapshot -/

/-- A command takes back a document that waits to be added: it takes the document out again while a
batch is open, or it removes the project. -/
inductive TakesBack (workspace : Workspace) (id : DocumentId) : Command → Prop where
  | cancelled {place : Nat} {draft : Draft} {collection : DocumentCollection}
      {entry : RegistryEntry} {edit : Edit} (found : workspace.drafts[place]? = some draft)
      (entry_found : (draft.registry collection).entries.get? id = some entry)
      (waits : entry.state = .pendingAdd) (batching : draft.isBatching = true)
      (gone : ∀ last, (workspace.step (.edit place edit)).2.drafts[place]? = some last →
        (last.registry collection).entries.get? id = none) :
      TakesBack workspace id (.edit place edit)
  | removed {place : Nat} {draft : Draft} {collection : DocumentCollection}
      {entry : RegistryEntry} (found : workspace.drafts[place]? = some draft)
      (entry_found : (draft.registry collection).entries.get? id = some entry)
      (waits : entry.state = .pendingAdd)
      (gone : (workspace.step (.removeProject draft.id)).2.snapshot.project? draft.id = none) :
      TakesBack workspace id (.removeProject draft.id)

/-- In an open batch an edit does not concern the editor. -/
theorem editor_perform_of_batching {session : Session} (live : session.draft.removed = false)
    (batching : session.draft.isBatching = true) (edit : Edit) :
    (session.perform edit).2.host.editor = session.host.editor := by
  by_cases reporting : ∃ path, edit = .fileChanged path
  · obtain ⟨path, rfl⟩ := reporting
    exact session.editor_fileChanged path
  · rcases Session.perform_of_batching live batching
      (fun path same => reporting ⟨path, same⟩) with ⟨same, _⟩ | ⟨_, _, _, performed⟩
    · rw [same]
    · rw [performed]
      rfl

theorem Followed.live_of_found (followed : workspace.Followed comparison origin silent known)
    (found : workspace.drafts[place]? = some draft) {collection : DocumentCollection}
    {entry : RegistryEntry}
    (entry_found : (draft.registry collection).entries.get? id = some entry) :
    draft.removed = false := by
  refine Bool.eq_false_iff.mpr fun removed => ?_
  have known_here := ids_of_found entry_found
  rw [followed.attended.emptied place draft found removed] at known_here
  cases known_here

/-- The collection of a document stays the same. -/
theorem Followed.collection_eq {next : Workspace} {more : List DocumentId}
    (followed : workspace.Followed comparison origin silent known)
    (later : next.Followed comparison origin silent more)
    (found : workspace.drafts[place]? = some draft) {collection : DocumentCollection}
    {entry : RegistryEntry}
    (entry_found : (draft.registry collection).entries.get? id = some entry)
    {other : Nat} {last : Draft} (last_found : next.drafts[other]? = some last)
    {there : DocumentCollection} (known_there : id ∈ (last.registry there).entries.keys) :
    there = collection := by
  obtain ⟨left, left_found⟩ := OrderedMap.mem_keys_iff.mp known_there
  obtain ⟨document, document_mem, document_id, _⟩ :=
    followed.notified.sourced place draft found collection id entry entry_found
  obtain ⟨other_document, other_mem, other_id, _⟩ :=
    later.notified.sourced other last last_found there id left left_found
  have same := eq_of_identities_nodup followed.origin_distinct other_mem document_mem
    (other_id.trans document_id.symm)
  exact congrArg Prod.fst same

/-- A document that an edit takes out of its draft is in no other. -/
theorem Followed.nowhere_of_cancelled {edit : Edit}
    (followed : workspace.Followed comparison origin silent known)
    {more : List DocumentId}
    (next : (workspace.step (.edit place edit)).2.Followed comparison origin silent more)
    (found : workspace.drafts[place]? = some draft) {collection : DocumentCollection}
    {entry : RegistryEntry}
    (entry_found : (draft.registry collection).entries.get? id = some entry)
    (gone : ∀ last, (workspace.step (.edit place edit)).2.drafts[place]? = some last →
      (last.registry collection).entries.get? id = none)
    {other : Nat} {last : Draft}
    (last_found : (workspace.step (.edit place edit)).2.drafts[other]? = some last) :
    id ∉ last.ids := by
  intro known_last
  obtain ⟨there, known_there⟩ := Draft.mem_ids.mp known_last
  obtain rfl := followed.collection_eq next found entry_found last_found known_there
  by_cases here : other = place
  · subst here
    exact OrderedMap.get?_eq_none_iff.mp (gone last last_found) known_there
  · rw [step_edit found] at last_found
    rcases getElem?_set_cases last_found with ⟨same, _⟩ | ⟨_, old_found⟩
    · exact here same
    · exact here (followed.mirrors.apart other place last draft old_found found id known_last
        (ids_of_found entry_found))

/-- Taking a project out says nothing of a document that was waiting to be added to it, and the
document is not known any more. -/
theorem Followed.unsaid_of_takenOut (followed : workspace.Followed comparison origin silent known)
    (found : workspace.drafts[place]? = some draft) (live : draft.removed = false)
    {collection : DocumentCollection} {entry : RegistryEntry}
    (entry_found : (draft.registry collection).entries.get? id = some entry)
    (waits : entry.state = .pendingAdd)
    (done : { host := workspace.host, draft : Session }.removeProject = (.ok (), after))
    (discarded : after.draft = draft.discard.2) :
    (workspace.takenOut place draft.id after).host.editor.history id = [] ∧
      ∀ (other : Nat) last, (workspace.takenOut place draft.id after).drafts[other]? = some last →
        id ∉ last.ids := by
  have known_here := ids_of_found entry_found
  obtain ⟨project, mirrored⟩ := followed.mirrors.exists_mirrored found live
  constructor
  · have absent : id ∉ (after.draft.registry collection).entries.keys := fun known_after => by
      have listed := Draft.mem_ids.mpr ⟨collection, known_after⟩
      rw [discarded, draft.ids_discard] at listed
      cases listed
    have history := (Session.reports_of_removeProject done discarded).history_eq
      followed.notified.here mirrored.separate (fun _ new => absurd new List.not_mem_nil)
      (Or.inl (OrderedMap.mem_keys_iff.mpr ⟨entry, entry_found⟩))
    show after.host.editor.history id = []
    rw [history, (followed.notified.announced place draft found collection id entry
      entry_found).waiting waits, Draft.news, Registry.shown?_of_not_mem absent,
      Registry.shown?, entry_found, RegistryEntry.filter_isVisible_of_waiting waits]
    rfl
  · intro other last last_found known_last
    rcases followed.mirrors.takenOut_cases found live discarded last_found with
      ⟨_, _, ids_eq⟩ | ⟨there, there_found, differs, ⟨_, rfl⟩ | ⟨_, _, ids_eq⟩⟩
    · rw [ids_eq, draft.ids_discard] at known_last
      cases known_last
    · exact differs (followed.mirrors.apart other place there draft there_found found id
        known_last known_here)
    · exact differs (followed.mirrors.apart other place there draft there_found found id
        (ids_eq ▸ known_last) known_here)

/-- What was taken back is not known any more, and the editor has not heard of it. -/
theorem Followed.of_takesBack (followed : workspace.Followed comparison origin silent known)
    {command : Command} (takesBack : workspace.TakesBack id command)
    (next : (workspace.step command).2.Followed comparison origin silent (known ++ command.drawn)) :
    (workspace.step command).2.Followed comparison origin [id] (known ++ command.drawn) := by
  suffices unsaid : id ∈ known ∧ (workspace.step command).2.host.editor.history id = [] ∧
      ∀ (place : Nat) draft, (workspace.step command).2.drafts[place]? = some draft →
        id ∉ draft.ids by
    refine { next with notified := { next.notified with unsaid := fun other other_mem => ?_ } }
    rw [List.mem_singleton.mp other_mem]
    exact ⟨List.mem_append_left _ unsaid.1, unsaid.2⟩
  cases takesBack with
  | @cancelled place draft collection entry edit found entry_found waits batching gone =>
    have live := followed.live_of_found found entry_found
    refine ⟨followed.mirrors.known_ids place draft found id (ids_of_found entry_found), ?_,
      fun other last last_found =>
        followed.nowhere_of_cancelled next found entry_found gone last_found⟩
    rw [step_edit found]
    show (Session.perform { host := workspace.host, draft } edit).2.host.editor.history id = []
    rw [editor_perform_of_batching live batching]
    exact (followed.notified.announced place draft found collection id entry entry_found).waiting
      waits
  | @removed place draft collection entry found entry_found waits gone =>
    have live := followed.live_of_found found entry_found
    have present := followed.mirrors.live_of_draft place draft found live
    refine ⟨followed.mirrors.known_ids place draft found id (ids_of_found entry_found), ?_⟩
    change (workspace.removeProject draft.id).2.host.store.current.project? draft.id = none at gone
    rcases workspace.removeProject_cases draft.id with
      ⟨ground, _, _⟩ | ⟨there, other, removed, live_there, there_found, done, taken⟩
    · obtain ⟨project, project_found, _⟩ := followed.mirrors.related place draft found live
      rw [ground.current] at gone
      exact absurd (gone.symm.trans project_found) (by simp)
    · rw [present] at live_there
      cases live_there
      rw [found] at there_found
      cases there_found
      obtain ⟨_, _, discarded, _⟩ := followed.mirrors.takeOut_cases present found done
      have step_eq : (workspace.step (.removeProject draft.id)).2 =
        workspace.takenOut place draft.id removed := taken
      rw [step_eq]
      exact followed.unsaid_of_takenOut found live entry_found waits done discarded

/-! ## Along a run -/

theorem Followed.step (followed : workspace.Followed comparison origin silent known)
    (command : Command) (distinct : command.drawn.Nodup) (fresh : ∀ id ∈ command.drawn, id ∉ known)
    (within : command.introduced ⊆ origin) :
    (workspace.step command).2.Followed comparison origin silent (known ++ command.drawn) := by
  obtain ⟨mirrors, attended, notified⟩ :=
    (staged_notified comparison followed.origin_distinct).step followed.mirrors
      ⟨followed.attended, followed.notified⟩ command distinct fresh within
  exact ⟨mirrors, attended, notified, followed.origin_distinct⟩

theorem Followed.run (followed : workspace.Followed comparison origin silent known)
    (commands : List Command) (distinct : (known ++ commands.flatMap Command.drawn).Nodup)
    (within : commands.flatMap Command.introduced ⊆ origin) :
    (workspace.run commands).Followed comparison origin silent
      (known ++ commands.flatMap Command.drawn) := by
  obtain ⟨mirrors, attended, notified⟩ :=
    (staged_notified comparison followed.origin_distinct).run followed.mirrors
      ⟨followed.attended, followed.notified⟩ commands distinct within
  exact ⟨mirrors, attended, notified, followed.origin_distinct⟩

/-- When the editor hears in a run that a document is there, the document comes into the snapshot by
one of the commands. -/
theorem Followed.exists_admission (followed : workspace.Followed comparison origin silent known)
    (commands : List Command) (distinct : (known ++ commands.flatMap Command.drawn).Nodup)
    (within : commands.flatMap Command.introduced ⊆ origin)
    (told : .opened owner id ∈ (workspace.run commands).host.editor.history id)
    (untold : .opened owner id ∉ workspace.host.editor.history id) :
    ∃ front command rest, commands = front ++ command :: rest ∧
      (workspace.run front).Admits command owner id ∧ ∀ new ∈ origin, new.2.id = id →
        (new.2.isBuffered || new.2.path?.any (workspace.run front).host.editor.isOpen) = true := by
  induction commands generalizing workspace known with
  | nil => exact absurd told untold
  | cons command rest ih =>
    rw [List.flatMap_cons, ← List.append_assoc] at distinct
    rw [List.flatMap_cons] at within
    obtain ⟨first_distinct, _⟩ := List.nodup_append.mp distinct
    obtain ⟨_, drawn_distinct, apart⟩ := List.nodup_append.mp first_distinct
    obtain ⟨first_within, rest_within⟩ := List.append_subset.mp within
    have fresh : ∀ id ∈ command.drawn, id ∉ known := fun id drawn known =>
      apart id known id drawn rfl
    by_cases early : .opened owner id ∈ (workspace.step command).2.host.editor.history id
    · obtain ⟨admits, heard⟩ := followed.admits_of_step command fresh first_within early untold
      exact ⟨[], command, rest, rfl, admits, heard⟩
    · obtain ⟨front, later, last, rfl, admits, heard⟩ :=
        ih (followed.step command drawn_distinct fresh first_within) distinct rest_within told early
      exact ⟨command :: front, later, last, rfl, admits, heard⟩

/-- The editor never hears of a document that is taken back. -/
theorem Followed.history_of_takesBack
    (followed : workspace.Followed comparison origin silent known) {front rest : List Command}
    {command : Command}
    (distinct : (known ++ (front ++ command :: rest).flatMap Command.drawn).Nodup)
    (within : (front ++ command :: rest).flatMap Command.introduced ⊆ origin)
    (takesBack : (workspace.run front).TakesBack id command) :
    (workspace.run (front ++ command :: rest)).host.editor.history id = [] := by
  rw [List.flatMap_append, List.flatMap_cons, ← List.append_assoc, ← List.append_assoc] at distinct
  rw [List.flatMap_append, List.flatMap_cons] at within
  obtain ⟨front_within, within⟩ := List.append_subset.mp within
  obtain ⟨command_within, rest_within⟩ := List.append_subset.mp within
  obtain ⟨distinct_there, _⟩ := List.nodup_append.mp distinct
  obtain ⟨distinct_front, drawn_distinct, apart⟩ := List.nodup_append.mp distinct_there
  have there := followed.run front distinct_front front_within
  have next := there.step command drawn_distinct (fun id drawn known => apart id known id drawn rfl)
    command_within
  have last := (there.of_takesBack takesBack next).run rest distinct rest_within
  rw [run_append]
  exact (last.notified.unsaid id List.mem_cons_self).2.1

end Workspace

end CodeWorkspace
