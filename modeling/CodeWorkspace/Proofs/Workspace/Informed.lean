import CodeWorkspace.Proofs.Workspace.Admission

/-!
# What the editor knows of a workspace

Whatever is done to the projects of a workspace, and whatever the store refuses, the editor can tell
from what it was told which buffers are in the snapshot.
-/

namespace CodeWorkspace

namespace Workspace

variable {comparison : PathComparison} {known silent : List DocumentId}
  {origin : List (DocumentCollection × Document)} {workspace : Workspace}
  {owner : ProjectId} {id : DocumentId}

/-- After some commands the editor knows which buffers are in the snapshot. -/
structure Informed (start : Workspace) (commands : List Command) : Prop where
  /-- Of the documents in buffers, those are in the snapshot that the editor was told to be there
  and not to be gone. -/
  shown_iff : ∀ owner id,
    ((∃ new ∈ commands.flatMap Command.introduced, new.2.id = id ∧ new.2.isBuffered = true) ∧
      .opened owner id ∈ (start.run commands).host.editor.events ∧
        .closed owner id ∉ (start.run commands).host.editor.events) ↔
      ∃ project collection document, (start.run commands).snapshot.project? owner = some project ∧
        (id, document) ∈ (project.documents collection).entries ∧ document.isBuffered = true
  /-- The editor is told at most once that a document in a buffer is there, and then at most once
  that it is gone. -/
  buffers : ∀ new ∈ commands.flatMap Command.introduced, new.2.isBuffered = true →
    (start.run commands).host.editor.history new.2.id = [] ∨
      ∃ owner, (start.run commands).host.editor.history new.2.id = [.opened owner new.2.id] ∨
        (start.run commands).host.editor.history new.2.id =
          [.opened owner new.2.id, .closed owner new.2.id]
  /-- It is told nothing of a document that was taken back while it was waiting. -/
  takenBack : ∀ front command rest id, commands = front ++ command :: rest →
    (start.run front).TakesBack id command → (start.run commands).host.editor.history id = []
  /-- It is told at most once that a document in a file is there, if the path was open when the
  document came into the snapshot, and never that it is gone. -/
  files : ∀ new ∈ commands.flatMap Command.introduced, new.2.isBuffered = false →
    (start.run commands).host.editor.history new.2.id = [] ∨
      ∃ owner, (start.run commands).host.editor.history new.2.id = [.opened owner new.2.id] ∧
        ∃ front command rest path, commands = front ++ command :: rest ∧
          (start.run front).Admits command owner new.2.id ∧ new.2.path? = some path ∧
            (start.run front).host.editor.isOpen path = true
  /-- It is told of nothing else. -/
  others : ∀ id, id ∉ commands.flatMap Command.drawn →
    (start.run commands).host.editor.history id = []

/-- A document is in a registry of a draft, or nowhere. -/
theorem exists_entry_or_nowhere (workspace : Workspace) (id : DocumentId) :
    (∃ (place : Nat) (draft : Draft) (collection : DocumentCollection) (entry : RegistryEntry),
      workspace.drafts[place]? = some draft ∧
        (draft.registry collection).entries.get? id = some entry) ∨
    ∀ (place : Nat) draft, workspace.drafts[place]? = some draft → id ∉ draft.ids := by
  refine or_iff_not_imp_right.mpr fun somewhere => ?_
  simp only [not_forall, not_not] at somewhere
  obtain ⟨place, draft, found, known_here⟩ := somewhere
  obtain ⟨collection, known_there⟩ := Draft.mem_ids.mp known_here
  obtain ⟨entry, entry_found⟩ := OrderedMap.mem_keys_iff.mp known_there
  exact ⟨place, draft, collection, entry, found, entry_found⟩

/-- What the editor was told of a document that was introduced. -/
theorem Notified.told (notified : workspace.Notified origin silent known)
    {new : DocumentCollection × Document} (new_mem : new ∈ origin) :
    workspace.host.editor.history new.2.id = [] ∨
      ∃ owner, workspace.host.editor.history new.2.id = [.opened owner new.2.id] ∨
        new.2.isBuffered = true ∧ workspace.host.editor.history new.2.id =
          [.opened owner new.2.id, .closed owner new.2.id] := by
  rcases workspace.exists_entry_or_nowhere new.2.id with
    ⟨place, draft, collection, entry, found, entry_found⟩ | nowhere
  · have announced := notified.announced place draft found collection _ entry entry_found
    by_cases waits : entry.state = .pendingAdd
    · exact Or.inl (announced.waiting waits)
    · rcases announced.shown waits with told | ⟨_, silence⟩
      · exact Or.inr ⟨draft.id, Or.inl told⟩
      · exact Or.inl silence
  · rcases notified.dismissed new new_mem nowhere with silence | ⟨owner, told⟩
    · exact Or.inl silence
    · refine Or.inr ⟨owner, ?_⟩
      split at told
      · rename_i buffered
        exact Or.inr ⟨buffered, told⟩
      · exact Or.inl told

/-- A buffer of which the editor heard only that it is there is in the snapshot. -/
theorem Followed.exists_shown (followed : workspace.Followed comparison origin silent known)
    {new : DocumentCollection × Document} (new_mem : new ∈ origin)
    (buffered : new.2.isBuffered = true)
    (opened : .opened owner new.2.id ∈ workspace.host.editor.history new.2.id)
    (unclosed : .closed owner new.2.id ∉ workspace.host.editor.history new.2.id) :
    ∃ project collection document, workspace.snapshot.project? owner = some project ∧
      (new.2.id, document) ∈ (project.documents collection).entries ∧
        document.isBuffered = true := by
  rcases workspace.exists_entry_or_nowhere new.2.id with
    ⟨place, draft, collection, entry, found, entry_found⟩ | nowhere
  · have announced := followed.notified.announced place draft found collection _ entry entry_found
    have isBuffered_eq := (followed.of_introduced found new_mem entry_found).2
    have shown : entry.state ≠ .pendingAdd := fun waits => by
      rw [announced.waiting waits] at opened
      cases opened
    obtain ⟨project, project_found, mirrors, _⟩ := followed.mirrors.related place draft found
      (followed.live_of_found found entry_found)
    have mirrored := (mirrors collection).mirrors
    have own : owner = draft.id := by
      rcases announced.shown shown with told | ⟨unbuffered, _⟩
      · rw [told] at opened
        cases List.mem_singleton.mp opened
        rfl
      · rw [unbuffered, buffered] at isBuffered_eq
        cases isBuffered_eq
    refine ⟨project, collection, entry.document, own ▸ project_found, ?_, ?_⟩
    · rw [mirrored.documents_eq]
      exact List.mem_map.mpr ⟨(new.2.id, entry), List.mem_filter.mpr
        ⟨Registry.mem_entries_iff.mpr entry_found, Registry.isVisible_iff.mpr shown⟩, rfl⟩
    · rw [mirrored.isBuffered_eq entry_found, ← isBuffered_eq, buffered]
  · -- a buffer that has left was said to be gone
    exfalso
    rcases followed.notified.dismissed new new_mem nowhere with silence | ⟨other, told⟩
    · rw [silence] at opened
      cases opened
    · rw [if_pos buffered] at told
      rw [told] at opened unclosed
      have same : owner = other := by simpa using opened
      exact unclosed (same ▸ List.mem_cons_of_mem _ List.mem_cons_self)

/-- Of a buffer in the snapshot the editor heard only that it is there. -/
theorem Followed.history_of_shown (followed : workspace.Followed comparison origin silent known)
    {project : Project} {collection : DocumentCollection} {document : Document}
    (project_found : workspace.snapshot.project? owner = some project)
    (document_mem : (id, document) ∈ (project.documents collection).entries)
    (buffered : document.isBuffered = true) :
    (∃ new ∈ origin, new.2.id = id ∧ new.2.isBuffered = true) ∧
      workspace.host.editor.history id = [.opened owner id] := by
  obtain ⟨place, live⟩ := followed.mirrors.live_of_project owner project project_found
  obtain ⟨draft, found, rfl, unremoved⟩ := followed.mirrors.draft_of_live owner place live
  obtain ⟨same, same_found, mirrors, _⟩ := followed.mirrors.related place draft found unremoved
  rw [project_found] at same_found
  cases same_found
  obtain ⟨entry, entry_found, rfl, shown⟩ := (mirrors collection).mirrors.exists_entry document_mem
  rw [(mirrors collection).mirrors.isBuffered_eq entry_found] at buffered
  constructor
  · obtain ⟨new, new_mem, same_id, _, isBuffered_eq⟩ :=
      followed.notified.sourced place draft found collection id entry entry_found
    exact ⟨_, new_mem, same_id, isBuffered_eq.trans buffered⟩
  · rcases (followed.notified.announced place draft found collection id entry entry_found).shown
      shown with told | ⟨unbuffered, _⟩
    · exact told
    · rw [unbuffered] at buffered
      cases buffered

theorem followed_starting (comparison : PathComparison) (feed : ChangeFeed)
    (openPaths : OrderedSet String) (refusals : Nat → Option String)
    (origin_distinct : (identities origin).Nodup) :
    (starting comparison { feed } (.present openPaths []) refusals).Followed comparison origin
      [] [] where
  mirrors := keeps_starting comparison _ { feed } (.present openPaths []) refusals
  attended := attended_starting comparison feed (.present openPaths []) refusals
  notified := notified_starting comparison feed openPaths refusals
  origin_distinct := origin_distinct

/-- In every workspace that can be reached, the editor has been told what it takes to know which
buffers are in the snapshot. -/
theorem informed_run (comparison : PathComparison) (feed : ChangeFeed)
    (openPaths : OrderedSet String) (refusals : Nat → Option String) (commands : List Command)
    (distinct : (commands.flatMap Command.drawn).Nodup) :
    (starting comparison { feed } (.present openPaths []) refusals).Informed commands := by
  have origin_distinct : (identities (commands.flatMap Command.introduced)).Nodup := by
    rwa [identities_introduced]
  have start := followed_starting comparison feed openPaths refusals origin_distinct
  have reached := start.run commands distinct (List.Subset.refl _)
  refine ⟨fun owner id => ⟨?_, ?_⟩, fun new new_mem buffered => ?_, ?_, fun new new_mem filed => ?_,
    reached.notified.unheard⟩
  · rintro ⟨⟨new, new_mem, rfl, buffered⟩, opened, unclosed⟩
    exact reached.exists_shown new_mem buffered (Editor.mem_history.mpr ⟨opened, rfl⟩)
      fun closed => unclosed (Editor.mem_history.mp closed).1
  · rintro ⟨project, collection, document, project_found, document_mem, buffered⟩
    obtain ⟨introduced, told⟩ := reached.history_of_shown project_found document_mem buffered
    have opened := (Editor.mem_history.mp (told ▸ List.mem_singleton_self _)).1
    refine ⟨introduced, opened, fun closed => ?_⟩
    have heard := Editor.mem_history.mpr ⟨closed, rfl⟩
    rw [EditorEvent.document, told] at heard
    cases List.mem_singleton.mp heard
  · exact (reached.notified.told new_mem).imp_right fun ⟨owner, told⟩ =>
      ⟨owner, told.imp_right fun ended => ended.2⟩
  · rintro front command rest id rfl takesBack
    exact start.history_of_takesBack distinct (List.Subset.refl _) takesBack
  · refine (reached.notified.told new_mem).imp_right fun ⟨owner, told⟩ => ⟨owner, ?_⟩
    have opened := told.resolve_right fun ended => by
      rw [filed] at ended
      cases ended.1
    obtain ⟨front, command, rest, parts, admits, heard⟩ := start.exists_admission commands distinct
      (List.Subset.refl _) (opened ▸ List.mem_singleton_self _) List.not_mem_nil
    have open_there := heard new new_mem rfl
    rw [filed, Bool.false_or, Option.any_eq_true] at open_there
    obtain ⟨path, path_eq, is_open⟩ := open_there
    exact ⟨opened, front, command, rest, path, parts, admits, path_eq, is_open⟩

/-- An open file and a buffer come in, one buffer comes and goes while a batch is open whose commit
the store refuses at first, and a project is removed while a buffer waits to be added to it. -/
def buffersComeAndGo : List Command :=
  [.createProject ⟨⟨.ofNat 1⟩, "C#", { name := "App", assemblyName := "App" }⟩,
    .createProject ⟨⟨.ofNat 2⟩, "C#", { name := "Lib", assemblyName := "Lib" }⟩,
    .openPath "Main.cs",
    .edit 0 (.addFile .source "Main.cs" .regular [] ⟨.ofNat 3⟩),
    .edit 0 (.addBuffer .source ⟨1⟩ none .script [] ⟨.ofNat 4⟩),
    .openScope 0,
    .edit 0 (.addBuffer .source ⟨2⟩ none .script [] ⟨.ofNat 5⟩),
    .edit 0 (.removeBuffer .source ⟨2⟩),
    .edit 0 (.removeBuffer .source ⟨1⟩),
    .releaseScope 0,
    .openScope 1,
    .edit 1 (.addBuffer .additional ⟨3⟩ none .regular [] ⟨.ofNat 6⟩),
    .removeProject ⟨.ofNat 2⟩,
    .edit 0 .commitPending]

theorem informed_buffersComeAndGo :
    (buffersComeAndGo.flatMap Command.drawn).Nodup ∧
      (starting .ordinal {} (.present .empty []) fun attempt =>
        if attempt = 4 then some "busy" else none).Informed buffersComeAndGo :=
  ⟨by decide, informed_run _ _ _ _ _ (by decide)⟩

end Workspace

end CodeWorkspace
