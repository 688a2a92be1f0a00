import CodeWorkspace.Proofs.Draft.Documents

/-!
# Documents of a workspace

Whatever happens to a workspace, and whatever its store refuses, the documents that a live project
shows are those that the current snapshot holds.
-/

namespace CodeWorkspace

namespace Registry

variable {registry : Registry} {documents : Documents}

theorem mem_keys_of_mem_documentsOf {entries : List (DocumentId × RegistryEntry)}
    {shown : DocumentId × Document} (shown_mem : shown ∈ documentsOf entries) :
    ∃ entry, (shown.1, entry) ∈ entries ∧ entry.document = shown.2 := by
  obtain ⟨⟨id, entry⟩, entry_mem, rfl⟩ := List.mem_map.mp shown_mem
  exact ⟨entry, entry_mem, rfl⟩

/-- A document of the snapshot has a visible entry. -/
theorem Mirrors.exists_entry (mirrors : registry.Mirrors documents)
    {held : DocumentId × Document} (held_mem : held ∈ documents.entries) :
    ∃ entry, registry.entries.get? held.1 = some entry ∧ entry.document = held.2 ∧
      entry.state ≠ .pendingAdd := by
  rw [mirrors.documents_eq] at held_mem
  obtain ⟨entry, entry_mem, same⟩ := mem_keys_of_mem_documentsOf held_mem
  obtain ⟨entry_mem, visible⟩ := List.mem_filter.mp entry_mem
  exact ⟨entry, mem_entries_iff.mp entry_mem, same, isVisible_iff.mp visible⟩

theorem Mirrors.known (mirrors : registry.Mirrors documents) {id : DocumentId}
    (id_mem : id ∈ documents.keys) : id ∈ registry.entries.keys := by
  obtain ⟨entry, found, _⟩ := mirrors.mem_keys_iff.mp id_mem
  exact OrderedMap.mem_keys_iff.mpr ⟨entry, found⟩

/-- Documents that are found by the same key are the same. -/
theorem Mirrors.eq_of_picked {κ : Type} [DecidableEq κ] {index : OrderedMap κ DocumentId}
    {pick : RegistryEntry → Option κ} (mirrors : registry.Mirrors documents)
    (indexes : Indexes index registry.entries pick) {first second : DocumentId × Document}
    (first_mem : first ∈ documents.entries) (second_mem : second ∈ documents.entries) {key : κ}
    (first_picked : ∀ entry, registry.entries.get? first.1 = some entry →
      entry.document = first.2 → pick entry = some key)
    (second_picked : ∀ entry, registry.entries.get? second.1 = some entry →
      entry.document = second.2 → pick entry = some key) : first = second := by
  obtain ⟨one, one_found, one_same, _⟩ := mirrors.exists_entry first_mem
  obtain ⟨other, other_found, other_same, _⟩ := mirrors.exists_entry second_mem
  have finds_one := (indexes key first.1).mpr ⟨one, one_found, first_picked one one_found one_same⟩
  have finds_other := (indexes key second.1).mpr
    ⟨other, other_found, second_picked other other_found other_same⟩
  rw [finds_one] at finds_other
  have same_id : first.1 = second.1 := Option.some.inj finds_other
  rw [same_id, other_found] at one_found
  cases one_found
  exact Prod.ext same_id (one_same.symm.trans other_same)

end Registry

namespace Workspace

/-- A registry agrees with the documents that the snapshot of a workspace holds. -/
structure Agreement (workspace : Workspace) (registry : Registry) (documents : Documents) :
    Prop where
  /-- What is committed or waits to leave is in the snapshot, in the same order. -/
  documents_eq : documents.entries =
    (registry.entries.entries.filter fun entry =>
      entry.2.state = .committed ∨ entry.2.state = .pendingRemove).map fun entry =>
        (entry.1, entry.2.document)
  /-- What waits to be added is nowhere in the snapshot. -/
  waiting_absent : ∀ id entry, registry.entries.get? id = some entry →
    entry.state = .pendingAdd → ∀ owner project collection,
      workspace.snapshot.project? owner = some project → id ∉ (project.documents collection).keys
  paths_differ : ∀ first ∈ documents.entries, ∀ second ∈ documents.entries, ∀ path other,
    first.2.path? = some path → second.2.path? = some other →
      workspace.host.comparison.key path = workspace.host.comparison.key other → first = second
  buffers_differ : ∀ first ∈ documents.entries, ∀ second ∈ documents.entries, ∀ buffer,
    first.2.loader = .buffer buffer → second.2.loader = .buffer buffer → first = second

/-- Every live project agrees with the snapshot in both of its collections. -/
def DocumentsAgree (workspace : Workspace) : Prop :=
  ∀ (place : Nat) draft, workspace.drafts[place]? = some draft → draft.removed = false →
    ∃ project, workspace.snapshot.project? draft.id = some project ∧
      ∀ collection, workspace.Agreement (draft.registry collection) (project.documents collection)

variable {comparison : PathComparison} {known : List DocumentId} {workspace : Workspace}

/-- A document that waits to be added to one project is in none. -/
theorem Keeps.absent_of_waiting (keeps : workspace.Keeps comparison
      (fun project draft => draft.Mirrors comparison project ∧ draft.Separate) known)
    {place : Nat} {draft : Draft} (found : workspace.drafts[place]? = some draft)
    {collection : DocumentCollection} {id : DocumentId} {entry : RegistryEntry}
    (entry_found : (draft.registry collection).entries.get? id = some entry)
    (waits : entry.state = .pendingAdd) {owner : ProjectId} {project : Project}
    (project_found : workspace.snapshot.project? owner = some project)
    (there : DocumentCollection) : id ∉ (project.documents there).keys := by
  intro id_mem
  obtain ⟨other, live⟩ := keeps.live_of_project owner project project_found
  obtain ⟨other_draft, other_found, rfl, unremoved⟩ := keeps.draft_of_live owner other live
  obtain ⟨same, same_found, mirrors, separate⟩ :=
    keeps.related other other_draft other_found unremoved
  rw [project_found] at same_found
  cases same_found
  have known_here := OrderedMap.mem_keys_iff.mpr ⟨entry, entry_found⟩
  have known_there := (mirrors there).mirrors.known id_mem
  -- the document is known in one place only
  have same_place := keeps.apart place other draft other_draft found other_found id
    (Draft.mem_ids.mpr ⟨collection, known_here⟩) (Draft.mem_ids.mpr ⟨there, known_there⟩)
  subst same_place
  rw [found] at other_found
  cases other_found
  cases separate collection there id known_here known_there
  obtain ⟨held, held_mem, rfl⟩ := List.mem_map.mp id_mem
  obtain ⟨shown, shown_found, _, visible⟩ := (mirrors collection).mirrors.exists_entry held_mem
  rw [entry_found] at shown_found
  cases shown_found
  exact visible waits

theorem Keeps.documentsAgree (keeps : workspace.Keeps comparison
    (fun project draft => draft.Mirrors comparison project ∧ draft.Separate) known) :
    workspace.DocumentsAgree := by
  intro place draft found live
  obtain ⟨project, project_found, mirrors, separate⟩ := keeps.related place draft found live
  refine ⟨project, project_found, fun collection => ?_⟩
  have mirrored := (mirrors collection).mirrors
  have comparison_eq : workspace.host.comparison = (draft.registry collection).comparison :=
    keeps.comparison_eq.trans (mirrors collection).comparison_eq.symm
  constructor
  · rw [mirrored.documents_eq, Registry.documentsOf, Registry.shown]
    refine congrArg (List.map _) (List.filter_congr fun entry _ => ?_)
    cases state : entry.2.state <;> simp [RegistryEntry.isVisible, state]
  · intro id entry entry_found waits owner other there other_found
    exact keeps.absent_of_waiting found entry_found waits other_found there
  · intro first first_mem second second_mem path other first_path second_path same_key
    have picked {document : Document} {path : String} (path_eq : document.path? = some path)
        (id : DocumentId) (entry : RegistryEntry)
        (entry_found : (draft.registry collection).entries.get? id = some entry)
        (same : entry.document = document) :
        entry.pathKey? = some (workspace.host.comparison.key path) := by
      rw [mirrored.pathKey_eq id entry entry_found, same, path_eq, comparison_eq]
      rfl
    refine mirrored.eq_of_picked mirrored.byPath first_mem second_mem
      (picked first_path first.1) ?_
    rw [same_key]
    exact picked second_path second.1
  · intro first first_mem second second_mem buffer first_loader second_loader
    have picked {document : Document} (loader_eq : document.loader = .buffer buffer)
        (id : DocumentId) (entry : RegistryEntry)
        (entry_found : (draft.registry collection).entries.get? id = some entry)
        (same : entry.document = document) : entry.buffer? = some buffer := by
      rw [mirrored.buffer_eq id entry entry_found, same, loader_eq]
      rfl
    exact mirrored.eq_of_picked mirrored.byBuffer first_mem second_mem
      (picked first_loader first.1) (picked second_loader second.1)

/-- In every workspace that can be reached, the committed documents of live projects are those of
the snapshot. -/
theorem documentsAgree_run (comparison : PathComparison) (watcher : Watcher) (editor : Editor)
    (refusals : Nat → Option String) (commands : List Command)
    (distinct : (commands.flatMap Command.drawn).Nodup) :
    ((starting comparison watcher editor refusals).run commands).DocumentsAgree := by
  have kept := (Draft.kept_mirrors comparison).and (Draft.kept_separate comparison)
  exact (keeps_run kept (keeps_starting comparison _ watcher editor refusals) commands
    distinct).documentsAgree

/-- A batch that cannot be committed when it is closed, and a later change that commits it. -/
def batchCommittedLater : List Command :=
  [.createProject ⟨⟨.ofNat 1⟩, "C#", { name := "App", assemblyName := "App" }⟩,
    .openScope 0,
    .edit 0 (.addFile .source "Main.cs" .regular [] ⟨.ofNat 2⟩),
    .edit 0 (.addBuffer .source ⟨3⟩ none .script [] ⟨.ofNat 4⟩),
    .releaseScope 0,
    .edit 0 (.removeFile .source "Main.cs")]

theorem documentsAgree_batchCommittedLater :
    (batchCommittedLater.flatMap Command.drawn).Nodup ∧
      ((starting .ordinal {} .absent fun attempt => if attempt = 1 then some "busy" else none).run
        batchCommittedLater).DocumentsAgree :=
  ⟨by decide, documentsAgree_run _ _ _ _ _ (by decide)⟩

end Workspace

end CodeWorkspace
