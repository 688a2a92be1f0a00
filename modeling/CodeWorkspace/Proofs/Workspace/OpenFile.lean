import CodeWorkspace.Proofs.Workspace.Delivery

/-!
# Changes of open files

Whether the editor has a file open is asked by the path of the event, not by that of the document.
Where paths are compared without regard to case the two may be spelled differently, and then a
document that is open may be loaded anew, or one that is not may be left as it is.  This is the only
way in which an open document is not spared and a closed one is not loaded anew.
-/

namespace CodeWorkspace

/-- Loading a document from a file anew is noticed. -/
theorem Document.reloaded_ne {document : Document} (unbuffered : document.isBuffered = false) :
    document.reloaded ≠ document := by
  intro same
  have loader_eq : document.loader.reloaded = document.loader := congrArg Document.loader same
  cases origin : document.loader with
  | file path generation =>
    rw [origin] at loader_eq
    have wraps : generation + 1 = generation := (Loader.file.inj loader_eq).2
    simp at wraps
  | buffer held =>
    rw [isBuffered, origin] at unbuffered
    cases unbuffered

/-- An entry of a file tells whether its document was loaded anew. -/
theorem picked_eq_of_changeAt_eq {picked more : DocumentId → Bool}
    {known : DocumentId × RegistryEntry} (unbuffered : known.2.document.isBuffered = false)
    (same : changeAt RegistryEntry.reloaded picked known =
      changeAt RegistryEntry.reloaded more known) : picked known.1 = more known.1 := by
  have differs : known.2.reloaded ≠ known.2 := fun equal =>
    Document.reloaded_ne unbuffered (congrArg RegistryEntry.document equal)
  simp only [changeAt] at same
  cases first : picked known.1 <;> cases second : more known.1 <;>
    simp only [first, second, Bool.false_eq_true, if_true, if_false] at same
  · rfl
  · exact absurd (congrArg Prod.snd same).symm differs
  · exact absurd (congrArg Prod.snd same) differs
  · rfl

namespace Workspace

variable {comparison : PathComparison} {known : List DocumentId}
  {workspace before between after : Workspace} {path : String} {tells : Nat → Bool}
  {closed : Document → Bool} {anew more : Nat → DocumentCollection → DocumentId → Bool}

theorem loadsAnew_refl (none : ∀ place collection id, anew place collection id = false) :
    workspace.LoadsAnew workspace anew where
  entries place draft found :=
    ⟨draft, found, ⟨rfl, rfl⟩, fun collection =>
      (map_changeAt_of_none (none place collection)).symm⟩
  documents place _ project _ _ project_found :=
    ⟨project, project_found, fun collection =>
      (map_changeAt_of_none (none place collection)).symm⟩

theorem LoadsAnew.trans (first : before.LoadsAnew between anew)
    (second : between.LoadsAnew after more)
    (apart : ∀ place collection id, anew place collection id = true →
      more place collection id = false) :
    before.LoadsAnew after fun place collection id =>
      anew place collection id || more place collection id where
  entries place draft found := by
    obtain ⟨middle, middle_found, identity, entries⟩ := first.entries place draft found
    obtain ⟨last, last_found, later, more_entries⟩ := second.entries place middle middle_found
    refine ⟨last, last_found, ⟨later.id_eq.trans identity.id_eq,
      later.removed_eq.trans identity.removed_eq⟩, fun collection => ?_⟩
    rw [more_entries, entries, map_changeAt_twice _ (apart place collection)]
  documents place draft project found live project_found := by
    obtain ⟨middle, middle_found, identity, _⟩ := first.entries place draft found
    obtain ⟨changed, changed_found, documents⟩ :=
      first.documents place draft project found live project_found
    rw [← identity.id_eq] at changed_found
    obtain ⟨last, last_found, more_documents⟩ := second.documents place middle changed middle_found
      (identity.removed_eq.trans live) changed_found
    refine ⟨last, identity.id_eq ▸ last_found, fun collection => ?_⟩
    rw [more_documents, documents, map_changeAt_twice _ (apart place collection)]

/-! ## What is loaded anew -/

/-- The documents that are due if a document counts as closed unless the path of the event is
open. -/
def dueByEvent (workspace : Workspace) (path : String) (tells : Nat → Bool) :
    Nat → DocumentCollection → DocumentId → Bool :=
  workspace.due path tells fun _ => !workspace.host.editor.isOpen path

/-- The documents that are due if a document counts as closed unless its own path is open. -/
def dueByDocument (workspace : Workspace) (path : String) (tells : Nat → Bool) :
    Nat → DocumentCollection → DocumentId → Bool :=
  workspace.due path tells fun document =>
    !document.path?.any fun own => workspace.host.editor.isOpen own

/-- The editor has the path of the event open if and only if it has that of the document open,
whatever document the event concerns. -/
def OpenAlike (workspace : Workspace) (path : String) (tells : Nat → Bool) : Prop :=
  ∀ (place : Nat) draft, tells place = true → workspace.drafts[place]? = some draft →
    draft.removed = false → ∀ collection id entry own,
      (draft.registry collection).entries.get? id = some entry →
        entry.hears workspace.host.comparison path = true → entry.document.path? = some own →
          workspace.host.editor.isOpen own = workspace.host.editor.isOpen path

/-- What is due to other drafts stays so when one draft has been told. -/
theorem Keeps.dueByEvent_told {delivery : Delivery}
    (keeps : delivery.workspace.Keeps comparison (Draft.InStep comparison) known)
    (others : tells delivery.place = false) :
    delivery.told.dueByEvent path tells = delivery.workspace.dueByEvent path tells := by
  have comparison_eq : delivery.told.host.comparison = delivery.workspace.host.comparison :=
    (keeps.told (Draft.kept_inStep comparison)).comparison_eq.trans keeps.comparison_eq.symm
  funext place collection id
  by_cases told : tells place = true
  · have differs : place ≠ delivery.place := by
      rintro rfl
      rw [others] at told
      cases told
    simp only [dueByEvent, due, Delivery.drafts_told_of_ne differs, comparison_eq,
      delivery.editor_told]
  · simp [dueByEvent, due, told]

/-- Telling several drafts that a file changed loads anew what is due there. -/
theorem Keeps.loadsAnew_dispatchTo
    (keeps : workspace.Keeps comparison (Draft.InStep comparison) known)
    (accepting : workspace.Accepting) (path : String) {places : List Nat}
    (distinct : places.Nodup) : workspace.LoadsAnew (workspace.dispatchTo path places).2
      (workspace.dueByEvent path fun place => place ∈ places) := by
  induction places generalizing workspace with
  | nil => exact loadsAnew_refl fun place collection id => by simp [dueByEvent, due]
  | cons place rest ih =>
    let delivery : Delivery := { workspace, place, path }
    obtain ⟨elsewhere, rest_distinct⟩ := List.nodup_cons.mp distinct
    have first : workspace.LoadsAnew delivery.told delivery.reaches :=
      @Keeps.reloads _ _ delivery keeps accepting
    have second := ih (@Keeps.told _ _ delivery _ keeps (Draft.kept_inStep comparison))
      (@Accepting.told delivery accepting) rest_distinct
    rw [@Keeps.dueByEvent_told _ _ _ _ delivery keeps (by simpa using elsewhere)]
      at second
    have both := first.trans second fun other collection id reaches => by
      obtain ⟨rfl, _⟩ := Delivery.reaches_iff.mp reaches
      have silent : other ∉ rest := elsewhere
      simp [dueByEvent, due, silent]
    have due_eq : (fun other collection id => delivery.reaches other collection id ||
        workspace.dueByEvent path (fun place => place ∈ rest) other collection id) =
          workspace.dueByEvent path fun other => other ∈ place :: rest := by
      funext other collection id
      simp only [Delivery.reaches, dueByEvent, due, delivery, List.mem_cons, Bool.decide_or,
        Bool.and_or_distrib_right]
    rw [due_eq] at both
    simp only [dispatchTo]
    split <;> exact both

theorem Belongs.nodup_live_values {relation : Project → Draft → Prop}
    (belongs : workspace.Belongs comparison relation) : workspace.live.values.Nodup := by
  refine OrderedMap.nodup_values fun id other place live there => ?_
  obtain ⟨draft, found, rfl, _⟩ := belongs.draft_of_live id place live
  obtain ⟨same, same_found, rfl, _⟩ := belongs.draft_of_live other place there
  rw [found] at same_found
  cases same_found
  rfl

theorem Keeps.loadsAnew_dispatch
    (keeps : workspace.Keeps comparison (Draft.InStep comparison) known)
    (accepting : workspace.Accepting) (path : String) :
    workspace.LoadsAnew (workspace.dispatch path).2 (workspace.dueByEvent path fun _ => true) := by
  have told := keeps.loadsAnew_dispatchTo accepting path keeps.nodup_live_values
  have due_eq : workspace.dueByEvent path (fun place => place ∈ workspace.live.values) =
      workspace.dueByEvent path fun _ => true := by
    funext place collection id
    rw [Bool.eq_iff_iff, dueByEvent, dueByEvent, due_iff, due_iff]
    refine and_congr_left fun ⟨draft, found, live, _⟩ => ?_
    have listed : place ∈ workspace.live.values :=
      OrderedMap.mem_values_iff.mpr ⟨draft.id, keeps.live_of_draft place draft found live⟩
    simp [listed]
  rw [due_eq] at told
  exact told

theorem Keeps.loadsAnew_fileChanged
    (keeps : workspace.Keeps comparison (Draft.InStep comparison) known)
    (accepting : workspace.Accepting) (path : String) (place : Nat) :
    workspace.LoadsAnew (workspace.step (.edit place (.fileChanged path))).2
      (workspace.dueByEvent path fun other => other = place) := by
  rw [step_fileChanged]
  exact @Keeps.reloads _ _ { workspace, place, path } keeps accepting

/-! ## Open documents -/

/-- What is due by the path of the event is due by that of the document and the other way round if
and only if the editor does not tell the two paths apart. -/
theorem LoadsAnew.spares_iff (loads : before.LoadsAnew after (before.dueByEvent path tells)) :
    before.LoadsAnew after (before.dueByDocument path tells) ↔ before.OpenAlike path tells := by
  constructor
  · intro spares place draft told found live collection id entry own entry_found hears path_eq
    obtain ⟨last, last_found, _, entries⟩ := loads.entries place draft found
    obtain ⟨same, same_found, _, spared⟩ := spares.entries place draft found
    rw [last_found] at same_found
    cases same_found
    have entry_eq := List.map_inj_left.mp ((entries collection).symm.trans (spared collection))
      (id, entry) (Registry.mem_entries_iff.mpr entry_found)
    have due_eq := picked_eq_of_changeAt_eq (RegistryEntry.hears_iff.mp hears).2.1 entry_eq
    simp only [dueByEvent, dueByDocument, due, told, found, live, entry_found, hears, path_eq,
      Option.any_some, Bool.not_false, Bool.true_and] at due_eq
    exact (Bool.not_inj due_eq).symm
  · intro alike
    have due_eq : before.dueByDocument path tells = before.dueByEvent path tells := by
      funext place collection id
      rw [Bool.eq_iff_iff, dueByEvent, dueByDocument, due_iff, due_iff]
      refine and_congr_right fun told => exists_congr fun draft => and_congr_right fun found =>
        and_congr_right fun live => exists_congr fun entry => and_congr_right fun entry_found =>
          and_congr_right fun hears => ?_
      obtain ⟨own, path_eq, _⟩ := Option.map_eq_some_iff.mp (RegistryEntry.hears_iff.mp hears).2.2
      rw [path_eq, Option.any_some,
        alike place draft told found live collection id entry own entry_found hears path_eq]
    rw [due_eq]
    exact loads

/-- A change of a file loads anew what is due by the path of the event, which is what is due by the
paths of the documents if and only if the editor does not tell them apart. -/
structure Heeds (workspace : Workspace) (path : String) (tells : Nat → Bool) (after : Workspace) :
    Prop where
  loads : workspace.LoadsAnew after (workspace.dueByEvent path tells)
  spares_iff : workspace.LoadsAnew after (workspace.dueByDocument path tells) ↔
    workspace.OpenAlike path tells

/-- In every workspace that can be reached and whose store refuses nothing any more, a draft that is
told that a file changed, and all live drafts if they are told, load anew what is due. -/
theorem heeds_run (comparison : PathComparison) (watcher : Watcher) (editor : Editor)
    (refusals : Nat → Option String) (commands : List Command) (path : String)
    (distinct : (commands.flatMap Command.drawn).Nodup)
    (accepting : ((starting comparison watcher editor refusals).run commands).Accepting) :
    (∀ place, ((starting comparison watcher editor refusals).run commands).Heeds path
      (fun other => other = place)
      (((starting comparison watcher editor refusals).run commands).step
        (.edit place (.fileChanged path))).2) ∧
    ((starting comparison watcher editor refusals).run commands).Heeds path (fun _ => true)
      (((starting comparison watcher editor refusals).run commands).step (.dispatch path)).2 := by
  have keeps := keeps_run (Draft.kept_inStep comparison)
    (keeps_starting comparison _ watcher editor refusals) commands distinct
  constructor
  · intro place
    have loads := keeps.loadsAnew_fileChanged accepting path place
    exact ⟨loads, loads.spares_iff⟩
  · have loads := keeps.loadsAnew_dispatch accepting path
    exact ⟨loads, loads.spares_iff⟩

/-- A file in a project and a path that the editor opens. -/
def openingPath (path : String) : List Command :=
  [.createProject ⟨⟨.ofNat 1⟩, "C#", { name := "A", assemblyName := "A" }⟩,
    .edit 0 (.addFile .source "/B" .regular [] ⟨.ofNat 2⟩), .openPath path]

theorem heeds_openingPath :
    ((openingPath "/B").flatMap Command.drawn).Nodup ∧
      ((starting .ignoreCase {} .idle fun _ => none).run (openingPath "/B")).Accepting ∧
      (∀ place, ((starting .ignoreCase {} .idle fun _ => none).run (openingPath "/B")).Heeds "/b"
        (fun other => other = place)
        (((starting .ignoreCase {} .idle fun _ => none).run (openingPath "/B")).step
          (.edit place (.fileChanged "/b"))).2) ∧
      ((starting .ignoreCase {} .idle fun _ => none).run (openingPath "/B")).Heeds "/b"
        (fun _ => true)
        (((starting .ignoreCase {} .idle fun _ => none).run (openingPath "/B")).step
          (.dispatch "/b")).2 := by
  have distinct : ((openingPath "/B").flatMap Command.drawn).Nodup := by decide
  have accepting :
      ((starting .ignoreCase {} .idle fun _ => none).run (openingPath "/B")).Accepting :=
    Accepting.run (fun _ => rfl) _ (by simp [openingPath])
  exact ⟨distinct, accepting,
    heeds_run .ignoreCase {} .idle (fun _ => none) (openingPath "/B") "/b" distinct accepting⟩

/-- Where the texts of the compiled documents of a project come from, by the snapshot and by the
registry. -/
def sourceLoaders (workspace : Workspace) (place : Nat) : Option (List Loader × List Loader) := do
  let draft ← workspace.drafts[place]?
  let project ← workspace.snapshot.project? draft.id
  some ((project.documents .source).values.map Document.loader,
    (draft.registry .source).entries.values.map fun entry => entry.document.loader)

/-- An open document is loaded anew if the event spells its path differently, and a closed one is
not if the spelling of the event is open. -/
theorem reloads_openingPath :
    let opened := (starting .ignoreCase {} .idle fun _ => none).run (openingPath "/B")
    let other := (starting .ignoreCase {} .idle fun _ => none).run (openingPath "/b")
    opened.host.editor.isOpen "/B" = true ∧
      opened.sourceLoaders 0 = some ([.file "/B" 0], [.file "/B" 0]) ∧
      (opened.step (.dispatch "/b")).2.sourceLoaders 0 =
        some ([.file "/B" 1], [.file "/B" 1]) ∧
      other.host.editor.isOpen "/B" = false ∧
      (other.step (.dispatch "/b")).2.sourceLoaders 0 =
        some ([.file "/B" 0], [.file "/B" 0]) := by
  decide +kernel

end Workspace

end CodeWorkspace
