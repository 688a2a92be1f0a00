import CodeWorkspace.Proofs.Session.Reload
import CodeWorkspace.Proofs.Workspace.Commits
import CodeWorkspace.Proofs.Workspace.Documents
import CodeWorkspace.Proofs.Workspace.Scopes
import CodeWorkspace.Proofs.Workspace.Step

/-!
# Deliveries

A change of a file is delivered to one draft after another.  Over a store that refuses nothing each
delivery loads the documents anew that it reaches, in the registry and in the snapshot alike, and
leaves everything else about them and all other documents as they are.
-/

namespace CodeWorkspace

section ChangeAt

variable {α : Type} {change : α → α} {picked more : DocumentId → Bool}

/-- Changes what stands beside an identity, if that is one of those that are picked. -/
def changeAt (change : α → α) (picked : DocumentId → Bool) (known : DocumentId × α) :
    DocumentId × α :=
  if picked known.1 then (known.1, change known.2) else known

theorem map_changeAt_of_none {entries : List (DocumentId × α)} (none : ∀ id, picked id = false) :
    entries.map (changeAt change picked) = entries := by
  refine (List.map_congr_left fun known _ => ?_).trans (List.map_id entries)
  rw [changeAt, none]
  rfl

theorem map_changeAt_twice (entries : List (DocumentId × α))
    (apart : ∀ id, picked id = true → more id = false) :
    (entries.map (changeAt change picked)).map (changeAt change more) =
      entries.map (changeAt change fun id => picked id || more id) := by
  rw [List.map_map]
  refine List.map_congr_left fun known _ => ?_
  simp only [Function.comp_apply, changeAt]
  by_cases first : picked known.1 = true
  · simp [first, apart known.1 first]
  · simp [first]

theorem documentsOf_map_changeAt (entries : List (DocumentId × RegistryEntry)) :
    Registry.documentsOf (entries.map (changeAt RegistryEntry.reloaded picked)) =
      (Registry.documentsOf entries).map (changeAt Document.reloaded picked) := by
  rw [Registry.documentsOf, Registry.documentsOf, List.map_map, List.map_map]
  refine List.map_congr_left fun known _ => ?_
  simp only [Function.comp_apply, changeAt]
  split <;> rfl

end ChangeAt

namespace Workspace

variable {workspace before between after : Workspace} {path : String} {tells : Nat → Bool}
  {closed : Document → Bool} {place : Nat} {collection : DocumentCollection} {id : DocumentId}

/-- The documents that are due when a file changed: the committed ones of the drafts that are told
which come from that file and count as closed. -/
def due (workspace : Workspace) (path : String) (tells : Nat → Bool) (closed : Document → Bool)
    (place : Nat) (collection : DocumentCollection) (id : DocumentId) : Bool :=
  tells place && workspace.drafts[place]?.any fun draft => !draft.removed &&
    ((draft.registry collection).entries.get? id).any fun entry =>
      entry.hears workspace.host.comparison path && closed entry.document

theorem due_iff : workspace.due path tells closed place collection id = true ↔
    tells place = true ∧ ∃ draft, workspace.drafts[place]? = some draft ∧ draft.removed = false ∧
      ∃ entry, (draft.registry collection).entries.get? id = some entry ∧
        entry.hears workspace.host.comparison path = true ∧ closed entry.document = true := by
  simp [due, Option.any_eq_true]

/-- From one workspace to the next some documents were loaded anew, in the registries of the drafts
and in the projects that these belong to, and nothing else about the documents is different. -/
structure LoadsAnew (before after : Workspace)
    (anew : Nat → DocumentCollection → DocumentId → Bool) : Prop where
  entries : ∀ (place : Nat) (draft : Draft), before.drafts[place]? = some draft →
    ∃ last, after.drafts[place]? = some last ∧ draft.SameIdentity last ∧
      ∀ collection, (last.registry collection).entries.entries =
        (draft.registry collection).entries.entries.map
          (changeAt RegistryEntry.reloaded (anew place collection))
  documents : ∀ (place : Nat) (draft : Draft) project, before.drafts[place]? = some draft →
    draft.removed = false → before.snapshot.project? draft.id = some project →
      ∃ changed, after.snapshot.project? draft.id = some changed ∧
        ∀ collection, (changed.documents collection).entries =
          (project.documents collection).entries.map
            (changeAt Document.reloaded (anew place collection))

end Workspace

/-- A workspace in which the draft at a place is told that a file changed. -/
structure Delivery where
  workspace : Workspace
  place : Nat
  path : String

namespace Delivery

variable {delivery : Delivery} {place : Nat} {collection : DocumentCollection} {id : DocumentId}
  {draft : Draft}

/-- The workspace afterwards. -/
def told (delivery : Delivery) : Workspace :=
  (delivery.workspace.onDraft delivery.place (.ok false) fun session =>
    session.fileChanged delivery.path).2

/-- Whether a document is to be loaded anew: it is a committed one of the draft that is told, it
comes from the file that changed, and the editor does not have the path of the event open. -/
def reaches (delivery : Delivery) : Nat → DocumentCollection → DocumentId → Bool :=
  delivery.workspace.due delivery.path (fun place => place = delivery.place)
    fun _ => !delivery.workspace.host.editor.isOpen delivery.path

theorem reaches_iff : delivery.reaches place collection id = true ↔
    place = delivery.place ∧ ∃ draft, delivery.workspace.drafts[place]? = some draft ∧
      draft.removed = false ∧ ∃ entry, (draft.registry collection).entries.get? id = some entry ∧
        entry.hears delivery.workspace.host.comparison delivery.path = true ∧
          delivery.workspace.host.editor.isOpen delivery.path = false := by
  simp only [reaches, Workspace.due_iff, decide_eq_true_eq, Bool.not_eq_true']

/-- A delivery loads anew what it reaches, and nothing else. -/
def Reloads (delivery : Delivery) : Prop :=
  delivery.workspace.LoadsAnew delivery.told delivery.reaches

/-! ## What is delivered -/

theorem told_of_none (absent : delivery.workspace.drafts[delivery.place]? = none) :
    delivery.told = delivery.workspace := by
  rw [told, Workspace.onDraft, absent]

theorem told_of_some (found : delivery.workspace.drafts[delivery.place]? = some draft) :
    delivery.told = delivery.workspace.worked delivery.place
      ({ host := delivery.workspace.host, draft : Session }.fileChanged delivery.path).2 := by
  rw [told, Workspace.onDraft, found]
  rfl

theorem length_drafts_told (delivery : Delivery) :
    delivery.told.drafts.length = delivery.workspace.drafts.length := by
  cases found : delivery.workspace.drafts[delivery.place]? with
  | none => rw [told_of_none found]
  | some draft =>
    rw [told_of_some found]
    exact List.length_set

theorem editor_told (delivery : Delivery) :
    delivery.told.host.editor = delivery.workspace.host.editor := by
  cases found : delivery.workspace.drafts[delivery.place]? with
  | none => rw [told_of_none found]
  | some draft =>
    rw [told_of_some found]
    exact Session.editor_fileChanged { host := delivery.workspace.host, draft } delivery.path

theorem drafts_told_of_ne (differs : place ≠ delivery.place) :
    delivery.told.drafts[place]? = delivery.workspace.drafts[place]? := by
  cases found : delivery.workspace.drafts[delivery.place]? with
  | none => rw [told_of_none found]
  | some draft =>
    rw [told_of_some found]
    exact List.getElem?_set_ne differs.symm

/-- A draft that is done with is not told anything. -/
theorem told_of_removed (found : delivery.workspace.drafts[delivery.place]? = some draft)
    (removed : draft.removed = true) : delivery.told = delivery.workspace := by
  have untouched : ({ host := delivery.workspace.host, draft : Session }.fileChanged
      delivery.path).2 = { host := delivery.workspace.host, draft } :=
    Session.perform_of_removed removed (.fileChanged delivery.path)
  rw [told_of_some found, untouched, Workspace.worked_self found]

/-- Nothing happens if the editor has the path of the event open. -/
theorem told_of_open
    (open_path : delivery.workspace.host.editor.isOpen delivery.path = true) :
    delivery.told = delivery.workspace := by
  cases found : delivery.workspace.drafts[delivery.place]? with
  | none => exact told_of_none found
  | some draft =>
    rw [told_of_some found, Session.fileChanged_of_open open_path, Workspace.worked_self found]

end Delivery

namespace Workspace

variable {comparison : PathComparison} {known : List DocumentId} {delivery : Delivery}
  {place : Nat} {draft : Draft}

theorem step_fileChanged (workspace : Workspace) (place : Nat) (path : String) :
    (workspace.step (.edit place (.fileChanged path))).2 =
      Delivery.told { workspace, place, path } := by
  simp only [Workspace.step, Delivery.told, onDraft]
  split <;> rfl

theorem Keeps.told {relation : Project → Draft → Prop}
    (keeps : delivery.workspace.Keeps comparison relation known)
    (kept : Draft.Kept comparison relation) :
    delivery.told.Keeps comparison relation known := by
  have changes := delivery.workspace.changes_onDraft_silent delivery.place (.ok false)
    (fun session => session.fileChanged delivery.path) (.perform (.fileChanged delivery.path))
    (fun _ => rfl) rfl
  have keeps_told := keeps.changes kept changes List.nodup_nil fun _ drawn =>
    absurd drawn List.not_mem_nil
  rwa [List.append_nil] at keeps_told

theorem Accepting.told (accepting : delivery.workspace.Accepting) : delivery.told.Accepting :=
  accepting.onDraft delivery.place _ _ fun session =>
    (session.fileChanged_advances delivery.path).refusals

/-- What a delivery does to the registries of a draft. -/
theorem Keeps.entries_told
    (keeps : delivery.workspace.Keeps comparison (Draft.InStep comparison) known)
    (accepting : delivery.workspace.Accepting)
    (found : delivery.workspace.drafts[place]? = some draft) :
    ∃ last, delivery.told.drafts[place]? = some last ∧ draft.SameIdentity last ∧
      ∀ collection, (last.registry collection).entries.entries =
        (draft.registry collection).entries.entries.map
          (changeAt RegistryEntry.reloaded (delivery.reaches place collection)) := by
  have missed (same : delivery.told.drafts[place]? = delivery.workspace.drafts[place]?)
      (unreached : ∀ collection id, delivery.reaches place collection id = false) :
      ∃ last, delivery.told.drafts[place]? = some last ∧ draft.SameIdentity last ∧
        ∀ collection, (last.registry collection).entries.entries =
          (draft.registry collection).entries.entries.map
            (changeAt RegistryEntry.reloaded (delivery.reaches place collection)) :=
    ⟨draft, same.trans found, ⟨rfl, rfl⟩, fun collection =>
      (map_changeAt_of_none (unreached collection)).symm⟩
  by_cases here : place = delivery.place
  · subst here
    cases removed : draft.removed with
    | true =>
      refine missed (by rw [Delivery.told_of_removed found removed]) fun collection id => ?_
      simp [Delivery.reaches, due, found, removed]
    | false =>
      cases open_path : delivery.workspace.host.editor.isOpen delivery.path with
      | true =>
        refine missed (by rw [Delivery.told_of_open open_path]) fun collection id => ?_
        simp [Delivery.reaches, due, open_path]
      | false =>
        obtain ⟨project, _, tracked⟩ := keeps.tracked accepting found removed
        have within := (List.getElem?_eq_some_iff.mp found).1
        rw [Delivery.told_of_some found]
        refine ⟨_, List.getElem?_set_self within,
          (Session.fileChanged_attempts { host := delivery.workspace.host, draft } _).1,
          fun collection => ?_⟩
        rw [tracked.entries_fileChanged removed open_path collection]
        refine List.map_congr_left fun entry entry_mem => ?_
        have comparison_eq : (draft.registry collection).comparison =
            delivery.workspace.host.comparison :=
          (tracked.inStep.mirrors collection).comparison_eq.trans keeps.comparison_eq.symm
        have reaches_eq : delivery.reaches delivery.place collection entry.1 =
            entry.2.hears delivery.workspace.host.comparison delivery.path := by
          simp [Delivery.reaches, due, found, removed, open_path,
            Registry.mem_entries_iff.mp entry_mem]
        rw [changeAt, reaches_eq, comparison_eq, RegistryEntry.heard]
        split <;> rfl
  · refine missed (Delivery.drafts_told_of_ne here) fun collection id => ?_
    simp [Delivery.reaches, due, here]

/-- In a workspace whose drafts are in step with their projects, over a store that refuses nothing,
every delivery loads anew what it reaches. -/
theorem Keeps.reloads
    (keeps : delivery.workspace.Keeps comparison (Draft.InStep comparison) known)
    (accepting : delivery.workspace.Accepting) : delivery.Reloads where
  entries _ _ found := keeps.entries_told accepting found
  documents place draft project found live project_found := by
    obtain ⟨last, last_found, identity, entries⟩ := keeps.entries_told accepting found
    have inStep := keeps.related_of_found found live project_found
    obtain ⟨changed, changed_found, last_inStep⟩ :=
      (keeps.told (Draft.kept_inStep comparison)).related place last last_found
        (identity.removed_eq.trans live)
    refine ⟨changed, identity.id_eq ▸ changed_found, fun collection => ?_⟩
    have shown := Registry.shown_of_map (entries collection) fun entry _ => by
      rw [changeAt]
      split <;> rfl
    rw [(last_inStep.mirrors collection).mirrors.documents_eq, shown, documentsOf_map_changeAt,
      (inStep.mirrors collection).mirrors.documents_eq]

end Workspace

end CodeWorkspace
