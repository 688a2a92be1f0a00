import CodeWorkspace.Proofs.Draft.Provenance
import CodeWorkspace.Proofs.Registry.Reload
import CodeWorkspace.Proofs.Session.Perform
import CodeWorkspace.Proofs.Session.Stale

/-!
# Sessions and changes of files

Over a store that refuses nothing, the change of a file is carried out on whatever it concerns,
unless the editor has the path of the event open.  Nothing else changes a document: all other
operations introduce documents, take them out, or leave them as they are.
-/

namespace CodeWorkspace

/-- The document that an edit introduces, if any, with its collection. -/
def Edit.introduced : Edit → List (DocumentCollection × Document)
  | .addFile collection path kind folders id => [(collection, .ofFile id path kind folders)]
  | .addBuffer collection held path? kind folders id =>
    [(collection, .ofBuffer id held path? kind folders)]
  | _ => []

theorem Edit.drawn_of_introduced {edit : Edit} {given : DocumentCollection × Document}
    (introduced : given ∈ edit.introduced) : given.2.id ∈ edit.drawn := by
  cases edit with
  | addFile collection path kind folders id =>
    rw [List.mem_singleton.mp introduced]
    exact List.mem_singleton_self id
  | addBuffer collection held path? kind folders id =>
    rw [List.mem_singleton.mp introduced]
    exact List.mem_singleton_self id
  | _ => cases introduced

/-- Nothing that is introduced has been loaded anew. -/
theorem Edit.generation_of_introduced {edit : Edit} {given : DocumentCollection × Document}
    (introduced : given ∈ edit.introduced) {path : String} {generation : UInt32}
    (loader_eq : given.2.loader = .file path generation) : generation = 0 := by
  cases edit with
  | addFile collection path kind folders id =>
    rw [List.mem_singleton.mp introduced] at loader_eq
    cases loader_eq
    rfl
  | addBuffer collection held path? kind folders id =>
    rw [List.mem_singleton.mp introduced] at loader_eq
    cases loader_eq
  | _ => cases introduced

namespace Session

variable {comparison : PathComparison} {session : Session} {project : Project} {edit : Edit}
  {given : List (DocumentCollection × Document)}

/-! ## Other operations -/

theorem Accepted.introduced_eq {action : Draft.Action} (accepted : Accepted session edit action) :
    action.introduced = edit.introduced := by
  cases accepted <;> rfl

theorem carries_flush (session : Session) : session.draft.Carries given session.flush.2.draft := by
  obtain ⟨_, ⟨draft, _⟩ | ⟨_, _, _, draft, _⟩⟩ := session.flush_effect
  · rw [draft]
    exact Draft.carries_of_same fun _ => rfl
  · rw [draft]
    exact session.draft.carries_settle

/-- An edit that reports no change of a file changes no document. -/
theorem carries_perform (other : ∀ path, edit ≠ .fileChanged path) :
    session.draft.Carries edit.introduced (session.perform edit).2.draft := by
  refine @holds_perform session edit
    (fun reached => session.draft.Carries edit.introduced reached.draft)
    (Draft.carries_of_same fun _ => rfl) session.carries_flush (fun _ _ carries => carries)
    (fun ready reply _ reacts carries => carries.trans ?_) other
  rcases reacts.effect with ⟨draft, _⟩ | ⟨action, accepted, ⟨_, draft, _⟩ | ⟨_, draft, _⟩⟩
  · rw [draft]
    exact Draft.carries_of_same fun _ => rfl
  · rw [draft, ← accepted.introduced_eq]
    exact ready.draft.carries_later action
  · rw [draft, ← accepted.introduced_eq]
    exact ready.draft.carries_now action

/-- The document that an operation introduces, if any, with its collection. -/
def Operation.introduced : Operation → List (DocumentCollection × Document)
  | .perform edit => edit.introduced
  | _ => []

theorem carries_operate {operation : Operation}
    (other : ∀ path, operation ≠ .perform (.fileChanged path)) :
    session.draft.Carries operation.introduced (session.operate operation).draft := by
  cases operation with
  | perform edit => exact carries_perform fun path same => other path (same ▸ rfl)
  | beginBatch =>
    show session.draft.Carries _ session.beginBatch.2.draft
    rw [beginBatch]
    split <;> exact Draft.carries_of_same fun collection => by cases collection <;> rfl
  | endBatch =>
    let left : Session :=
      { session with draft := { session.draft with batches := session.draft.batches.exit } }
    have closed : session.draft.Carries [] left.draft :=
      Draft.carries_of_same fun collection => by cases collection <;> rfl
    show session.draft.Carries [] session.endBatch.2.draft
    rw [endBatch]
    split
    · exact @holds_flushAndNotify left (fun reached => session.draft.Carries [] reached.draft)
        (closed.trans left.carries_flush) fun _ _ carries => carries
    · exact closed

/-! ## Changes of files -/

/-- A change of a file that the editor has open by that path is ignored. -/
theorem fileChanged_of_open {path : String} (open_path : session.host.editor.isOpen path = true) :
    session.fileChanged path = (.ok false, session) := by
  have ignored (collection : DocumentCollection) :
      session.reload collection path = (.ok false, session) := by
    rw [reload, reloadTarget?, if_pos open_path]
  rw [fileChanged]
  split
  · rfl
  · simp only [ignored, Bool.or_self]

theorem editor_fileChanged (session : Session) (path : String) :
    (session.fileChanged path).2.host.editor = session.host.editor :=
  @holds_fileChanged session (fun reached => reached.host.editor = session.host.editor) path rfl
    fun reached collection same =>
      (congrArg Host.editor (reached.reload_effect collection path).1).trans same

/-- Loading the document of a collection anew does to its entries what the change of the file asks
for. -/
theorem Tracked.entries_reload (tracked : session.Tracked comparison project) {path : String}
    (closed : session.host.editor.isOpen path = false) (collection : DocumentCollection) :
    ∃ happened reached, session.reload collection path = (.ok happened, reached) ∧
      (reached.draft.registry collection).entries.entries =
        (session.draft.registry collection).heard path ∧
      ∀ other, other ≠ collection →
        reached.draft.registry other = session.draft.registry other := by
  have indexed : (session.draft.registry collection).Indexed :=
    (tracked.inStep.mirrors collection).mirrors.toIndexed
  have target_eq : session.reloadTarget? collection path =
      (session.draft.registry collection).reloadCandidate? path := by
    rw [reloadTarget?, if_neg (Bool.eq_false_iff.mp closed)]
  rw [reload, target_eq]
  split
  · rename_i no_candidate
    exact ⟨false, session, rfl, (indexed.heard_of_none no_candidate).symm, fun _ _ => rfl⟩
  · rename_i id loader candidate
    obtain ⟨changed, completed⟩ : ∃ changed, (Transition.reloadDocument collection id
        loader).effect session.closing project = .ok changed :=
      tracked.inStep.reload_completes candidate
    simp only [commit, submit, transform]
    rcases Store.transform_accepting tracked.accepting tracked.keyed tracked.found
      fun _ => [.reloadDocument collection id loader] with
      ⟨fault, effects, _⟩ | ⟨after, next, _, committed, _⟩
    · rw [Transition.effects_singleton] at effects
      cases completed.symm.trans effects
    · rw [committed]
      refine ⟨true, _, rfl, ?_, fun other differs => ?_⟩
      · simp only [withRegistry, Draft.registry_withRegistry_self]
        exact indexed.entries_setLoader candidate
      · exact Draft.registry_withRegistry_of_ne differs

/-- A change of a file whose path the editor does not have open reaches all that it concerns. -/
theorem Tracked.entries_fileChanged (tracked : session.Tracked comparison project) {path : String}
    (live : session.draft.removed = false) (closed : session.host.editor.isOpen path = false)
    (collection : DocumentCollection) :
    ((session.fileChanged path).2.draft.registry collection).entries.entries =
      (session.draft.registry collection).heard path := by
  obtain ⟨inSources, first, first_eq, first_sources, first_others⟩ :=
    tracked.entries_reload closed .source
  have first_advances := session.reload_advances .source path
  have first_host := (session.reload_effect .source path).1
  rw [first_eq] at first_advances first_host
  obtain ⟨changed, first_tracked⟩ := tracked.advance first_advances List.nodup_nil
    fun _ drawn => absurd drawn List.not_mem_nil
  have still_closed : first.host.editor.isOpen path = false :=
    congrArg Host.editor first_host ▸ closed
  obtain ⟨inAdditional, second, second_eq, second_additional, second_others⟩ :=
    first_tracked.entries_reload still_closed .additional
  have reached_eq : session.fileChanged path = (.ok (inSources || inAdditional), second) := by
    rw [fileChanged, if_neg (Bool.eq_false_iff.mp live), first_eq]
    simp only [second_eq]
  rw [reached_eq]
  cases collection with
  | source =>
    rw [second_others .source (by decide)]
    exact first_sources
  | additional =>
    rw [second_additional, Registry.heard, first_others .additional (by decide)]
    rfl

end Session

end CodeWorkspace
