import CodeWorkspace.Proofs.Workspace.Change

/-!
# Invariants of a workspace

A relation between drafts and their projects holds of all live drafts at any time if it holds of
new projects, is kept by moves, and is kept when another project is removed.  This is proved once,
together with what ties the drafts of a workspace to the projects of its snapshot.  Some relations
are kept only if every document is introduced once; they need to know which documents each draft
knows.
-/

namespace CodeWorkspace

namespace Draft

variable {comparison : PathComparison} {relation other : Project → Draft → Prop}

/-- A relation between a project and its draft that nothing breaks as long as every document is
introduced once. -/
structure Kept (comparison : PathComparison) (relation : Project → Draft → Prop) :
    Prop where
  created : ∀ info, relation (.ofInfo info) (.ofInfo comparison info)
  moved : ∀ {drawn : List DocumentId} {project changed : Project} {draft after : Draft},
    relation project draft → (∀ id ∈ drawn, id ∉ draft.ids) →
      Draft.Move project draft drawn changed after → relation changed after
  forgot : ∀ {project : Project} {draft : Draft} (target : ProjectId), relation project draft →
    relation (Snapshot.cutOff target project) (draft.forgetReferencesTo target)

/-- A relation between a project and its draft that nothing breaks. -/
structure Lasting (comparison : PathComparison) (relation : Project → Draft → Prop) :
    Prop where
  created : ∀ info, relation (.ofInfo info) (.ofInfo comparison info)
  moved : ∀ {drawn : List DocumentId} {project changed : Project} {draft after : Draft},
    relation project draft → Draft.Move project draft drawn changed after → relation changed after
  forgot : ∀ {project : Project} {draft : Draft} (target : ProjectId), relation project draft →
    relation (Snapshot.cutOff target project) (draft.forgetReferencesTo target)

theorem Kept.and (kept : Kept comparison relation) (others : Kept comparison other) :
    Kept comparison fun project draft => relation project draft ∧ other project draft where
  created info := ⟨kept.created info, others.created info⟩
  moved holds fresh move := ⟨kept.moved holds.1 fresh move, others.moved holds.2 fresh move⟩
  forgot target holds := ⟨kept.forgot target holds.1, others.forgot target holds.2⟩

theorem Lasting.kept (lasting : Lasting comparison relation) : Kept comparison relation :=
  ⟨lasting.created, fun holds _ move => lasting.moved holds move, lasting.forgot⟩

theorem Lasting.and (lasting : Lasting comparison relation) (others : Lasting comparison other) :
    Lasting comparison fun project draft => relation project draft ∧ other project draft where
  created info := ⟨lasting.created info, others.created info⟩
  moved holds move := ⟨lasting.moved holds.1 move, others.moved holds.2 move⟩
  forgot target holds := ⟨lasting.forgot target holds.1, others.forgot target holds.2⟩

theorem Lasting.moves (lasting : Lasting comparison relation) {drawn : List DocumentId}
    {project changed : Project} {draft after : Draft}
    (moves : Moves drawn project draft changed after) (holds : relation project draft) :
    relation changed after := by
  induction moves with
  | refl => exact holds
  | step move _ ih => exact ih (lasting.moved holds move)

/-- A draft that is discarded knows no documents any more. -/
theorem ids_discard (draft : Draft) : draft.discard.2.ids = [] := by
  have drained (registry : Registry) : registry.drainAll.2.entries.keys = [] := by
    show (registry.forgetEach registry.entries.keys).2.entries.entries.map Prod.fst = []
    rw [Registry.entries_forgetEach, List.map_eq_nil_iff, List.filter_eq_nil_iff]
    intro entry entry_mem
    simpa using OrderedMap.mem_keys_of_mem_entries entry_mem
  show draft.sources.drainAll.2.entries.keys ++ draft.additional.drainAll.2.entries.keys = []
  rw [drained, drained, List.append_nil]

end Draft

namespace Session

variable {before after : Session} {drawn : List DocumentId}

/-- What an operation does to a session, be the project removed or not. -/
structure Proceeds (drawn : List DocumentId) (before after : Session) : Prop where
  live : before.draft.removed = false → Advances drawn before after
  removed : before.draft.removed = true →
    after.host.comparison = before.host.comparison ∧ after.current = before.current ∧
      after.draft.removed = true ∧ after.draft.ids = before.draft.ids

theorem SameCore.proceeds (same : SameCore before after) : Proceeds [] before after := by
  refine ⟨fun _ => same.advances, fun removed => ⟨?_, ?_, ?_, ?_⟩⟩
  · exact congrArg OutputIndex.comparison same.outputs
  · exact congrArg Store.current same.store
  · rw [same.draft, removed]
  · rw [same.draft]

theorem update_of_removed {α : Type} {session : Session} (removed : session.draft.removed = true)
    (operation : Session → Reply α) :
    session.update operation = (.error (.removed session.draft.id), session) := if_pos removed

/-- An edit of a project that has been removed changes nothing. -/
theorem perform_of_removed {session : Session} (removed : session.draft.removed = true)
    (edit : Edit) : (session.perform edit).2 = session := by
  by_cases mutation : edit.isMutation = true
  · cases objection : edit.objection? session.draft.id with
    | some failure => rw [perform_of_objection objection]
    | none =>
      obtain ⟨operation, performed, _⟩ := exists_operation mutation
      rw [performed session objection, update_of_removed removed]
  · cases edit with
    | commitPending =>
      show session.commitPending.2 = session
      rw [commitPending, if_pos removed]
    | fileChanged path =>
      show (session.fileChanged path).2 = session
      rw [fileChanged, if_pos removed]
    | _ => exact absurd rfl mutation

theorem perform_proceeds (session : Session) (edit : Edit) :
    ∃ drawn, drawn.Sublist edit.drawn ∧ Proceeds drawn session (session.perform edit).2 := by
  cases removed : session.draft.removed with
  | true =>
    rw [perform_of_removed removed edit]
    exact ⟨[], List.nil_sublist _, (SameCore.refl session).proceeds⟩
  | false =>
    obtain ⟨drawn, drawn_sub, advances⟩ := session.perform_advances edit
    refine ⟨drawn, drawn_sub, fun _ => advances, fun gone => ?_⟩
    rw [removed] at gone
    cases gone

theorem beginBatch_proceeds (session : Session) : Proceeds [] session session.beginBatch.2 := by
  refine ⟨fun _ => session.beginBatch_advances, fun removed => ?_⟩
  rw [beginBatch, if_pos removed]
  exact ⟨rfl, rfl, removed, rfl⟩

theorem endBatch_proceeds (session : Session) : Proceeds [] session session.endBatch.2 := by
  refine ⟨fun _ => session.endBatch_advances, fun removed => ?_⟩
  have stays : (session.draft.batches.isOutermost && !session.draft.removed) = false := by
    rw [removed, Bool.not_true, Bool.and_false]
  simp only [endBatch, stays]
  exact ⟨rfl, rfl, removed, rfl⟩

theorem operate_proceeds (session : Session) (operation : Operation) :
    ∃ drawn, drawn.Sublist operation.drawn ∧ Proceeds drawn session (session.operate operation) := by
  cases operation with
  | perform edit => exact session.perform_proceeds edit
  | beginBatch => exact ⟨[], List.nil_sublist _, session.beginBatch_proceeds⟩
  | endBatch => exact ⟨[], List.nil_sublist _, session.endBatch_proceeds⟩

end Session

namespace Workspace

variable {comparison : PathComparison} {relation : Project → Draft → Prop}
  {known drawn : List DocumentId} {workspace next : Workspace}

/-- The drafts of a workspace belong to its snapshot, and a relation holds of every live draft and
its project. -/
structure Belongs (comparison : PathComparison) (relation : Project → Draft → Prop)
    (workspace : Workspace) : Prop where
  comparison_eq : workspace.host.comparison = comparison
  keyed : workspace.snapshot.Keyed
  draft_of_live : ∀ id place, workspace.live.get? id = some place →
    ∃ draft, workspace.drafts[place]? = some draft ∧ draft.id = id ∧ draft.removed = false
  live_of_draft : ∀ (place : Nat) draft, workspace.drafts[place]? = some draft →
    draft.removed = false → workspace.live.get? draft.id = some place
  related : ∀ (place : Nat) draft, workspace.drafts[place]? = some draft → draft.removed = false →
    ∃ project, workspace.snapshot.project? draft.id = some project ∧ relation project draft
  live_of_project : ∀ id project, workspace.snapshot.project? id = some project →
    ∃ place, workspace.live.get? id = some place

/-- Besides, each of the known documents is known to one draft. -/
structure Keeps (comparison : PathComparison) (relation : Project → Draft → Prop)
    (known : List DocumentId) (workspace : Workspace) : Prop
    extends Belongs comparison relation workspace where
  known_ids : ∀ (place : Nat) draft, workspace.drafts[place]? = some draft →
    ∀ id ∈ draft.ids, id ∈ known
  apart : ∀ (place other : Nat) draft there, workspace.drafts[place]? = some draft →
    workspace.drafts[other]? = some there → ∀ id ∈ draft.ids, id ∈ there.ids → place = other

theorem Belongs.of_same (belongs : workspace.Belongs comparison relation)
    (comparison_eq : next.host.comparison = workspace.host.comparison)
    (snapshot_eq : next.snapshot = workspace.snapshot) (drafts_eq : next.drafts = workspace.drafts)
    (live_eq : next.live = workspace.live) : next.Belongs comparison relation where
  comparison_eq := comparison_eq.trans belongs.comparison_eq
  keyed := snapshot_eq ▸ belongs.keyed
  draft_of_live := by
    rw [live_eq, drafts_eq]
    exact belongs.draft_of_live
  live_of_draft := by
    rw [live_eq, drafts_eq]
    exact belongs.live_of_draft
  related := by
    rw [snapshot_eq, drafts_eq]
    exact belongs.related
  live_of_project := by
    rw [snapshot_eq, live_eq]
    exact belongs.live_of_project

/-- Two live drafts at different places are drafts of different projects. -/
theorem Belongs.id_ne (belongs : workspace.Belongs comparison relation) {place other : Nat}
    {draft there : Draft} (found : workspace.drafts[place]? = some draft)
    (live : draft.removed = false) (there_found : workspace.drafts[other]? = some there)
    (live_there : there.removed = false) (differs : other ≠ place) : there.id ≠ draft.id := by
  intro same
  have here := belongs.live_of_draft other there there_found live_there
  rw [same, belongs.live_of_draft place draft found live] at here
  exact differs (Option.some.inj here).symm

/-- A live draft is related to its project. -/
theorem Belongs.related_of_found (belongs : workspace.Belongs comparison relation) {place : Nat}
    {draft : Draft} {project : Project} (found : workspace.drafts[place]? = some draft)
    (live : draft.removed = false)
    (project_found : workspace.snapshot.project? draft.id = some project) :
    relation project draft := by
  obtain ⟨own, own_found, related⟩ := belongs.related place draft found live
  rw [project_found] at own_found
  cases own_found
  exact related

/-! ## Working on one draft -/

theorem getElem?_set_cases {drafts : List Draft} {place other : Nat} {draft found : Draft}
    (found_eq : (drafts.set place draft)[other]? = some found) :
    (other = place ∧ found = draft) ∨ (other ≠ place ∧ drafts[other]? = some found) := by
  rw [List.getElem?_set] at found_eq
  split at found_eq
  · rename_i same
    split at found_eq
    · exact Or.inl ⟨same.symm, (Option.some.inj found_eq).symm⟩
    · cases found_eq
  · rename_i differs
    exact Or.inr ⟨fun same => differs same.symm, found_eq⟩

theorem Belongs.worked_removed (belongs : workspace.Belongs comparison relation) {place : Nat}
    {draft : Draft} (found : workspace.drafts[place]? = some draft)
    (removed : draft.removed = true) {after : Session}
    (comparison_eq : after.host.comparison = workspace.host.comparison)
    (current_eq : after.current = workspace.snapshot) (still_removed : after.draft.removed = true) :
    (workspace.worked place after).Belongs comparison relation := by
  have snapshot_eq : after.host.store.current = workspace.snapshot := current_eq
  have unchanged {other : Nat} {there : Draft}
      (there_found : (workspace.drafts.set place after.draft)[other]? = some there)
      (live : there.removed = false) : workspace.drafts[other]? = some there := by
    rcases getElem?_set_cases there_found with ⟨rfl, rfl⟩ | ⟨_, there_found⟩
    · rw [still_removed] at live
      cases live
    · exact there_found
  constructor
  · exact comparison_eq.trans belongs.comparison_eq
  · show after.host.store.current.Keyed
    rw [snapshot_eq]
    exact belongs.keyed
  · intro id other live
    obtain ⟨there, there_found, id_eq, live_there⟩ := belongs.draft_of_live id other live
    have differs : place ≠ other := by
      rintro rfl
      rw [found] at there_found
      cases there_found
      rw [removed] at live_there
      cases live_there
    refine ⟨there, ?_, id_eq, live_there⟩
    show (workspace.drafts.set place after.draft)[other]? = some there
    rw [List.getElem?_set_ne differs]
    exact there_found
  · intro other there there_found live
    exact belongs.live_of_draft other there (unchanged there_found live) live
  · intro other there there_found live
    show ∃ project, after.host.store.current.project? there.id = some project ∧ _
    rw [snapshot_eq]
    exact belongs.related other there (unchanged there_found live) live
  · show ∀ id project, after.host.store.current.project? id = some project → _
    rw [snapshot_eq]
    exact belongs.live_of_project

theorem Belongs.worked_live (belongs : workspace.Belongs comparison relation) {place : Nat}
    {draft : Draft} (found : workspace.drafts[place]? = some draft) (live : draft.removed = false)
    {after : Session} (advances : Session.Advances drawn { host := workspace.host, draft } after)
    (moved : ∀ {project changed : Project}, relation project draft →
      Draft.Moves drawn project draft changed after.draft → relation changed after.draft) :
    (workspace.worked place after).Belongs comparison relation := by
  obtain ⟨project, project_found, related⟩ := belongs.related place draft found live
  obtain ⟨changed, moves, replaced⟩ := advances.moves project belongs.keyed project_found
  have id_eq : after.draft.id = draft.id := moves.sameIdentity.id_eq
  have removed_eq : after.draft.removed = draft.removed := moves.sameIdentity.removed_eq
  have changed_id : changed.id = draft.id :=
    moves.project_id.trans (belongs.keyed _ _ project_found)
  constructor
  · exact advances.comparison.trans belongs.comparison_eq
  · exact replaced.keyed belongs.keyed changed_id
  · intro id other live_other
    obtain ⟨there, there_found, there_id, live_there⟩ := belongs.draft_of_live id other live_other
    show ∃ draft, (workspace.drafts.set place after.draft)[other]? = some draft ∧ _
    by_cases same : other = place
    · subst same
      rw [found] at there_found
      cases there_found
      refine ⟨after.draft, ?_, id_eq.trans there_id, removed_eq.trans live⟩
      rw [List.getElem?_set_self (List.getElem?_eq_some_iff.mp found).1]
    · refine ⟨there, ?_, there_id, live_there⟩
      rw [List.getElem?_set_ne (Ne.symm same)]
      exact there_found
  · intro other there there_found live_there
    rcases getElem?_set_cases there_found with ⟨rfl, rfl⟩ | ⟨_, there_found⟩
    · rw [id_eq]
      exact belongs.live_of_draft other draft found live
    · exact belongs.live_of_draft other there there_found live_there
  · intro other there there_found live_there
    rcases getElem?_set_cases there_found with ⟨rfl, rfl⟩ | ⟨differs, there_found⟩
    · rw [id_eq]
      exact ⟨changed, replaced.found, moved related moves⟩
    · obtain ⟨other_project, other_found, other_related⟩ :=
        belongs.related other there there_found live_there
      have other_id := belongs.id_ne found live there_found live_there differs
      exact ⟨other_project, (replaced.project?_of_ne other_id).trans other_found, other_related⟩
  · intro id project project_found
    have present := (replaced.contains_eq id).symm.trans
      (Snapshot.contains_iff.mpr ⟨project, project_found⟩)
    obtain ⟨old, old_found⟩ := Snapshot.contains_iff.mp present
    exact belongs.live_of_project id old old_found

/-- Whatever proceeds on one draft keeps the relation for all, if it does for that one. -/
theorem Belongs.worked (belongs : workspace.Belongs comparison relation) {place : Nat}
    {draft : Draft} (found : workspace.drafts[place]? = some draft) {after : Session}
    (proceeds : Session.Proceeds drawn { host := workspace.host, draft } after)
    (moved : ∀ {project changed : Project}, relation project draft →
      Draft.Moves drawn project draft changed after.draft → relation changed after.draft) :
    (workspace.worked place after).Belongs comparison relation := by
  cases removed : draft.removed with
  | true =>
    obtain ⟨comparison_eq, current_eq, still_removed, _⟩ := proceeds.removed removed
    exact belongs.worked_removed found removed comparison_eq current_eq still_removed
  | false => exact belongs.worked_live found removed (proceeds.live removed) moved

/-! ## Putting a project in -/

theorem comparison_registerOutputs (index : OutputIndex) (info : ProjectInfo) :
    (registerOutputs index info).comparison = index.comparison := by
  have along (paths : List String) (reached : OutputIndex) :
      (paths.foldl (fun reached path => reached.register info.id path) reached).comparison =
        reached.comparison := by
    induction paths generalizing reached with
    | nil => rfl
    | cons path rest ih => exact ih _
  exact along _ index

theorem getElem?_concat_cases {drafts : List Draft} {place : Nat} {added draft : Draft}
    (found : (drafts ++ [added])[place]? = some draft) :
    drafts[place]? = some draft ∨ place = drafts.length ∧ draft = added := by
  rcases Nat.lt_or_ge place drafts.length with within | beyond
  · rw [List.getElem?_append_left within] at found
    exact Or.inl found
  · rw [List.getElem?_append_right beyond, List.getElem?_singleton] at found
    split at found
    · exact Or.inr ⟨by omega, (Option.some.inj found).symm⟩
    · cases found

/-- No live draft has the identity of a project that is about to be put in. -/
theorem Belongs.id_ne_of_absent (belongs : workspace.Belongs comparison relation)
    {id : ProjectId} (absent : workspace.live.get? id = none) {place : Nat} {draft : Draft}
    (found : workspace.drafts[place]? = some draft) (live : draft.removed = false) :
    draft.id ≠ id := by
  intro same
  have here := belongs.live_of_draft place draft found live
  rw [same, absent] at here
  cases here

theorem project?_putIn {info : ProjectInfo} {store : Store}
    (current : store.current = (workspace.snapshot.write info.id (.ofInfo info)).withVersion
      (workspace.snapshot.version + 1)) (id : ProjectId) :
    (workspace.putIn info store).snapshot.project? id =
      if id = info.id then some (.ofInfo info) else workspace.snapshot.project? id := by
  show store.current.project? id = _
  rw [current]
  exact Snapshot.project?_write _ _ _ _

/-- A project was put in: it has a draft of its own. -/
theorem Belongs.putIn (belongs : workspace.Belongs comparison relation) {info : ProjectInfo}
    (created : relation (.ofInfo info) (.ofInfo comparison info)) {store : Store}
    (absent : workspace.live.get? info.id = none)
    (current : store.current = (workspace.snapshot.write info.id (.ofInfo info)).withVersion
      (workspace.snapshot.version + 1)) :
    (workspace.putIn info store).Belongs comparison relation := by
  have drafts_eq : (workspace.putIn info store).drafts =
      workspace.drafts ++ [.ofInfo workspace.host.comparison info] := rfl
  have live_eq (id : ProjectId) : (workspace.putIn info store).live.get? id =
      if id = info.id then some workspace.drafts.length else workspace.live.get? id :=
    OrderedMap.get?_insert _ _ _ _
  constructor
  · exact (comparison_registerOutputs _ info).trans belongs.comparison_eq
  · show store.current.Keyed
    rw [current]
    exact Snapshot.keyed_write belongs.keyed rfl
  · intro id place live
    rw [live_eq] at live
    rw [drafts_eq]
    split at live
    · rename_i same
      cases live
      exact ⟨Draft.ofInfo workspace.host.comparison info, by simp, same.symm, rfl⟩
    · obtain ⟨draft, found, draft_id, live⟩ := belongs.draft_of_live id place live
      refine ⟨draft, ?_, draft_id, live⟩
      rw [List.getElem?_append_left (List.getElem?_eq_some_iff.mp found).1]
      exact found
  · intro place draft found live
    rw [live_eq]
    rcases getElem?_concat_cases found with old | ⟨rfl, rfl⟩
    · rw [if_neg (belongs.id_ne_of_absent absent old live)]
      exact belongs.live_of_draft place draft old live
    · exact if_pos rfl
  · intro place draft found live
    rw [project?_putIn current]
    rcases getElem?_concat_cases found with old | ⟨rfl, rfl⟩
    · rw [if_neg (belongs.id_ne_of_absent absent old live)]
      exact belongs.related place draft old live
    · refine ⟨_, if_pos rfl, ?_⟩
      rw [belongs.comparison_eq]
      exact created
  · intro id project found
    rw [project?_putIn current] at found
    rw [live_eq]
    split at found
    · rename_i same
      exact ⟨_, if_pos same⟩
    · rename_i differs
      rw [if_neg differs]
      exact belongs.live_of_project id project found

/-! ## Taking a project out -/

theorem getElem?_forgetReferencesTo (workspace : Workspace) (target : ProjectId) (place : Nat) :
    (workspace.forgetReferencesTo target).drafts[place]? = workspace.drafts[place]?.map fun draft =>
      if place ∈ workspace.live.values then draft.forgetReferencesTo target else draft :=
  List.getElem?_mapIdx

/-- What has become of a draft when another project was taken out. -/
theorem Belongs.takenOut_cases (belongs : workspace.Belongs comparison relation) {place : Nat}
    {draft : Draft} (found : workspace.drafts[place]? = some draft)
    (unremoved : draft.removed = false) {removed : Session}
    (discarded : removed.draft = draft.discard.2) {other : Nat} {last : Draft}
    (last_found : (workspace.takenOut place draft.id removed).drafts[other]? = some last) :
    (other = place ∧ last.removed = true ∧ last.ids = draft.discard.2.ids) ∨
      ∃ there, workspace.drafts[other]? = some there ∧ other ≠ place ∧
        (there.removed = false ∧ last = there.forgetReferencesTo draft.id ∨
          there.removed = true ∧ last.removed = true ∧ last.ids = there.ids) := by
  rw [takenOut, getElem?_forgetReferencesTo, Option.map_eq_some_iff] at last_found
  obtain ⟨there, there_found, rfl⟩ := last_found
  rcases getElem?_set_cases there_found with ⟨same, rfl⟩ | ⟨differs, there_found⟩
  · rw [discarded]
    exact Or.inl ⟨same, by split <;> rfl, by split <;> rfl⟩
  · refine Or.inr ⟨there, there_found, differs, ?_⟩
    cases gone : there.removed with
    | true => exact Or.inr ⟨rfl, by split <;> exact gone, by split <;> rfl⟩
    | false =>
      have other_id := belongs.id_ne found unremoved there_found gone differs
      refine Or.inl ⟨rfl, if_pos (OrderedMap.mem_values_iff.mpr ⟨there.id, ?_⟩)⟩
      show (workspace.live.erase draft.id).get? there.id = some other
      rw [OrderedMap.get?_erase, if_neg other_id]
      exact belongs.live_of_draft other there there_found gone

/-- What is live after a project was taken out was live before, and has forgotten the project. -/
theorem Belongs.live_takenOut_cases (belongs : workspace.Belongs comparison relation)
    {place : Nat} {draft : Draft} (found : workspace.drafts[place]? = some draft)
    (unremoved : draft.removed = false) {removed : Session}
    (discarded : removed.draft = draft.discard.2) {other : Nat} {last : Draft}
    (last_found : (workspace.takenOut place draft.id removed).drafts[other]? = some last)
    (live : last.removed = false) : ∃ there, workspace.drafts[other]? = some there ∧
      there.removed = false ∧ there.id ≠ draft.id ∧ last = there.forgetReferencesTo draft.id := by
  rcases belongs.takenOut_cases found unremoved discarded last_found with
    ⟨_, gone, _⟩ | ⟨there, there_found, differs, ⟨unremoved_there, rfl⟩ | ⟨_, gone, _⟩⟩
  · rw [gone] at live
    cases live
  · exact ⟨there, there_found, unremoved_there,
      belongs.id_ne found unremoved there_found unremoved_there differs, rfl⟩
  · rw [gone] at live
    cases live

/-- The projects of a snapshot after one was removed. -/
theorem Belongs.project?_takenOut (belongs : workspace.Belongs comparison relation) {place : Nat}
    {draft : Draft} (found : workspace.drafts[place]? = some draft)
    (unremoved : draft.removed = false) {removed : Session} {taken : Snapshot} {version : UInt64}
    (completed : workspace.snapshot.removeProject draft.id = .ok taken)
    (current : removed.current = taken.withVersion version) (id : ProjectId) :
    (workspace.takenOut place draft.id removed).snapshot.project? id =
      if id = draft.id then none
      else (workspace.snapshot.project? id).map (Snapshot.cutOff draft.id) := by
  have present : workspace.snapshot.contains draft.id = true := by
    obtain ⟨project, project_found, _⟩ := belongs.related place draft found unremoved
    exact Snapshot.contains_iff.mpr ⟨project, project_found⟩
  obtain ⟨next, next_eq, others, _⟩ := Snapshot.removeProject_of_contains present
  rw [completed] at next_eq
  cases next_eq
  show removed.current.project? id = _
  rw [current]
  exact others id

theorem Belongs.takeOut (belongs : workspace.Belongs comparison relation) {place : Nat}
    {draft : Draft} (found : workspace.drafts[place]? = some draft)
    (unremoved : draft.removed = false) {removed : Session} {taken : Snapshot} {version : UInt64}
    (completed : workspace.snapshot.removeProject draft.id = .ok taken)
    (current : removed.current = taken.withVersion version)
    (comparison_eq : removed.host.comparison = workspace.host.comparison)
    (discarded : removed.draft = draft.discard.2)
    (forgot : ∀ {project : Project} {there : Draft}, relation project there →
      relation (Snapshot.cutOff draft.id project) (there.forgetReferencesTo draft.id)) :
    (workspace.takenOut place draft.id removed).Belongs comparison relation := by
  have project?_eq := belongs.project?_takenOut found unremoved completed current
  have live_iff (id : ProjectId) (other : Nat) :
      (workspace.live.erase draft.id).get? id = some other ↔
        id ≠ draft.id ∧ workspace.live.get? id = some other := by
    rw [OrderedMap.get?_erase]
    split <;> simp [*]
  constructor
  · exact comparison_eq.trans belongs.comparison_eq
  · show removed.current.Keyed
    rw [current]
    exact (Snapshot.shrunk_removeProject belongs.keyed completed).keyed
  · intro id other live
    obtain ⟨differs, live⟩ := (live_iff id other).mp live
    obtain ⟨there, there_found, rfl, live_there⟩ := belongs.draft_of_live id other live
    have elsewhere : other ≠ place := by
      rintro rfl
      rw [found] at there_found
      cases there_found
      exact differs rfl
    have last_found : (workspace.takenOut place draft.id removed).drafts[other]? =
        some (there.forgetReferencesTo draft.id) := by
      rw [takenOut, getElem?_forgetReferencesTo, List.getElem?_set_ne elsewhere.symm, there_found]
      exact congrArg some (if_pos (OrderedMap.mem_values_iff.mpr
        ⟨there.id, (live_iff _ _).mpr ⟨differs, live⟩⟩))
    exact ⟨there.forgetReferencesTo draft.id, last_found, rfl, live_there⟩
  · intro other last last_found live
    obtain ⟨there, there_found, live_there, differs, rfl⟩ :=
      belongs.live_takenOut_cases found unremoved discarded last_found live
    exact (live_iff _ _).mpr ⟨differs, belongs.live_of_draft other there there_found live_there⟩
  · intro other last last_found live
    obtain ⟨there, there_found, live_there, differs, rfl⟩ :=
      belongs.live_takenOut_cases found unremoved discarded last_found live
    obtain ⟨project, project_found, related⟩ := belongs.related other there there_found live_there
    refine ⟨Snapshot.cutOff draft.id project, ?_, forgot related⟩
    show (workspace.takenOut place draft.id removed).snapshot.project? there.id = _
    rw [project?_eq, if_neg differs, project_found]
    rfl
  · intro id project project_found
    rw [project?_eq] at project_found
    split at project_found
    · cases project_found
    · rename_i differs
      obtain ⟨old, old_found, _⟩ := Option.map_eq_some_iff.mp project_found
      obtain ⟨there, live⟩ := belongs.live_of_project id old old_found
      exact ⟨there, (live_iff id there).mpr ⟨differs, live⟩⟩

/-- A project that is taken out was there, and all that is left of it is a draft that is done
with. -/
theorem Belongs.takeOut_cases (belongs : workspace.Belongs comparison relation) {place : Nat}
    {id : ProjectId} {draft : Draft} {removed : Session}
    (live : workspace.live.get? id = some place) (found : workspace.drafts[place]? = some draft)
    (done : { host := workspace.host, draft : Session }.removeProject = (.ok (), removed)) :
    draft.id = id ∧ draft.removed = false ∧ removed.draft = draft.discard.2 ∧
      removed.host.comparison = workspace.host.comparison ∧
      ∃ taken, workspace.snapshot.removeProject draft.id = .ok taken ∧
        removed.current = taken.withVersion (workspace.snapshot.version + 1) := by
  obtain ⟨there, there_found, id_eq, unremoved⟩ := belongs.draft_of_live id place live
  rw [found] at there_found
  cases there_found
  rcases Session.removeProject_cases { host := workspace.host, draft } unremoved with
    ⟨failure, failed⟩ | ⟨reached, taken, succeeded, completed, current, comparison_eq, discarded⟩
  · rw [done] at failed
    cases failed
  · rw [done] at succeeded
    cases succeeded
    exact ⟨id_eq, unremoved, discarded, comparison_eq, taken, completed, current⟩

/-! ## What lasts -/

/-- A relation that nothing breaks is kept by every change. -/
theorem Belongs.change (lasting : Draft.Lasting comparison relation)
    (belongs : workspace.Belongs comparison relation) (change : Change workspace drawn next) :
    next.Belongs comparison relation := by
  cases change with
  | around ground drafts live =>
    exact belongs.of_same (congrArg OutputIndex.comparison ground.outputs) ground.current drafts
      live
  | @worked place draft found operation =>
    obtain ⟨_, _, proceeds⟩ :=
      Session.operate_proceeds { host := workspace.host, draft } operation
    exact belongs.worked found proceeds fun related moves => lasting.moves moves related
  | putIn absent current => exact belongs.putIn (lasting.created _) absent current
  | takeOut live found done =>
    obtain ⟨rfl, unremoved, discarded, comparison_eq, taken, completed, current⟩ :=
      belongs.takeOut_cases live found done
    exact belongs.takeOut found unremoved completed current comparison_eq discarded
      (lasting.forgot _)

/-- A workspace without projects, whose store may refuse any attempt. -/
def starting (comparison : PathComparison) (watcher : Watcher) (editor : Editor)
    (refusals : Nat → Option String) : Workspace :=
  { host := { store := { refusals }, outputs := .empty comparison, watcher, editor } }

theorem belongs_starting (comparison : PathComparison) (relation : Project → Draft → Prop)
    (watcher : Watcher) (editor : Editor) (refusals : Nat → Option String) :
    (starting comparison watcher editor refusals).Belongs comparison relation where
  comparison_eq := rfl
  keyed _ _ found := by cases found
  draft_of_live _ _ live := by cases live
  live_of_draft _ _ found := by cases found
  related _ _ found := by cases found
  live_of_project _ _ found := by cases found

/-- A relation that nothing breaks holds in every workspace that can be reached. -/
theorem belongs_run (lasting : Draft.Lasting comparison relation) (watcher : Watcher)
    (editor : Editor) (refusals : Nat → Option String) (commands : List Command) :
    ((starting comparison watcher editor refusals).run commands).Belongs comparison relation :=
  run_of_change _ (fun belongs change => belongs.change lasting change)
    (belongs_starting comparison relation watcher editor refusals) commands

/-! ## What lasts as long as every document is introduced once -/

theorem Keeps.mono {more : List DocumentId} (keeps : workspace.Keeps comparison relation known)
    (subset : known ⊆ more) : workspace.Keeps comparison relation more :=
  { keeps with
    known_ids := fun place draft found id id_mem =>
      subset (keeps.known_ids place draft found id id_mem) }

/-- Drafts know no documents but those that were known at their places before, and some that have
been introduced at one place. -/
def Introduced (before after : List Draft) (place : Nat) (drawn : List DocumentId) : Prop :=
  ∀ (other : Nat) there, after[other]? = some there → ∀ id ∈ there.ids,
    (∃ old, before[other]? = some old ∧ id ∈ old.ids) ∨ id ∈ drawn ∧ other = place

theorem Keeps.introduced (keeps : workspace.Keeps comparison relation known)
    (belongs : next.Belongs comparison relation) {place : Nat}
    (introduced : Introduced workspace.drafts next.drafts place drawn)
    (fresh : ∀ id ∈ drawn, id ∉ known) : next.Keeps comparison relation (known ++ drawn) := by
  refine { belongs with known_ids := ?_, apart := ?_ }
  · intro other there there_found id id_mem
    rcases introduced other there there_found id id_mem with ⟨old, old_found, old_mem⟩ | ⟨new, _⟩
    · exact List.mem_append_left _ (keeps.known_ids other old old_found id old_mem)
    · exact List.mem_append_right _ new
  · intro one other draft there draft_found there_found id id_mem id_there
    rcases introduced one draft draft_found id id_mem with
      ⟨old, old_found, old_mem⟩ | ⟨new, at_one⟩
    · rcases introduced other there there_found id id_there with
        ⟨old_there, old_there_found, old_there_mem⟩ | ⟨new, _⟩
      · exact keeps.apart one other old old_there old_found old_there_found id old_mem
          old_there_mem
      · exact absurd (keeps.known_ids one old old_found id old_mem) (fresh id new)
    · rcases introduced other there there_found id id_there with
        ⟨old_there, old_there_found, old_there_mem⟩ | ⟨_, at_other⟩
      · exact absurd (keeps.known_ids other old_there old_there_found id old_there_mem)
          (fresh id new)
      · exact at_one.trans at_other.symm

theorem Keeps.introduced_nothing (keeps : workspace.Keeps comparison relation known)
    (belongs : next.Belongs comparison relation) {place : Nat}
    (introduced : Introduced workspace.drafts next.drafts place []) :
    next.Keeps comparison relation known := by
  have kept := keeps.introduced belongs introduced fun _ drawn => absurd drawn List.not_mem_nil
  rwa [List.append_nil] at kept

theorem Belongs.introduced_worked (belongs : workspace.Belongs comparison relation) {place : Nat}
    {draft : Draft} (found : workspace.drafts[place]? = some draft) {after : Session}
    (proceeds : Session.Proceeds drawn { host := workspace.host, draft } after) :
    Introduced workspace.drafts (workspace.worked place after).drafts place drawn := by
  have ids_subset : ∀ id ∈ after.draft.ids, id ∈ draft.ids ∨ id ∈ drawn := by
    intro id id_mem
    cases removed : draft.removed with
    | true => exact Or.inl ((proceeds.removed removed).2.2.2 ▸ id_mem)
    | false =>
      obtain ⟨project, project_found, _⟩ := belongs.related place draft found removed
      obtain ⟨_, moves, _⟩ := (proceeds.live removed).moves project belongs.keyed project_found
      exact moves.ids_subset id_mem
  intro other there there_found id id_mem
  rcases getElem?_set_cases there_found with ⟨rfl, rfl⟩ | ⟨_, there_found⟩
  · exact (ids_subset id id_mem).imp (fun old => ⟨draft, found, old⟩) fun introduced =>
      ⟨introduced, rfl⟩
  · exact Or.inl ⟨there, there_found, id_mem⟩

theorem introduced_putIn (info : ProjectInfo) (store : Store) :
    Introduced workspace.drafts (workspace.putIn info store).drafts 0 [] := by
  intro place draft found id id_mem
  rcases getElem?_concat_cases found with old | ⟨_, rfl⟩
  · exact Or.inl ⟨draft, old, id_mem⟩
  · cases id_mem

theorem Belongs.introduced_takenOut (belongs : workspace.Belongs comparison relation)
    {place : Nat} {draft : Draft} (found : workspace.drafts[place]? = some draft)
    (unremoved : draft.removed = false) {removed : Session}
    (discarded : removed.draft = draft.discard.2) :
    Introduced workspace.drafts (workspace.takenOut place draft.id removed).drafts place [] := by
  intro other last last_found id id_mem
  rcases belongs.takenOut_cases found unremoved discarded last_found with
    ⟨rfl, _, ids_eq⟩ | ⟨there, there_found, _, ⟨_, rfl⟩ | ⟨_, _, ids_eq⟩⟩
  · rw [ids_eq, draft.ids_discard] at id_mem
    cases id_mem
  · exact Or.inl ⟨there, there_found, id_mem⟩
  · exact Or.inl ⟨there, there_found, ids_eq ▸ id_mem⟩

/-- Whatever proceeds on one draft keeps a relation that is kept on each draft. -/
theorem Keeps.proceeds (kept : Draft.Kept comparison relation)
    (keeps : workspace.Keeps comparison relation known) {place : Nat} {draft : Draft}
    (found : workspace.drafts[place]? = some draft) {after : Session}
    (proceeds : Session.Proceeds drawn { host := workspace.host, draft } after)
    (distinct : drawn.Nodup) (fresh : ∀ id ∈ drawn, id ∉ known) :
    (workspace.worked place after).Keeps comparison relation (known ++ drawn) := by
  have belongs := keeps.worked found proceeds fun related moves =>
    moves.keep kept.moved distinct (fun id id_mem own =>
      fresh id id_mem (keeps.known_ids place draft found id own)) related
  exact keeps.introduced belongs (keeps.introduced_worked found proceeds) fresh

/-- A relation that is kept on each draft is kept by every change that introduces new
documents. -/
theorem Keeps.change (kept : Draft.Kept comparison relation)
    (keeps : workspace.Keeps comparison relation known) (change : Change workspace drawn next)
    (distinct : drawn.Nodup) (fresh : ∀ id ∈ drawn, id ∉ known) :
    next.Keeps comparison relation (known ++ drawn) := by
  cases change with
  | around ground drafts live =>
    have nothing : Introduced workspace.drafts next.drafts 0 [] :=
      fun _ there there_found _ id_mem => Or.inl ⟨there, drafts ▸ there_found, id_mem⟩
    rw [List.append_nil]
    exact keeps.introduced_nothing (keeps.of_same
      (congrArg OutputIndex.comparison ground.outputs) ground.current drafts live) nothing
  | @worked place draft found operation =>
    obtain ⟨drawn, drawn_sub, proceeds⟩ :=
      Session.operate_proceeds { host := workspace.host, draft } operation
    have introduced := keeps.proceeds kept found proceeds (distinct.sublist drawn_sub)
      fun id id_mem => fresh id (drawn_sub.subset id_mem)
    exact introduced.mono (List.append_subset.mpr ⟨List.subset_append_left _ _,
      List.subset_append_of_subset_right _ drawn_sub.subset⟩)
  | putIn absent current =>
    rw [List.append_nil]
    exact keeps.introduced_nothing (keeps.putIn (kept.created _) absent current)
      (introduced_putIn _ _)
  | takeOut live found done =>
    obtain ⟨rfl, unremoved, discarded, comparison_eq, taken, completed, current⟩ :=
      keeps.takeOut_cases live found done
    rw [List.append_nil]
    exact keeps.introduced_nothing
      (keeps.takeOut found unremoved completed current comparison_eq discarded (kept.forgot _))
      (keeps.introduced_takenOut found unremoved discarded)

theorem Keeps.changes (kept : Draft.Kept comparison relation)
    (keeps : workspace.Keeps comparison relation known) (changes : Changes drawn workspace next)
    (distinct : drawn.Nodup) (fresh : ∀ id ∈ drawn, id ∉ known) :
    next.Keeps comparison relation (known ++ drawn) := by
  induction changes generalizing known with
  | refl =>
    rw [List.append_nil]
    exact keeps
  | step change _ ih =>
    obtain ⟨first_distinct, later_distinct, apart⟩ := List.nodup_append.mp distinct
    have first := keeps.change kept change first_distinct fun id id_mem =>
      fresh id (List.mem_append_left _ id_mem)
    rw [← List.append_assoc]
    refine ih first later_distinct fun id id_mem known => ?_
    rcases List.mem_append.mp known with old | introduced
    · exact fresh id (List.mem_append_right _ id_mem) old
    · exact apart id introduced id id_mem rfl

/-- A relation that is kept on each draft is kept by every command that introduces new documents. -/
theorem Keeps.command (kept : Draft.Kept comparison relation)
    (keeps : workspace.Keeps comparison relation known) {command : Command}
    (distinct : command.drawn.Nodup) (fresh : ∀ id ∈ command.drawn, id ∉ known) :
    (workspace.step command).2.Keeps comparison relation (known ++ command.drawn) := by
  obtain ⟨drawn, drawn_sub, changes⟩ := workspace.changes_step command
  have next := keeps.changes kept changes (distinct.sublist drawn_sub) fun id id_mem =>
    fresh id (drawn_sub.subset id_mem)
  exact next.mono (List.append_subset.mpr ⟨List.subset_append_left _ _,
    List.subset_append_of_subset_right _ drawn_sub.subset⟩)

/-- A relation that is kept on each draft is kept by every run that introduces each document
once. -/
theorem keeps_run (kept : Draft.Kept comparison relation)
    (keeps : workspace.Keeps comparison relation known) (commands : List Command)
    (distinct : (known ++ commands.flatMap Command.drawn).Nodup) :
    (workspace.run commands).Keeps comparison relation
      (known ++ commands.flatMap Command.drawn) := by
  induction commands generalizing workspace known with
  | nil =>
    rw [List.flatMap_nil, List.append_nil]
    exact keeps
  | cons command rest ih =>
    rw [List.flatMap_cons, ← List.append_assoc] at distinct ⊢
    obtain ⟨first_distinct, _⟩ := List.nodup_append.mp distinct
    obtain ⟨_, drawn_distinct, apart⟩ := List.nodup_append.mp first_distinct
    exact ih (keeps.command kept drawn_distinct fun id drawn known => apart id known id drawn rfl)
      distinct

theorem keeps_starting (comparison : PathComparison) (relation : Project → Draft → Prop)
    (watcher : Watcher) (editor : Editor) (refusals : Nat → Option String) :
    (starting comparison watcher editor refusals).Keeps comparison relation [] where
  toBelongs := belongs_starting comparison relation watcher editor refusals
  known_ids _ _ found := by cases found
  apart _ _ _ _ found := by cases found

end Workspace

end CodeWorkspace
