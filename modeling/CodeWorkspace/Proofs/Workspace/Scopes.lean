import CodeWorkspace.Proofs.Session.Submission
import CodeWorkspace.Proofs.Session.Waiting

/-!
# Scopes and commits

How many batches of a draft are open is the number of its scopes that are not released, in whatever
order they are.  While a batch is open nothing is committed for the project except reloads of its
documents and its removal; the release that closes the outermost batch attempts a single commit, if
anything waits, and no other release attempts any.
-/

namespace CodeWorkspace

/-- Whether a command reports a change of a file. -/
def Command.isReport : Command → Bool
  | .edit _ (.fileChanged _) | .dispatch _ | .raise _ => true
  | _ => false

/-- What of a draft is changed by opening and closing batches and by removing the project only. -/
def Draft.spine (draft : Draft) : ProjectId × Bool × BatchCounter :=
  (draft.id, draft.removed, draft.batches)

namespace Session

variable {session before after : Session}

theorem Works.spine_eq (works : Works before after) : after.draft.spine = before.draft.spine := by
  rw [Draft.spine, Draft.spine, works.identity.id_eq, works.identity.removed_eq, works.batches]

/-- Removing a live project submits its removal, and closes the draft if that is committed. -/
theorem removeProject_submits (session : Session) (live : session.draft.removed = false) :
    session.removeProject.2.host.store = (session.host.store.transform session.draft.id
        fun snapshot => snapshot.removeProject session.draft.id).2 ∧
      (session.removeProject.1 = .ok () ∧
          session.removeProject.2.draft.spine = (session.draft.id, true, session.draft.batches) ∨
        (∃ failure, session.removeProject.1 = .error failure) ∧
          session.removeProject.2.draft = session.draft) := by
  have present : ¬ session.draft.removed = true := Bool.eq_false_iff.mp live
  rw [removeProject, if_neg present]
  simp only [transform]
  generalize session.host.store.transform session.draft.id _ = outcome
  obtain ⟨result, store⟩ := outcome
  cases result with
  | error error => exact ⟨rfl, Or.inr ⟨⟨_, rfl⟩, rfl⟩⟩
  | ok done => exact ⟨rfl, Or.inl ⟨rfl, rfl⟩⟩

end Session

namespace Workspace

variable {workspace before between after : Workspace} {place : Nat} {draft : Draft}
  {id : ProjectId} {command : Command}

/-- The number of scopes of a draft that are not released. -/
def openScopes (workspace : Workspace) (place : Nat) : Nat :=
  workspace.scopes.countP fun scope => scope.draft = place && !scope.released

/-- Whether a batch of the draft at a place is open. -/
def isBatchingAt (workspace : Workspace) (place : Nat) : Bool :=
  (workspace.drafts[place]?).any Draft.isBatching

/-- The draft whose outermost batch is closed when a scope is released, if the project is live and
anything waits in it. -/
def closing? (workspace : Workspace) (number : Nat) : Option Draft :=
  (workspace.scopes[number]?.filter fun scope => !scope.released).bind fun scope =>
    workspace.drafts[scope.draft]?.filter fun draft =>
      draft.batches.depth = 1 && !draft.removed && draft.hasPending

/-! ## Drafts and their scopes -/

/-- The live drafts are those that are listed as such, and each draft has as many open batches as
there are scopes of it that are not released. -/
structure Coherent (workspace : Workspace) : Prop where
  draft_of_live : ∀ id place, workspace.live.get? id = some place →
    ∃ draft, workspace.drafts[place]? = some draft ∧ draft.id = id ∧ draft.removed = false
  live_of_draft : ∀ (place : Nat) draft, workspace.drafts[place]? = some draft →
    draft.removed = false → workspace.live.get? draft.id = some place
  draft_of_scope : ∀ scope ∈ workspace.scopes,
    ∃ draft, workspace.drafts[scope.draft]? = some draft
  depth_eq : ∀ (place : Nat) draft, workspace.drafts[place]? = some draft →
    draft.batches.depth = workspace.openScopes place

theorem coherent_begun (host : Host) : Coherent { host } where
  draft_of_live _ _ live := by cases live
  live_of_draft _ _ found := by cases found
  draft_of_scope _ scope_mem := by cases scope_mem
  depth_eq _ _ found := by cases found

/-- The same live drafts and scopes, and drafts with the same batches. -/
structure SameSpines (before after : Workspace) : Prop where
  spines : ∀ place : Nat,
    (after.drafts[place]?).map Draft.spine = (before.drafts[place]?).map Draft.spine
  live : after.live = before.live
  scopes : after.scopes = before.scopes

theorem SameSpines.of_drafts (drafts : after.drafts = before.drafts)
    (live : after.live = before.live) (scopes : after.scopes = before.scopes) :
    SameSpines before after := ⟨fun place => by rw [drafts], live, scopes⟩

theorem SameSpines.trans (first : SameSpines before between) (second : SameSpines between after) :
    SameSpines before after :=
  ⟨fun place => (second.spines place).trans (first.spines place), second.live.trans first.live,
    second.scopes.trans first.scopes⟩

theorem SameSpines.of_found (same : SameSpines before after)
    (found : after.drafts[place]? = some draft) :
    ∃ old, before.drafts[place]? = some old ∧ old.spine = draft.spine := by
  have spines := same.spines place
  rw [found] at spines
  exact Option.map_eq_some_iff.mp spines.symm

theorem sameSpines_worked {reached : Session} (found : workspace.drafts[place]? = some draft)
    (spine_eq : reached.draft.spine = draft.spine) :
    SameSpines workspace (workspace.worked place reached) := by
  refine ⟨fun other => ?_, rfl, rfl⟩
  show ((workspace.drafts.set place reached.draft)[other]?).map Draft.spine = _
  by_cases same : place = other
  · subst same
    rw [List.getElem?_set_self (List.getElem?_eq_some_iff.mp found).1, found, Option.map_some,
      Option.map_some, spine_eq]
  · rw [List.getElem?_set_ne same]

theorem Coherent.of_same (coherent : workspace.Coherent) (same : SameSpines workspace after) :
    after.Coherent where
  draft_of_live id place live := by
    rw [same.live] at live
    obtain ⟨old, found, id_eq, removed_eq⟩ := coherent.draft_of_live id place live
    have spines := same.spines place
    rw [found] at spines
    obtain ⟨draft, draft_found, spine_eq⟩ := Option.map_eq_some_iff.mp spines
    simp only [Draft.spine, Prod.mk.injEq] at spine_eq
    exact ⟨draft, draft_found, spine_eq.1.trans id_eq, spine_eq.2.1.trans removed_eq⟩
  live_of_draft place draft found live := by
    obtain ⟨old, old_found, spine_eq⟩ := same.of_found found
    simp only [Draft.spine, Prod.mk.injEq] at spine_eq
    rw [same.live, ← spine_eq.1]
    exact coherent.live_of_draft place old old_found (spine_eq.2.1.trans live)
  draft_of_scope scope scope_mem := by
    rw [same.scopes] at scope_mem
    obtain ⟨old, found⟩ := coherent.draft_of_scope scope scope_mem
    have spines := same.spines scope.draft
    rw [found] at spines
    obtain ⟨draft, draft_found, _⟩ := Option.map_eq_some_iff.mp spines
    exact ⟨draft, draft_found⟩
  depth_eq place draft found := by
    obtain ⟨old, old_found, spine_eq⟩ := same.of_found found
    simp only [Draft.spine, Prod.mk.injEq] at spine_eq
    rw [openScopes, same.scopes, ← spine_eq.2.2]
    exact coherent.depth_eq place old old_found

/-- Two live drafts of one project are the same. -/
theorem Coherent.place_eq (coherent : workspace.Coherent) {other : Nat} {there : Draft}
    (found : workspace.drafts[place]? = some draft) (live : draft.removed = false)
    (there_found : workspace.drafts[other]? = some there) (live_there : there.removed = false)
    (same : there.id = draft.id) : other = place := by
  have listed := coherent.live_of_draft other there there_found live_there
  rw [same, coherent.live_of_draft place draft found live] at listed
  exact (Option.some.inj listed).symm

/-! ## What a command submits -/

/-- What a command may submit to the store, and on behalf of which project. -/
def Submits (workspace : Workspace) (command : Command) (project : ProjectId)
    (change : Snapshot → Except Fault Snapshot) : Prop :=
  match command with
  | .createProject info => project = info.id ∧ workspace.live.get? info.id = none
  | .removeProject id => project = id ∧ change = fun snapshot => snapshot.removeProject id
  | .edit _ (.fileChanged _) | .dispatch _ | .raise _ => Store.Reloads project change
  | .edit place _ => ∃ draft, workspace.drafts[place]? = some draft ∧ draft.removed = false ∧
      draft.isBatching = false ∧ project = draft.id
  | .releaseScope number => ∃ draft, workspace.closing? number = some draft ∧ project = draft.id
  | _ => False

theorem createProject_attempts (workspace : Workspace) (info : ProjectInfo) :
    workspace.host.store.Attempts (workspace.Submits (.createProject info))
      (workspace.createProject info).2.host.store := by
  rw [createProject]
  split
  · exact .refl _
  · split
    · exact .refl _
    · rename_i absent
      have unlisted : workspace.live.get? info.id = none := by
        simpa [← OrderedMap.isSome_get?] using absent
      have once : workspace.host.store.Attempts (workspace.Submits (.createProject info))
          (workspace.host.store.transform info.id fun snapshot => snapshot.addProject info).2 :=
        .once ⟨rfl, unlisted⟩ _
      simp only
      generalize workspace.host.store.transform info.id _ = outcome at once
      obtain ⟨result, store⟩ := outcome
      cases result with
      | error error => exact once
      | ok done => exact once

theorem Coherent.store_removeProject (coherent : workspace.Coherent)
    (live : workspace.live.get? id = some place) :
    (workspace.removeProject id).2.host.store = (workspace.host.store.transform id
      fun snapshot => snapshot.removeProject id).2 := by
  obtain ⟨draft, found, rfl, unremoved⟩ := coherent.draft_of_live id place live
  have submits := (Session.removeProject_submits { host := workspace.host, draft } unremoved).1
  simp only [Workspace.removeProject, live, onDraft, found]
  generalize Session.removeProject { host := workspace.host, draft } = outcome at submits
  obtain ⟨result, reached⟩ := outcome
  cases result with
  | error failure => exact submits
  | ok done => exact submits

theorem Coherent.removeProject_attempts (coherent : workspace.Coherent) (id : ProjectId) :
    workspace.host.store.Attempts (workspace.Submits (.removeProject id))
      (workspace.removeProject id).2.host.store := by
  cases live : workspace.live.get? id with
  | none =>
    simp only [Workspace.removeProject, live]
    exact .refl _
  | some place =>
    rw [coherent.store_removeProject live]
    exact .once ⟨rfl, rfl⟩ _

theorem edit_attempts (workspace : Workspace) (place : Nat) (edit : Edit) :
    workspace.host.store.Attempts (workspace.Submits (.edit place edit))
      (workspace.step (.edit place edit)).2.host.store := by
  cases found : workspace.drafts[place]? with
  | none =>
    simp only [step, onDraft, found]
    exact .refl _
  | some draft =>
    rw [step_edit found]
    show workspace.host.store.Attempts _
      (Session.perform { host := workspace.host, draft } edit).2.host.store
    by_cases reported : ∃ path, edit = .fileChanged path
    · obtain ⟨path, rfl⟩ := reported
      have attempts := (Session.fileChanged_attempts { host := workspace.host, draft } path).2.2
      exact attempts.mono fun _ _ proper => proper.2
    · have unreported : ∀ path, edit ≠ .fileChanged path := fun path same => reported ⟨path, same⟩
      have submits {project : ProjectId} {change : Snapshot → Except Fault Snapshot}
          (proper : ∃ draft, workspace.drafts[place]? = some draft ∧ draft.removed = false ∧
            draft.isBatching = false ∧ project = draft.id) :
          workspace.Submits (.edit place edit) project change := by
        cases edit with
        | fileChanged path => exact absurd rfl (unreported path)
        | _ => exact proper
      cases removed : draft.removed with
      | true =>
        rw [Session.perform_of_removed removed]
        exact .refl _
      | false =>
        cases batching : draft.isBatching with
        | true =>
          rw [Session.store_perform_of_batching batching unreported]
          exact .refl _
        | false =>
          have attempts := (Session.perform_works { host := workspace.host, draft } edit).attempts
          exact attempts.mono fun project _ same => submits ⟨draft, found, removed, batching, same⟩

theorem store_openScope (workspace : Workspace) (place : Nat) :
    (workspace.openScope place).2.host.store = workspace.host.store := by
  have opened : (workspace.onDraft place (.ok 0) Session.beginBatch).2.host.store =
      workspace.host.store := by
    rw [onDraft]
    split
    · rfl
    · simp only [Session.beginBatch]
      split <;> rfl
  simp only [openScope]
  split
  · exact opened
  · exact opened

/-- What is attempted when a scope is released: a single commit if the scope closes the outermost
batch of a live project in which something waits, and nothing otherwise. -/
theorem store_releaseScope (workspace : Workspace) (number : Nat) :
    (workspace.releaseScope number).2.host.store =
      match workspace.closing? number with
      | none => workspace.host.store
      | some draft => (workspace.host.store.transform draft.id fun snapshot =>
          Transition.applyAll draft.id snapshot (draft.plan workspace.host.outputs snapshot)).2 := by
  rw [releaseScope, closing?]
  cases scope_found : workspace.scopes[number]? with
  | none => rfl
  | some scope =>
    cases released : scope.released with
    | true => simp [Option.filter_some, released]
    | false =>
      simp only [Option.filter_some, released, Bool.not_false, if_true, Option.bind_some, onDraft]
      cases found : workspace.drafts[scope.draft]? with
      | none => rfl
      | some draft =>
        simp only [Bool.false_eq_true, if_false, Option.filter_some]
        rw [Session.store_endBatch]
        by_cases closes : draft.batches.depth = 1 ∧ draft.removed = false ∧
            draft.hasPending = true
        · simp [closes]
        · rw [if_neg closes, if_neg (by simpa [and_assoc] using closes)]

/-! ## Reports of changes -/

/-- After reports of changes of files, drafts have the same batches, and nothing but reloads was
submitted. -/
structure Told (before after : Workspace) : Prop extends SameSpines before after where
  attempts : before.host.store.Attempts Store.Reloads after.host.store

theorem Told.refl (workspace : Workspace) : Told workspace workspace :=
  ⟨.of_drafts rfl rfl rfl, .refl _⟩

theorem Told.trans (first : Told before between) (second : Told between after) :
    Told before after :=
  ⟨first.toSameSpines.trans second.toSameSpines, first.attempts.trans second.attempts⟩

theorem told_fileChanged {α : Type} (workspace : Workspace) (place : Nat) (absent : α)
    (work : Session → α × Session) (path : String)
    (reports : ∀ session : Session, (work session).2 = (session.fileChanged path).2) :
    Told workspace (workspace.onDraft place absent work).2 := by
  rw [onDraft]
  split
  · exact .refl workspace
  · rename_i draft found
    simp only [reports]
    obtain ⟨identity, batches, attempts⟩ :=
      Session.fileChanged_attempts { host := workspace.host, draft } path
    have works : Session.Works { host := workspace.host, draft }
        (Session.fileChanged { host := workspace.host, draft } path).2 :=
      ⟨identity, batches, attempts.mono fun _ _ proper => proper.1⟩
    exact ⟨sameSpines_worked found works.spine_eq, attempts.mono fun _ _ proper => proper.2⟩

theorem told_dispatchTo (workspace : Workspace) (path : String) (places : List Nat) :
    Told workspace (workspace.dispatchTo path places).2 := by
  induction places generalizing workspace with
  | nil => exact .refl workspace
  | cons place rest ih =>
    have told := workspace.told_fileChanged place (.ok false)
      (fun session => session.fileChanged path) path fun _ => rfl
    simp only [dispatchTo]
    split <;> exact told.trans (ih _)

theorem told_pump (workspace : Workspace) (paths : List String) :
    Told workspace (workspace.pump paths) := by
  induction paths generalizing workspace with
  | nil => exact .refl workspace
  | cons path rest ih => exact (workspace.told_dispatchTo path workspace.live.values).trans (ih _)

theorem told_raise (workspace : Workspace) (path : String) :
    Told workspace (workspace.raise path).2 := by
  have seen : Told workspace (workspace.withHost { workspace.host with
      watcher := (workspace.host.watcher.raise path).receiveAll.2 }) :=
    ⟨.of_drafts rfl rfl rfl, .refl _⟩
  exact seen.trans (told_pump _ _)

/-- A command submits nothing but what it may submit. -/
theorem Coherent.step_attempts (coherent : workspace.Coherent) {command : Command}
    (accepting : ∀ reason?, command ≠ .refuse reason?) :
    workspace.host.store.Attempts (workspace.Submits command)
      (workspace.step command).2.host.store := by
  cases command with
  | createProject info => exact workspace.createProject_attempts info
  | removeProject id => exact coherent.removeProject_attempts id
  | edit place edit => exact workspace.edit_attempts place edit
  | openScope place =>
    show Store.Attempts _ _ (workspace.openScope place).2.host.store
    rw [store_openScope]
    exact .refl _
  | releaseScope number =>
    show Store.Attempts _ _ (workspace.releaseScope number).2.host.store
    rw [store_releaseScope]
    cases closes : workspace.closing? number with
    | none => exact .refl _
    | some draft => exact .once ⟨draft, closes, rfl⟩ _
  | dispatch path => exact (workspace.told_dispatchTo path _).attempts
  | raise path => exact (workspace.told_raise path).attempts
  | refuse reason? => exact absurd rfl (accepting reason?)
  | openPath path => exact .refl _
  | closePath path => exact .refl _

/-! ## Keeping drafts and scopes coherent -/

theorem Coherent.createProject (coherent : workspace.Coherent) (info : ProjectInfo) :
    (workspace.createProject info).2.Coherent := by
  rcases workspace.createProject_cases info with
    ⟨_, failed⟩ | ⟨_, failed⟩ | ⟨store, created, _, absent, _⟩
  · rw [failed]
    exact coherent
  · rw [failed]
    exact coherent.of_same (.of_drafts rfl rfl rfl)
  · rw [created]
    have known {place : Nat} {draft : Draft} (found : workspace.drafts[place]? = some draft) :
        (workspace.putIn info store).drafts[place]? = some draft := by
      show (workspace.drafts ++ _)[place]? = some draft
      rw [List.getElem?_append_left (List.getElem?_eq_some_iff.mp found).1, found]
    refine ⟨fun id place live => ?_, fun place draft found live => ?_, fun scope scope_mem => ?_,
      fun place draft found => ?_⟩
    · change (workspace.live.insert info.id workspace.drafts.length).get? id = some place at live
      rw [OrderedMap.get?_insert] at live
      split at live
      · rename_i same
        cases live
        exact ⟨.ofInfo workspace.host.comparison info, List.getElem?_concat_length, same.symm, rfl⟩
      · obtain ⟨draft, found, identity⟩ := coherent.draft_of_live id place live
        exact ⟨draft, known found, identity⟩
    · show (workspace.live.insert info.id workspace.drafts.length).get? draft.id = some place
      rw [OrderedMap.get?_insert]
      rcases getElem?_concat_cases found with old | ⟨rfl, rfl⟩
      · have listed := coherent.live_of_draft place draft old live
        have differs : draft.id ≠ info.id := fun same => by
          rw [same, absent] at listed
          cases listed
        rw [if_neg differs]
        exact listed
      · exact if_pos rfl
    · obtain ⟨draft, found⟩ := coherent.draft_of_scope scope scope_mem
      exact ⟨draft, known found⟩
    · rcases getElem?_concat_cases found with old | ⟨rfl, rfl⟩
      · exact coherent.depth_eq place draft old
      · have unscoped : workspace.openScopes workspace.drafts.length = 0 := by
          rw [openScopes, List.countP_eq_zero]
          intro scope scope_mem
          obtain ⟨draft, draft_found⟩ := coherent.draft_of_scope scope scope_mem
          have within := (List.getElem?_eq_some_iff.mp draft_found).1
          simp [Nat.ne_of_lt within]
        exact unscoped.symm

theorem Coherent.removeProject (coherent : workspace.Coherent) (id : ProjectId) :
    (workspace.removeProject id).2.Coherent := by
  rw [Workspace.removeProject]
  cases live : workspace.live.get? id with
  | none => exact coherent
  | some place =>
    obtain ⟨draft, found, rfl, unremoved⟩ := coherent.draft_of_live id place live
    have submits := (Session.removeProject_submits { host := workspace.host, draft } unremoved).2
    simp only [onDraft, found]
    generalize Session.removeProject { host := workspace.host, draft } = outcome at submits
    obtain ⟨result, reached⟩ := outcome
    rcases submits with ⟨rfl, spine_eq⟩ | ⟨⟨failure, rfl⟩, draft_eq⟩
    · let done : Workspace := { (workspace.worked place reached) with
        live := workspace.live.erase draft.id }
      have forgotten : SameSpines done (done.forgetReferencesTo draft.id) := by
        refine ⟨fun other => ?_, rfl, rfl⟩
        rw [getElem?_forgetReferencesTo, Option.map_map]
        refine congrArg (Option.map · _) (funext fun there => ?_)
        simp only [Function.comp_apply]
        split <;> rfl
      have at_place : done.drafts[place]? = some reached.draft :=
        List.getElem?_set_self (List.getElem?_eq_some_iff.mp found).1
      have elsewhere {other : Nat} (differs : other ≠ place) :
          done.drafts[other]? = workspace.drafts[other]? := List.getElem?_set_ne differs.symm
      obtain ⟨_, gone, batches_eq⟩ : reached.draft.id = draft.id ∧ reached.draft.removed = true ∧
          reached.draft.batches = draft.batches := by
        simpa only [Draft.spine, Prod.mk.injEq] using spine_eq
      have coherent_done : done.Coherent := by
        refine ⟨fun id other live => ?_, fun other there there_found live => ?_,
          fun scope scope_mem => ?_, fun other there there_found => ?_⟩
        · change (workspace.live.erase draft.id).get? id = some other at live
          rw [OrderedMap.get?_erase] at live
          split at live
          · cases live
          · rename_i differs
            obtain ⟨there, there_found, id_eq, live_there⟩ := coherent.draft_of_live id other live
            refine ⟨there, (elsewhere fun same => ?_).trans there_found, id_eq, live_there⟩
            rw [same, found] at there_found
            cases there_found
            exact differs id_eq.symm
        · show (workspace.live.erase draft.id).get? there.id = some other
          rcases getElem?_set_cases there_found with ⟨_, rfl⟩ | ⟨differs, old⟩
          · rw [gone] at live
            cases live
          · rw [OrderedMap.get?_erase, if_neg fun same =>
              differs (coherent.place_eq found unremoved old live same)]
            exact coherent.live_of_draft other there old live
        · by_cases same : scope.draft = place
          · exact ⟨reached.draft, same ▸ at_place⟩
          · rw [elsewhere same]
            exact coherent.draft_of_scope scope scope_mem
        · rcases getElem?_set_cases there_found with ⟨rfl, rfl⟩ | ⟨_, old⟩
          · rw [batches_eq]
            exact coherent.depth_eq other draft found
          · exact coherent.depth_eq other there old
      exact coherent_done.of_same forgotten
    · exact coherent.of_same (sameSpines_worked found (congrArg Draft.spine draft_eq))

/-- Opening or closing a batch of a draft keeps drafts and scopes coherent if the number of scopes of
the draft that are not released follows. -/
theorem Coherent.rescoped (coherent : workspace.Coherent)
    (found : workspace.drafts[place]? = some draft) {reached : Session}
    (identity : Draft.SameIdentity draft reached.draft) {scopes : List Scope}
    (known : ∀ scope ∈ scopes, scope.draft = place ∨ ∃ old ∈ workspace.scopes,
      old.draft = scope.draft)
    (next_eq : after = { (workspace.worked place reached) with scopes })
    (depth_eq : reached.draft.batches.depth = after.openScopes place)
    (others : ∀ other, other ≠ place → after.openScopes other = workspace.openScopes other) :
    after.Coherent := by
  subst next_eq
  have at_place := getElem?_worked_self found reached
  have elsewhere {other : Nat} (differs : other ≠ place) :
      (workspace.worked place reached).drafts[other]? = workspace.drafts[other]? :=
    getElem?_worked_of_ne differs reached
  refine ⟨fun id other live => ?_, fun other there there_found live => ?_, fun scope scope_mem => ?_,
    fun other there there_found => ?_⟩
  · obtain ⟨there, there_found, id_eq, live_there⟩ := coherent.draft_of_live id other live
    by_cases same : other = place
    · subst same
      rw [found] at there_found
      cases there_found
      exact ⟨reached.draft, at_place, identity.id_eq.trans id_eq,
        identity.removed_eq.trans live_there⟩
    · exact ⟨there, (elsewhere same).trans there_found, id_eq, live_there⟩
  · rcases getElem?_set_cases there_found with ⟨rfl, rfl⟩ | ⟨_, old⟩
    · rw [identity.removed_eq] at live
      rw [identity.id_eq]
      exact coherent.live_of_draft other draft found live
    · exact coherent.live_of_draft other there old live
  · by_cases same : scope.draft = place
    · exact ⟨reached.draft, same ▸ at_place⟩
    · obtain ⟨old, old_mem, draft_eq⟩ := (known scope scope_mem).resolve_left same
      obtain ⟨there, there_found⟩ := coherent.draft_of_scope old old_mem
      rw [draft_eq] at there_found
      exact ⟨there, (elsewhere same).trans there_found⟩
  · rcases getElem?_set_cases there_found with ⟨rfl, rfl⟩ | ⟨differs, old⟩
    · exact depth_eq
    · rw [others other differs]
      exact coherent.depth_eq other there old

theorem openScope_of_live (found : workspace.drafts[place]? = some draft)
    (live : draft.removed = false) :
    workspace.openScope place = (.ok (draft.batches.depth + 1),
      { (workspace.worked place { host := workspace.host
                                  draft := { draft with batches := draft.batches.enter } }) with
        scopes := workspace.scopes ++ [{ draft := place }] }) := by
  have within := (List.getElem?_eq_some_iff.mp found).1
  simp only [Workspace.openScope, onDraft, found, Session.beginBatch, live]
  exact if_pos ⟨rfl, within⟩

theorem openScope_of_removed (found : workspace.drafts[place]? = some draft)
    (removed : draft.removed = true) :
    workspace.openScope place = (.error (.removed draft.id), workspace) := by
  have same : workspace.worked place { host := workspace.host, draft } = workspace :=
    worked_self found
  simp only [Workspace.openScope, onDraft, found, Session.beginBatch, removed, if_true]
  exact congrArg (Except.error (Failure.removed draft.id), ·) same

theorem openScope_of_absent (absent : workspace.drafts[place]? = none) :
    workspace.openScope place = (.ok 0, workspace) := by
  have outside : ¬ place < workspace.drafts.length := by
    simpa using List.getElem?_eq_none_iff.mp absent
  simp only [Workspace.openScope, onDraft, absent]
  exact if_neg fun inside => outside inside.2

theorem Coherent.openScope (coherent : workspace.Coherent) (place : Nat) :
    (workspace.openScope place).2.Coherent := by
  cases found : workspace.drafts[place]? with
  | none =>
    rw [openScope_of_absent found]
    exact coherent
  | some draft =>
    cases removed : draft.removed with
    | true =>
      rw [openScope_of_removed found removed]
      exact coherent
    | false =>
      rw [openScope_of_live found removed]
      refine coherent.rescoped found ⟨rfl, rfl⟩ (fun scope scope_mem => ?_) rfl ?_
        fun other differs => ?_
      · rcases List.mem_append.mp scope_mem with old | added
        · exact Or.inr ⟨scope, old, rfl⟩
        · exact Or.inl (congrArg Scope.draft (List.mem_singleton.mp added))
      · have depth_eq := coherent.depth_eq place draft found
        simp only [openScopes] at depth_eq ⊢
        rw [List.countP_append, ← depth_eq]
        simp [BatchCounter.enter]
      · simp only [openScopes]
        rw [List.countP_append]
        simp [differs.symm]

/-- Releasing a scope that is not released closes a batch of its draft. -/
theorem releaseScope_of_open {number : Nat} (open_scope : workspace.scopes[number]? =
      some { draft := place }) (found : workspace.drafts[place]? = some draft) :
    workspace.releaseScope number =
      (({ host := workspace.host, draft : Session }.endBatch).1,
        { (workspace.worked place { host := workspace.host, draft : Session }.endBatch.2) with
          scopes := workspace.scopes.set number { draft := place, released := true } }) := by
  simp only [Workspace.releaseScope, open_scope, onDraft, found]
  rfl

theorem releaseScope_of_released {number : Nat}
    (closed : ∀ scope, workspace.scopes[number]? = some scope → scope.released = true) :
    workspace.releaseScope number = (.ok (), workspace) := by
  cases scope_found : workspace.scopes[number]? with
  | none => simp only [Workspace.releaseScope, scope_found]
  | some scope =>
    simp only [Workspace.releaseScope, scope_found, closed scope scope_found, if_true]

theorem Coherent.releaseScope (coherent : workspace.Coherent) (number : Nat) :
    (workspace.releaseScope number).2.Coherent := by
  by_cases closed : ∀ scope, workspace.scopes[number]? = some scope → scope.released = true
  · rw [releaseScope_of_released closed]
    exact coherent
  · obtain ⟨⟨place, released⟩, scope_found, unreleased⟩ :
        ∃ scope, workspace.scopes[number]? = some scope ∧ ¬ scope.released = true := by
      simpa using closed
    obtain rfl : released = false := by simpa using unreleased
    obtain ⟨draft, found⟩ := coherent.draft_of_scope _ (List.mem_of_getElem? scope_found)
    obtain ⟨within, at_number⟩ := List.getElem?_eq_some_iff.mp scope_found
    obtain ⟨identity, batches_eq⟩ :=
      Session.endBatch_closes { host := workspace.host, draft }
    rw [releaseScope_of_open scope_found found]
    refine coherent.rescoped found identity (fun scope scope_mem => ?_) rfl ?_
      fun other differs => ?_
    · rcases List.mem_or_eq_of_mem_set scope_mem with old | rfl
      · exact Or.inr ⟨scope, old, rfl⟩
      · exact Or.inl rfl
    · have depth_eq := coherent.depth_eq place draft found
      simp only [openScopes] at depth_eq ⊢
      rw [List.countP_set within, batches_eq, BatchCounter.exit, depth_eq, at_number]
      simp
    · simp only [openScopes]
      rw [List.countP_set within, at_number]
      simp [differs.symm]

theorem Coherent.step (coherent : workspace.Coherent) (command : Command) :
    (workspace.step command).2.Coherent := by
  cases command with
  | createProject info => exact coherent.createProject info
  | removeProject id => exact coherent.removeProject id
  | edit place edit =>
    cases found : workspace.drafts[place]? with
    | none =>
      simp only [Workspace.step, onDraft, found]
      exact coherent
    | some draft =>
      rw [step_edit found]
      exact coherent.of_same
        (sameSpines_worked found (Session.perform_works { host := workspace.host, draft } edit).spine_eq)
  | openScope place => exact coherent.openScope place
  | releaseScope number => exact coherent.releaseScope number
  | dispatch path => exact coherent.of_same (workspace.told_dispatchTo path _).toSameSpines
  | raise path => exact coherent.of_same (workspace.told_raise path).toSameSpines
  | refuse reason? => exact coherent.of_same (.of_drafts rfl rfl rfl)
  | openPath path => exact coherent.of_same (.of_drafts rfl rfl rfl)
  | closePath path => exact coherent.of_same (.of_drafts rfl rfl rfl)

/-! ## The account of a run -/

/-- What is committed by a command for a project in whose draft a batch stays open: nothing unless
the command removes the project, or reports a change of a file and submits reloads only. -/
def Restrained (workspace : Workspace) (command : Command) (project : ProjectId) : Prop :=
  (∃ records, (workspace.step command).2.host.store.log = workspace.host.store.log ++ records ∧
    ∀ record ∈ records, record.project ≠ project) ∨
  command = .removeProject project ∧
    (workspace.step command).2.host.store = (workspace.host.store.transform project
      fun snapshot => snapshot.removeProject project).2 ∨
  command.isReport = true ∧
    workspace.host.store.Attempts Store.Reloads (workspace.step command).2.host.store

/-- What is known of a workspace that began with a store: about its scopes, about the versions that
were logged, and about what the next command attempts. -/
structure Accounted (start : Store) (workspace : Workspace) : Prop where
  /-- The open batches of a draft are its scopes that are not released. -/
  depth_eq : ∀ (place : Nat) draft, workspace.drafts[place]? = some draft →
    draft.batches.depth = workspace.openScopes place
  /-- The logged versions are consecutive, and the snapshot has the last of them. -/
  continues : start.Continues workspace.host.store
  /-- While a batch is open, mutations attempt nothing. -/
  held_back : ∀ (place : Nat) draft, workspace.drafts[place]? = some draft →
    draft.isBatching = true → ∀ edit, (∀ path, edit ≠ .fileChanged path) →
      (workspace.step (.edit place edit)).2.host.store = workspace.host.store
  /-- While a batch of a live project is open, only reloads and its removal are committed for it. -/
  restrained : ∀ (place : Nat) draft, workspace.drafts[place]? = some draft →
    draft.removed = false → draft.isBatching = true → ∀ command,
      (workspace.step command).2.isBatchingAt place = true →
        workspace.Restrained command draft.id
  /-- A release attempts one commit if it closes the outermost batch of a live project in which
  something waits, and none otherwise. -/
  released : ∀ number, (workspace.step (.releaseScope number)).2.host.store =
    match workspace.closing? number with
    | none => workspace.host.store
    | some draft => (workspace.host.store.transform draft.id fun snapshot =>
        Transition.applyAll draft.id snapshot (draft.plan workspace.host.outputs snapshot)).2

/-- A draft whose outermost batch is closed by a scope has no open batch when the scope is
released. -/
theorem not_isBatchingAt_releaseScope {number : Nat} {there : Draft}
    (closes : workspace.closing? number = some there) :
    ∃ place, workspace.drafts[place]? = some there ∧ there.removed = false ∧
      (workspace.releaseScope number).2.isBatchingAt place = false := by
  obtain ⟨⟨place, released⟩, scope_found, draft_found⟩ := Option.bind_eq_some_iff.mp closes
  obtain ⟨scope_found, unreleased⟩ := Option.filter_eq_some_iff.mp scope_found
  obtain ⟨draft_found, outermost⟩ := Option.filter_eq_some_iff.mp draft_found
  obtain rfl : released = false := by simpa using unreleased
  simp only [Bool.and_eq_true, decide_eq_true_eq, Bool.not_eq_true'] at outermost
  obtain ⟨⟨depth_eq, live⟩, _⟩ := outermost
  refine ⟨place, draft_found, live, ?_⟩
  have within := (List.getElem?_eq_some_iff.mp draft_found).1
  rw [releaseScope_of_open scope_found draft_found, isBatchingAt]
  simp only [worked, List.getElem?_set_self within, Option.any_some, Draft.isBatching]
  rw [(Session.endBatch_closes _).2]
  simp [BatchCounter.isOpen, BatchCounter.exit, depth_eq]

theorem Coherent.restrained (coherent : workspace.Coherent)
    (found : workspace.drafts[place]? = some draft) (live : draft.removed = false)
    (batching : draft.isBatching = true) (command : Command)
    (stays : (workspace.step command).2.isBatchingAt place = true) :
    workspace.Restrained command draft.id := by
  have unmoved {other : Nat} {there : Draft} (there_found : workspace.drafts[other]? = some there)
      (live_there : there.removed = false) (same : there.id = draft.id) :
      other = place ∧ there = draft := by
    obtain rfl := coherent.place_eq found live there_found live_there same
    rw [found] at there_found
    exact ⟨rfl, (Option.some.inj there_found).symm⟩
  by_cases refusing : ∃ reason?, command = .refuse reason?
  · obtain ⟨reason?, rfl⟩ := refusing
    exact Or.inl ⟨[], (List.append_nil _).symm, by simp⟩
  have attempts := coherent.step_attempts fun reason? same => refusing ⟨reason?, same⟩
  by_cases reported : command.isReport = true
  · refine Or.inr (Or.inr ⟨reported, ?_⟩)
    cases command with
    | edit other edit =>
      cases edit with
      | fileChanged path => exact attempts
      | _ => cases reported
    | dispatch path => exact attempts
    | raise path => exact attempts
    | _ => cases reported
  by_cases own : command = .removeProject draft.id
  · subst own
    exact Or.inr (Or.inl ⟨rfl, coherent.store_removeProject
      (coherent.live_of_draft place draft found live)⟩)
  obtain ⟨records, log_eq, sorted⟩ := attempts.log
  refine Or.inl ⟨records, log_eq, fun record logged same => ?_⟩
  obtain ⟨change, proper⟩ := sorted record logged
  cases command with
  | createProject info =>
    obtain ⟨id_eq, absent⟩ := proper
    rw [← id_eq, same, coherent.live_of_draft place draft found live] at absent
    cases absent
  | removeProject id => exact own (congrArg Command.removeProject (proper.1.symm.trans same))
  | edit other edit =>
    cases edit with
    | fileChanged path => exact reported rfl
    | _ =>
      obtain ⟨there, there_found, live_there, closed, id_eq⟩ := proper
      obtain ⟨_, rfl⟩ := unmoved there_found live_there (id_eq.symm.trans same)
      rw [batching] at closed
      cases closed
  | releaseScope number =>
    obtain ⟨there, closes, id_eq⟩ := proper
    obtain ⟨other, there_found, live_there, closed⟩ := not_isBatchingAt_releaseScope closes
    obtain ⟨rfl, _⟩ := unmoved there_found live_there (id_eq.symm.trans same)
    exact absurd stays (by rw [Bool.not_eq_true]; exact closed)
  | dispatch path => exact reported rfl
  | raise path => exact reported rfl
  | refuse reason? => exact refusing ⟨reason?, rfl⟩
  | openScope other => exact proper.elim
  | openPath path => exact proper.elim
  | closePath path => exact proper.elim

theorem coherent_run (host : Host) (commands : List Command) :
    (({ host } : Workspace).run commands).Coherent ∧
      host.store.Continues (({ host } : Workspace).run commands).host.store := by
  have along (commands : List Command) (workspace : Workspace) (coherent : workspace.Coherent)
      (continues : host.store.Continues workspace.host.store) :
      (workspace.run commands).Coherent ∧
        host.store.Continues (workspace.run commands).host.store := by
    induction commands generalizing workspace with
    | nil => exact ⟨coherent, continues⟩
    | cons command rest ih =>
      refine ih (workspace.step command).2 (coherent.step command) ?_
      by_cases refusing : ∃ reason?, command = .refuse reason?
      · obtain ⟨reason?, rfl⟩ := refusing
        exact continues.of_same rfl rfl
      · exact continues.attempts
          (coherent.step_attempts fun reason? same => refusing ⟨reason?, same⟩)
  exact along commands { host } (coherent_begun host) (.refl _)

/-- In every run, whatever the store refuses, the account of scopes, batches and commits is in
order. -/
theorem accounted_run (host : Host) (commands : List Command) :
    Accounted host.store (({ host } : Workspace).run commands) := by
  obtain ⟨coherent, continues⟩ := coherent_run host commands
  refine ⟨coherent.depth_eq, continues, fun place draft found batching edit unreported => ?_,
    fun place draft found live batching command stays =>
      coherent.restrained found live batching command stays,
    fun number => store_releaseScope _ number⟩
  rw [step_edit found]
  exact Session.store_perform_of_batching batching unreported

end Workspace

end CodeWorkspace
