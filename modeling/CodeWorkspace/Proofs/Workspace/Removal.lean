import CodeWorkspace.Proofs.Registry.Custody
import CodeWorkspace.Proofs.Session.Avoidance
import CodeWorkspace.Proofs.Session.Missing
import CodeWorkspace.Proofs.Workspace.Commits
import CodeWorkspace.Proofs.Workspace.Outputs
import CodeWorkspace.Proofs.Workspace.Step

/-!
# After the removal of a project

Once a project has been removed nothing mentions it any more, and nothing comes to mention it until
it is created again or a reference to it is asked for.  What its draft held is gone, and whoever
still has the draft or one of its scopes can no longer touch what projects share.
-/

namespace CodeWorkspace

/-! ## Commands -/

/-- Whether a command neither creates a project nor adds a reference to it. -/
def Command.Spares (target : ProjectId) : Command → Prop
  | .createProject info => info.id ≠ target
  | .edit _ change => change.Spares target
  | _ => True

theorem Command.Spares.spares_edit {target : ProjectId} {command : Command}
    {operation : Session.Operation} (spares : command.Spares target)
    (performs : command.Performs operation) {edit : Edit} (same : operation = .perform edit) :
    edit.Spares target := by
  cases command with
  | edit place change =>
    cases same
    cases performs
    exact spares
  | dispatch path =>
    cases same
    cases performs
    exact trivial
  | raise path =>
    obtain ⟨_, rfl⟩ := performs
    cases same
    exact trivial
  | openScope place =>
    cases same
    cases performs
  | releaseScope number =>
    cases same
    cases performs
  | _ => exact performs.elim

/-! ## Drafts that are done with -/

namespace Draft

variable {draft after : Draft}

/-- Whether some document of a draft holds a watch. -/
def HoldsWatch (draft : Draft) (token : WatchToken) : Prop :=
  ∃ collection id entry, (draft.registry collection).entries.get? id = some entry ∧
    entry.watch? = some token

/-- A draft is done with: its project is removed, and it has no documents. -/
structure Spent (draft : Draft) : Prop where
  removed : draft.removed = true
  ids : draft.ids = []

theorem Spent.not_holdsWatch (spent : draft.Spent) (token : WatchToken) :
    ¬ draft.HoldsWatch token := by
  rintro ⟨collection, id, entry, found, _⟩
  have known : id ∈ draft.ids :=
    mem_ids.mpr ⟨collection, OrderedMap.mem_keys_iff.mpr ⟨entry, found⟩⟩
  rw [spent.ids] at known
  cases known

/-- All watches that a draft holds are given back when it is discarded. -/
theorem HoldsWatch.mem_discard {token : WatchToken} (holds : draft.HoldsWatch token) :
    token ∈ draft.discard.1.filterMap Forgotten.watch? := by
  obtain ⟨collection, id, entry, found, watches⟩ := holds
  have drained {registry : Registry} (found : registry.entries.get? id = some entry) :
      token ∈ registry.drainAll.1.filterMap Forgotten.watch? := by
    rw [Registry.drainAll_fst, List.filterMap_map]
    exact List.mem_filterMap.mpr ⟨(id, entry), Registry.mem_entries_iff.mpr found, watches⟩
  show token ∈ (draft.sources.drainAll.1 ++ draft.additional.drainAll.1).filterMap _
  rw [List.filterMap_append, List.mem_append]
  cases collection with
  | source => exact Or.inl (drained found)
  | additional => exact Or.inr (drained found)

end Draft

/-- The watches of a project end when it is removed. -/
theorem Session.not_mem_watches_removeProject {session removed : Session} {token : WatchToken}
    (done : session.removeProject = (.ok (), removed)) (holds : session.draft.HoldsWatch token) :
    token ∉ removed.host.watcher.active.keys := by
  rw [removeProject] at done
  split at done
  · cases done
  · simp only [transform] at done
    rcases session.host.store.transform_cases session.draft.id fun snapshot =>
      snapshot.removeProject session.draft.id with ⟨error, failed⟩ | ⟨next, _, committed⟩
    · rw [failed] at done
      cases done
    · rw [committed] at done
      cases done
      intro active
      exact (Watcher.mem_keys_unwatchAll.mp active).2 holds.mem_discard

namespace Workspace

variable {comparison : PathComparison} {relation : Project → Draft → Prop}
  {workspace before : Workspace} {target : ProjectId} {command : Command} {place : Nat}

/-! ## Nothing mentions the project -/

/-- A project is not there, and neither a draft nor a project nor an output mentions it. -/
structure Rid (comparison : PathComparison) (target : ProjectId) (workspace : Workspace) :
    Prop where
  belongs : workspace.Belongs comparison Draft.TracksLists
  published : workspace.Published
  dead : workspace.live.get? target = none
  drafts : ∀ (place : Nat) draft, workspace.drafts[place]? = some draft → draft.removed = false →
    draft.Avoids target
  projects : ∀ id project, workspace.snapshot.project? id = some project →
    project.refersTo target = false

theorem Rid.unpublished (rid : workspace.Rid comparison target) (key : String) :
    ¬ workspace.host.outputs.Publishes target key := by
  intro known
  obtain ⟨place, live⟩ := rid.published.owned target key known
  rw [rid.dead] at live
  cases live

theorem Rid.change {after : Workspace} {drawn : List DocumentId}
    (rid : before.Rid comparison target) (change : Change before drawn after)
    (dead : after.live.get? target = none)
    (drafts : ∀ (place : Nat) draft, after.drafts[place]? = some draft → draft.removed = false →
      draft.Avoids target)
    (projects : ∀ id project, after.snapshot.project? id = some project →
      project.refersTo target = false) : after.Rid comparison target where
  belongs := rid.belongs.change (Draft.lasting_tracksLists comparison) change
  published := rid.published.change rid.belongs change
  dead := dead
  drafts := drafts
  projects := projects

theorem Rid.worked (rid : before.Rid comparison target) {draft : Draft}
    (found : before.drafts[place]? = some draft) (operation : Session.Operation)
    (spares : ∀ edit, operation = .perform edit → edit.Spares target) :
    (before.worked place
      ({ host := before.host, draft : Session }.operate operation)).Rid comparison target := by
  let reached := Session.operate { host := before.host, draft } operation
  have change : Change before operation.drawn (before.worked place reached) :=
    .worked found operation
  cases gone : draft.removed with
  | true =>
    have same_host : reached.host = before.host := Session.host_operate_of_removed gone operation
    have same_snapshot : (before.worked place reached).snapshot = before.snapshot :=
      congrArg (fun host : Host => host.store.current) same_host
    refine rid.change change rid.dead (fun other there there_found live => ?_) ?_
    · rcases getElem?_set_cases there_found with ⟨_, rfl⟩ | ⟨_, there_found⟩
      · rw [Session.removed_operate gone operation] at live
        cases live
      · exact rid.drafts other there there_found live
    · rw [same_snapshot]
      exact rid.projects
  | false =>
    obtain ⟨project, project_found, _⟩ := rid.belongs.related place draft found gone
    have avoids : Session.Avoids target { host := before.host, draft } :=
      ⟨rid.drafts place draft found gone, rid.belongs.keyed, ⟨project, project_found⟩,
        rid.projects⟩
    have kept : reached.Avoids target := avoids.operate rid.unpublished spares
    refine rid.change change rid.dead (fun other there there_found live => ?_) kept.projects
    rcases getElem?_set_cases there_found with ⟨_, rfl⟩ | ⟨_, there_found⟩
    · exact kept.draft
    · exact rid.drafts other there there_found live

theorem Rid.putIn (rid : before.Rid comparison target) {info : ProjectInfo} {store : Store}
    (other : info.id ≠ target) (absent : before.live.get? info.id = none)
    (current : store.current = (before.snapshot.write info.id (.ofInfo info)).withVersion
      (before.snapshot.version + 1)) : (before.putIn info store).Rid comparison target := by
  refine rid.change (.putIn absent current) ?_ (fun place draft found live => ?_)
    fun id project found => ?_
  · show (before.live.insert info.id _).get? target = none
    rw [OrderedMap.get?_insert, if_neg other.symm]
    exact rid.dead
  · rcases getElem?_concat_cases found with old | ⟨_, rfl⟩
    · exact rid.drafts place draft old live
    · exact Draft.avoids_ofInfo target _ info
  · rw [project?_putIn current] at found
    split at found
    · cases found
      rfl
    · exact rid.projects id project found

/-- When a project is taken out, nothing mentions it any more, nor what was not mentioned
before. -/
theorem rid_takenOut (belongs : before.Belongs comparison Draft.TracksLists)
    (published : before.Published) {id : ProjectId} {draft : Draft} {removed : Session}
    (live : before.live.get? id = some place) (found : before.drafts[place]? = some draft)
    (done : { host := before.host, draft : Session }.removeProject = (.ok (), removed))
    (spared : target = id ∨ before.Rid comparison target) :
    (before.takenOut place id removed).Rid comparison target := by
  have change : Change before [] (before.takenOut place id removed) := .takeOut live found done
  obtain ⟨rfl, unremoved, discarded, _, taken, completed, current⟩ :=
    belongs.takeOut_cases live found done
  refine ⟨belongs.change (Draft.lasting_tracksLists comparison) change,
    published.change belongs change, ?_, fun other last last_found live_last => ?_,
    fun id project project_found => ?_⟩
  · show (before.live.erase draft.id).get? target = none
    rw [OrderedMap.get?_erase]
    split
    · rfl
    · rename_i differs
      exact (spared.resolve_left differs).dead
  · obtain ⟨there, there_found, live_there, _, rfl⟩ :=
      belongs.live_takenOut_cases found unremoved discarded last_found live_last
    rcases spared with rfl | rid
    · exact there.avoids_forgetReferencesTo draft.id
    · exact (rid.drafts other there there_found live_there).forgetReferencesTo draft.id
  · rw [belongs.project?_takenOut found unremoved completed current] at project_found
    split at project_found
    · cases project_found
    · obtain ⟨old, old_found, rfl⟩ := Option.map_eq_some_iff.mp project_found
      rcases spared with rfl | rid
      · exact Project.not_refersTo_cutOff draft.id old
      · rw [Bool.eq_false_iff]
        intro refers
        have still := (Project.trimmed_cutOff draft.id old).refersTo_of target refers
        rw [rid.projects id old old_found] at still
        cases still

/-- No command but one that creates the project or adds a reference to it makes anything mention
it. -/
theorem Rid.step (rid : workspace.Rid comparison target) (spares : command.Spares target) :
    (workspace.step command).2.Rid comparison target := by
  refine @holds_step workspace (Rid comparison target) command
    (fun before_rid ground drafts live => ?_)
    (fun operation before_rid found performs =>
      before_rid.worked found operation fun _ same => spares.spares_edit performs same)
    (fun creates absent current => ?_) (fun _ live found done =>
      rid_takenOut rid.belongs rid.published live found done (Or.inr rid)) rid
  · refine before_rid.change (.around ground drafts live) (live ▸ before_rid.dead) ?_ ?_
    · rw [drafts]
      exact before_rid.drafts
    · rw [show Workspace.snapshot _ = _ from ground.current]
      exact before_rid.projects
  · subst creates
    exact rid.putIn spares absent current

theorem Rid.run (rid : workspace.Rid comparison target) {commands : List Command}
    (spares : ∀ command ∈ commands, command.Spares target) :
    (workspace.run commands).Rid comparison target := by
  induction commands generalizing workspace with
  | nil => exact rid
  | cons command rest ih =>
    exact ih (rid.step (spares command List.mem_cons_self))
      fun other other_mem => spares other (List.mem_cons_of_mem _ other_mem)

/-! ## No reference is missed -/

theorem not_missesReference_of_createProject {info : ProjectInfo} {fault : Fault}
    (failed : (workspace.createProject info).1 = .error (.store (.fault fault))) :
    ¬ fault.MissesReference := by
  rw [createProject] at failed
  split at failed
  · rename_i failure blank
    cases Except.error.inj failed
    exact absurd blank blankPart?_ne_store
  · split at failed
    · cases failed
    · cases outcome : workspace.host.store.transform info.id fun snapshot =>
        snapshot.addProject info with
      | mk result store =>
        simp only [outcome] at failed
        cases result with
        | ok done => cases failed
        | error error =>
          cases failed
          have added := Store.fault_of_transform (congrArg Prod.fst outcome)
          rw [Snapshot.addProject] at added
          split at added <;> cases added
          exact not_false

/-- No command fails because a reference is missing. -/
theorem Belongs.not_missesReference_of_step
    (belongs : workspace.Belongs comparison Draft.TracksLists) {fault : Fault}
    (failed : (workspace.step command).1 = .error (.store (.fault fault))) :
    ¬ fault.MissesReference := by
  have informed {place : Nat} {draft : Draft} (found : workspace.drafts[place]? = some draft)
      (live : draft.removed = false) :
      ∃ project, Session.Informed { host := workspace.host, draft } project := by
    obtain ⟨project, project_found, tracks⟩ := belongs.related place draft found live
    exact ⟨project, belongs.keyed, project_found, tracks⟩
  cases command with
  | createProject info => exact not_missesReference_of_createProject (error_of_map failed)
  | removeProject id =>
    have failed : (workspace.removeProject id).1 = .error (.store (.fault fault)) :=
      error_of_map failed
    rw [removeProject] at failed
    split at failed
    · cases failed
    · rename_i place live
      obtain ⟨draft, found, _⟩ := belongs.draft_of_live id place live
      simp only [onDraft, found] at failed
      cases outcome : ({ host := workspace.host, draft } : Session).removeProject with
      | mk result removed =>
        rw [outcome] at failed
        cases result with
        | ok done => cases failed
        | error failure =>
          cases Except.error.inj failed
          exact Session.not_missesReference_of_removeProject (congrArg Prod.fst outcome)
  | edit place edit =>
    simp only [step, onDraft] at failed
    split at failed
    · cases failed
    · rename_i draft found
      cases gone : draft.removed with
      | true => exact absurd failed (Session.perform_ne_store_of_removed gone)
      | false =>
        obtain ⟨project, informed⟩ := informed found gone
        exact informed.not_missesReference_of_perform failed
  | openScope place => exact absurd (error_of_map failed) (openScope_ne_store workspace place)
  | releaseScope number =>
    have failed : (workspace.releaseScope number).1 = .error (.store (.fault fault)) :=
      error_of_map failed
    rw [releaseScope] at failed
    split at failed
    · cases failed
    · rename_i scope _
      split at failed
      · cases failed
      · simp only [onDraft] at failed
        split at failed
        · cases failed
        · rename_i draft found
          cases gone : draft.removed with
          | true => simp [Session.endBatch, gone] at failed
          | false =>
            obtain ⟨project, informed⟩ := informed found gone
            exact informed.not_missesReference_of_endBatch failed
  | _ => cases failed

/-! ## Nothing reaches out of the draft -/

/-- Whether a command goes through the draft at a place or one of its scopes. -/
def GoesThrough (workspace : Workspace) (place : Nat) : Command → Prop
  | .edit other _ => other = place
  | .openScope other => other = place
  | .releaseScope number => ∃ scope, workspace.scopes[number]? = some scope ∧ scope.draft = place
  | _ => False

theorem host_onDraft_of_removed {α : Type} {draft : Draft}
    (found : workspace.drafts[place]? = some draft) (gone : draft.removed = true) (absent : α)
    {work : Session → α × Session} (operation : Session.Operation)
    (operates : ∀ session : Session, (work session).2 = session.operate operation) :
    (workspace.onDraft place absent work).2.host = workspace.host := by
  simp only [onDraft, found, operates]
  exact Session.host_operate_of_removed gone operation

/-- What goes through the draft of a removed project touches nothing that projects share. -/
theorem host_step_of_removed {draft : Draft} (found : workspace.drafts[place]? = some draft)
    (gone : draft.removed = true) (through : workspace.GoesThrough place command) :
    (workspace.step command).2.host = workspace.host := by
  cases command with
  | edit other edit =>
    cases through
    exact host_onDraft_of_removed found gone _ (.perform edit) fun _ => rfl
  | openScope other =>
    cases through
    show (workspace.openScope place).2.host = _
    have opened : (workspace.onDraft place (.ok 0) Session.beginBatch).2.host = workspace.host :=
      host_onDraft_of_removed found gone _ .beginBatch fun _ => rfl
    simp only [openScope]
    split <;> exact opened
  | releaseScope number =>
    obtain ⟨scope, scope_found, rfl⟩ := through
    show (workspace.releaseScope number).2.host = _
    simp only [releaseScope, scope_found]
    split
    · rfl
    · let noted : Workspace :=
        { workspace with
          scopes := workspace.scopes.set number { scope with released := true } }
      have found_noted : noted.drafts[scope.draft]? = some draft := found
      exact host_onDraft_of_removed found_noted gone _ .endBatch fun _ => rfl
  | _ => exact through.elim

/-- A draft that is done with stays so. -/
theorem spent_run (belongs : workspace.Belongs comparison Draft.TracksLists)
    (spent : ∃ draft, workspace.drafts[place]? = some draft ∧ draft.Spent)
    (commands : List Command) :
    ∃ draft, (workspace.run commands).drafts[place]? = some draft ∧ draft.Spent := by
  refine (run_of_change (fun workspace => workspace.Belongs comparison Draft.TracksLists ∧
    ∃ draft, workspace.drafts[place]? = some draft ∧ draft.Spent) (fun holds change => ?_)
    ⟨belongs, spent⟩ commands).2
  obtain ⟨belongs, draft, found, done_with⟩ := holds
  refine ⟨belongs.change (Draft.lasting_tracksLists comparison) change, ?_⟩
  cases change with
  | around ground drafts live => exact ⟨draft, drafts ▸ found, done_with⟩
  | @worked other there there_found operation =>
    by_cases here : other = place
    · subst here
      rw [found] at there_found
      cases there_found
      obtain ⟨_, _, proceeds⟩ := Session.operate_proceeds { host := _, draft } operation
      obtain ⟨_, _, still, ids_eq⟩ := proceeds.removed done_with.removed
      obtain ⟨within, _⟩ := List.getElem?_eq_some_iff.mp found
      exact ⟨_, List.getElem?_set_self within, still, ids_eq.trans done_with.ids⟩
    · exact ⟨draft, (List.getElem?_set_ne here).trans found, done_with⟩
  | putIn absent current =>
    obtain ⟨within, _⟩ := List.getElem?_eq_some_iff.mp found
    exact ⟨draft, (List.getElem?_append_left within).trans found, done_with⟩
  | @takeOut other id there removed live there_found done =>
    obtain ⟨rfl, unremoved, _⟩ := belongs.takeOut_cases live there_found done
    have elsewhere : place ≠ other := by
      rintro rfl
      rw [found] at there_found
      cases there_found
      rw [done_with.removed] at unremoved
      cases unremoved
    rw [takenOut, getElem?_forgetReferencesTo, List.getElem?_set_ne elsewhere.symm, found]
    refine ⟨_, rfl, ?_⟩
    split
    · exact ⟨done_with.removed, done_with.ids⟩
    · exact done_with

/-! ## Removal -/

/-- Nothing in a workspace mentions a project, and its projects are those of the snapshot. -/
structure Forgets (target : ProjectId) (workspace : Workspace) : Prop where
  absent : target ∉ workspace.snapshot.ids
  projects : workspace.projects = workspace.snapshot.ids
  live : ∀ id, workspace.live.contains id = workspace.snapshot.contains id
  edges : ∀ id project, workspace.snapshot.project? id = some project →
    ∀ reference : ProjectReference, reference.target = target →
      reference ∉ project.projectReferences ∧ reference ∉ project.holders.keys
  drafts : ∀ id place, workspace.live.get? id = some place →
    ∃ draft, workspace.drafts[place]? = some draft ∧ draft.Avoids target
  records : ∀ key, (key, target) ∉ workspace.host.outputs.records

/-- The live projects are those of the snapshot. -/
theorem Belongs.live_iff (belongs : workspace.Belongs comparison relation) (id : ProjectId) :
    workspace.live.contains id = workspace.snapshot.contains id := by
  rw [Bool.eq_iff_iff, Snapshot.contains_iff, ← OrderedMap.isSome_get?, Option.isSome_iff_exists]
  constructor
  · rintro ⟨place, live⟩
    obtain ⟨draft, found, rfl, unremoved⟩ := belongs.draft_of_live id place live
    obtain ⟨project, project_found, _⟩ := belongs.related place draft found unremoved
    exact ⟨project, project_found⟩
  · rintro ⟨project, project_found⟩
    exact belongs.live_of_project id project project_found

theorem Rid.forgets (rid : workspace.Rid comparison target) : workspace.Forgets target where
  absent known := by
    have present : workspace.live.contains target = true :=
      (rid.belongs.live_iff target).trans (OrderedMap.contains_iff_mem_keys.mpr known)
    rw [← OrderedMap.isSome_get?, rid.dead] at present
    cases present
  projects := List.filter_eq_self.mpr fun id known =>
    (rid.belongs.live_iff id).trans (OrderedMap.contains_iff_mem_keys.mpr known)
  live := rid.belongs.live_iff
  edges id project found reference leads := by
    have unmentioned : reference ∉ project.projectReferences := by
      intro listed
      have refers := Project.refersTo_iff.mpr ⟨reference, listed, leads⟩
      rw [rid.projects id project found] at refers
      cases refers
    obtain ⟨place, live⟩ := rid.belongs.live_of_project id project found
    obtain ⟨draft, draft_found, rfl, unremoved⟩ := rid.belongs.draft_of_live id place live
    have tracks := rid.belongs.related_of_found draft_found unremoved found
    exact ⟨unmentioned, fun held => unmentioned (tracks.references.booked.referred _ held)⟩
  drafts id place live := by
    obtain ⟨draft, found, _, unremoved⟩ := rid.belongs.draft_of_live id place live
    exact ⟨draft, found, rid.drafts place draft found unremoved⟩
  records key listed := rid.unpublished key (OutputIndex.mem_records.mp listed)

/-- What comes of the removal of a project, at once and after any further commands. -/
structure RemovedForGood (target : ProjectId) (before after : Workspace) : Prop where
  forgets : ∀ more, (∀ command ∈ more, command.Spares target) → (after.run more).Forgets target
  resolves : ∀ more command fault,
    ((after.run more).step command).1 = .error (.store (.fault fault)) → ¬ fault.MissesReference
  /-- The draft has given everything back and is done with. -/
  spent : ∃ place draft, before.live.get? target = some place ∧
    before.drafts[place]? = some draft ∧
    (∀ token, draft.HoldsWatch token → token ∉ after.host.watcher.active.keys) ∧
    ∀ more, (∃ last, (after.run more).drafts[place]? = some last ∧ last.Spent ∧
        ∀ token, ¬ last.HoldsWatch token) ∧
      ∀ command, (after.run more).GoesThrough place command →
        ((after.run more).step command).2.host = (after.run more).host

theorem exists_takenOut {id : ProjectId} (completed : (workspace.removeProject id).1 = .ok ()) :
    ∃ place draft removed, workspace.live.get? id = some place ∧
      workspace.drafts[place]? = some draft ∧
      ({ host := workspace.host, draft } : Session).removeProject = (.ok (), removed) ∧
      (workspace.removeProject id).2 = workspace.takenOut place id removed := by
  cases live : workspace.live.get? id with
  | none => simp [Workspace.removeProject, live] at completed
  | some place =>
    cases found : workspace.drafts[place]? with
    | none => simp [Workspace.removeProject, live, onDraft, found] at completed
    | some draft =>
      cases outcome : ({ host := workspace.host, draft } : Session).removeProject with
      | mk result removed =>
        cases result with
        | error failure =>
          simp [Workspace.removeProject, live, onDraft, found, outcome] at completed
        | ok done =>
          refine ⟨place, draft, removed, rfl, found, outcome, ?_⟩
          simp only [Workspace.removeProject, live, onDraft, found, outcome, takenOut]

/-- Whenever a project has been removed, nothing mentions it any more, nothing comes to mention it
unless it is told to, and its draft can do nothing any more. -/
theorem removal_lasts (comparison : PathComparison) (watcher : Watcher) (editor : Editor)
    (refusals : Nat → Option String) (commands : List Command) (target : ProjectId)
    (completed : (((starting comparison watcher editor refusals).run commands).step
      (.removeProject target)).1 = .ok .done) :
    RemovedForGood target ((starting comparison watcher editor refusals).run commands)
      (((starting comparison watcher editor refusals).run commands).step
        (.removeProject target)).2 := by
  let before := (starting comparison watcher editor refusals).run commands
  have belongs : before.Belongs comparison Draft.TracksLists :=
    belongs_run (Draft.lasting_tracksLists comparison) watcher editor refusals commands
  have published : before.Published :=
    published_run comparison watcher editor refusals commands
  have completed : (before.removeProject target).1 = .ok () := by
    cases outcome : (before.removeProject target).1 with
    | error failure =>
      rw [show (before.step (.removeProject target)).1 =
        (before.removeProject target).1.map fun _ => .done from rfl, outcome] at completed
      cases completed
    | ok done => rfl
  obtain ⟨place, draft, removed, live, found, done, taken⟩ := exists_takenOut completed
  show RemovedForGood target before (before.removeProject target).2
  rw [taken]
  have rid := rid_takenOut belongs published live found done (Or.inl rfl)
  have spent : ∃ last, (before.takenOut place target removed).drafts[place]? = some last ∧
      last.Spent := by
    obtain ⟨rfl, _, discarded, _⟩ := belongs.takeOut_cases live found done
    obtain ⟨within, _⟩ := List.getElem?_eq_some_iff.mp found
    rw [takenOut, getElem?_forgetReferencesTo, List.getElem?_set_self within, discarded]
    refine ⟨_, rfl, ?_⟩
    split <;> exact ⟨rfl, draft.ids_discard⟩
  have all (more : List Command) :
      ((before.takenOut place target removed).run more).Belongs comparison Draft.TracksLists :=
    run_of_change _ (fun belongs change =>
      belongs.change (Draft.lasting_tracksLists comparison) change) rid.belongs more
  refine ⟨fun more spares => (rid.run spares).forgets,
    fun more command fault failed => (all more).not_missesReference_of_step failed,
    place, draft, live, found, fun token holds => ?_, fun more => ?_⟩
  · exact Session.not_mem_watches_removeProject done holds
  · obtain ⟨last, last_found, last_spent⟩ := spent_run rid.belongs spent more
    exact ⟨⟨last, last_found, last_spent, last_spent.not_holdsWatch⟩, fun command through =>
      host_step_of_removed last_found last_spent.removed through⟩

/-- In an open batch a reference to a project waits to be removed and a reference to its output
waits to be added, and a batch of the project itself, which has a file, is open as well. -/
def widelyMentioned : List Command :=
  [.createProject ⟨⟨.ofNat 1⟩, "C#", { name := "A", assemblyName := "A" }⟩,
    .createProject ⟨⟨.ofNat 2⟩, "C#",
      { name := "B", assemblyName := "B", outputPath? := some "/b" }⟩,
    .edit 0 (.addProjectReference { target := ⟨.ofNat 2⟩ }),
    .edit 1 (.addFile .source "/c" .regular [] ⟨.ofNat 10⟩),
    .openScope 0, .openScope 1,
    .edit 0 (.removeProjectReference ⟨.ofNat 2⟩),
    .edit 0 (.addMetadataReference { path := "/b" })]

theorem removal_widelyMentioned :
    (((starting .ordinal {} .absent fun _ => none).run widelyMentioned).step
      (.removeProject ⟨.ofNat 2⟩)).1 = .ok .done ∧
    RemovedForGood ⟨.ofNat 2⟩ ((starting .ordinal {} .absent fun _ => none).run widelyMentioned)
      (((starting .ordinal {} .absent fun _ => none).run widelyMentioned).step
        (.removeProject ⟨.ofNat 2⟩)).2 := by
  have completed : (((starting .ordinal {} .absent fun _ => none).run widelyMentioned).step
      (.removeProject ⟨.ofNat 2⟩)).1 = .ok .done := by
    decide_cbv
  exact ⟨completed, removal_lasts .ordinal {} .absent _ widelyMentioned _ completed⟩

end Workspace

end CodeWorkspace
