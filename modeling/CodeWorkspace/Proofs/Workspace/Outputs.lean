import CodeWorkspace.Proofs.Draft.References
import CodeWorkspace.Proofs.Session.Refusal
import CodeWorkspace.Proofs.Workspace.Invariant

/-!
# Properties and outputs of a workspace

A property waits in its draft during a batch, while the index of outputs follows it at once.  In
every workspace that can be reached, making the changes that wait gives the properties of the
draft, and the index says of each live project what the properties of its draft say, and of no
other project anything.
-/

namespace CodeWorkspace

namespace Session

variable {session : Session}

/-- An operation on a project that has been removed touches nothing that projects share. -/
theorem host_operate_of_removed (gone : session.draft.removed = true) (operation : Operation) :
    (session.operate operation).host = session.host := by
  cases operation with
  | perform edit => exact congrArg Session.host (perform_of_removed gone edit)
  | beginBatch =>
    show session.beginBatch.2.host = _
    rw [beginBatch, if_pos gone]
  | endBatch =>
    show session.endBatch.2.host = _
    simp [endBatch, gone]

theorem removed_operate (gone : session.draft.removed = true) (operation : Operation) :
    (session.operate operation).draft.removed = true := by
  obtain ⟨_, _, proceeds⟩ := session.operate_proceeds operation
  exact (proceeds.removed gone).2.2.1

end Session

namespace Workspace

variable {comparison : PathComparison} {relation : Project → Draft → Prop}
  {drawn : List DocumentId} {workspace next : Workspace}

/-! ## Outputs -/

/-- The index of outputs follows the live drafts. -/
structure Published (workspace : Workspace) : Prop where
  shows : ∀ (place : Nat) draft, workspace.drafts[place]? = some draft → draft.removed = false →
    workspace.host.outputs.Shows draft.id draft.properties
  owned : ∀ project key, workspace.host.outputs.Publishes project key →
    ∃ place, workspace.live.get? project = some place
  occupied : workspace.host.outputs.Occupied

theorem published_starting (watcher : Watcher) (editor : Editor)
    (refusals : Nat → Option String) : (starting comparison watcher editor refusals).Published where
  shows _ _ found := by cases found
  owned _ _ known := absurd known (OutputIndex.not_publishes_empty comparison)
  occupied := OutputIndex.occupied_empty comparison

/-- The same outputs go on to follow the drafts that are still live. -/
theorem Published.of_same (published : workspace.Published)
    (outputs : next.host.outputs = workspace.host.outputs) (live : next.live = workspace.live)
    (drafts : ∀ (place : Nat) draft, next.drafts[place]? = some draft → draft.removed = false →
      workspace.drafts[place]? = some draft) : next.Published where
  shows place draft found unremoved := by
    rw [outputs]
    exact published.shows place draft (drafts place draft found unremoved) unremoved
  owned project key known := by
    rw [outputs] at known
    rw [live]
    exact published.owned project key known
  occupied := outputs ▸ published.occupied

theorem Published.worked (published : workspace.Published)
    (belongs : workspace.Belongs comparison relation) {place : Nat} {draft : Draft}
    (found : workspace.drafts[place]? = some draft) (live : draft.removed = false)
    {after : Session} (upholds : Session.Upholds { host := workspace.host, draft } after) :
    (workspace.worked place after).Published where
  shows other there there_found live_there := by
    rcases getElem?_set_cases there_found with ⟨rfl, rfl⟩ | ⟨differs, there_found⟩
    · exact upholds.shows (published.shows other draft found live)
    · have other_id := belongs.id_ne found live there_found live_there differs
      have same_comparison := upholds.same_comparison
      intro key
      rw [show (workspace.worked place after).host.outputs.comparison = _ from same_comparison]
      exact (upholds.elsewhere there.id key other_id).trans
        (published.shows other there there_found live_there key)
  owned project key known := by
    by_cases own : project = draft.id
    · exact ⟨place, own ▸ belongs.live_of_draft place draft found live⟩
    · exact published.owned project key ((upholds.elsewhere project key own).mp known)
  occupied := upholds.occupied published.occupied

theorem Published.putIn (published : workspace.Published)
    (belongs : workspace.Belongs comparison relation) {info : ProjectInfo} {store : Store}
    (absent : workspace.live.get? info.id = none) : (workspace.putIn info store).Published := by
  have publishes_iff {project : ProjectId} {key : String} :
      (workspace.putIn info store).host.outputs.Publishes project key ↔
        workspace.host.outputs.Publishes project key ∨ project = info.id ∧
          ∃ path ∈ info.properties.outputPaths, key = workspace.host.comparison.key path :=
    OutputIndex.publishes_registerAll _
  have same_comparison : (workspace.putIn info store).host.outputs.comparison =
      workspace.host.comparison := comparison_registerOutputs _ info
  refine ⟨fun place draft found live key => ?_, fun project key known => ?_,
    published.occupied.registerAll _⟩
  · rw [publishes_iff, same_comparison]
    rcases getElem?_concat_cases found with old | ⟨rfl, rfl⟩
    · have differs := belongs.id_ne_of_absent absent old live
      rw [published.shows place draft old live]
      simp only [differs, false_and, or_false]
      rfl
    · have unpublished : ¬ workspace.host.outputs.Publishes info.id key := by
        intro known
        obtain ⟨place, live⟩ := published.owned info.id key known
        rw [absent] at live
        cases live
      simp only [Draft.ofInfo, unpublished, false_or, true_and]
  · show ∃ place, (workspace.live.insert info.id workspace.drafts.length).get? project = some place
    rw [OrderedMap.get?_insert]
    split
    · exact ⟨_, rfl⟩
    · rename_i differs
      rcases publishes_iff.mp known with old | ⟨same, _⟩
      · exact published.owned project key old
      · exact absurd same differs

theorem Published.takeOut (published : workspace.Published)
    (belongs : workspace.Belongs comparison relation) {place : Nat} {draft : Draft}
    {removed : Session} (found : workspace.drafts[place]? = some draft)
    (unremoved : draft.removed = false) (discarded : removed.draft = draft.discard.2)
    (done : { host := workspace.host, draft : Session }.removeProject = (.ok (), removed)) :
    (workspace.takenOut place draft.id removed).Published := by
  have outputs_eq : (workspace.takenOut place draft.id removed).host.outputs =
      workspace.host.outputs.unregisterProject draft.id := (Session.host_of_removeProject done).2.1
  refine ⟨fun other last last_found live key => ?_, fun project key known => ?_, ?_⟩
  · obtain ⟨there, there_found, live_there, differs, rfl⟩ :=
      belongs.live_takenOut_cases found unremoved discarded last_found live
    rw [outputs_eq, OutputIndex.publishes_unregisterProject]
    have shows := published.shows other there there_found live_there key
    exact (and_iff_left differs).trans shows
  · rw [outputs_eq, OutputIndex.publishes_unregisterProject] at known
    obtain ⟨known, differs⟩ := known
    show ∃ place, (workspace.live.erase draft.id).get? project = some place
    rw [OrderedMap.get?_erase, if_neg differs]
    exact published.owned project key known
  · rw [outputs_eq]
    exact workspace.host.outputs.occupied_withdraw draft.id _

theorem Published.change (published : workspace.Published)
    (belongs : workspace.Belongs comparison relation) (change : Change workspace drawn next) :
    next.Published := by
  cases change with
  | around ground drafts live =>
    exact published.of_same ground.outputs live fun _ _ found _ => drafts ▸ found
  | @worked place draft found operation =>
    cases gone : draft.removed with
    | true =>
      have same_host : (Session.operate { host := workspace.host, draft } operation).host =
          workspace.host := Session.host_operate_of_removed gone operation
      refine published.of_same (congrArg Host.outputs same_host) rfl
        fun other there there_found live => ?_
      rcases getElem?_set_cases there_found with ⟨_, rfl⟩ | ⟨_, there_found⟩
      · rw [Session.removed_operate gone operation] at live
        cases live
      · exact there_found
    | false => exact published.worked belongs found gone (Session.upholds_operate _ operation)
  | putIn absent current => exact published.putIn belongs absent
  | takeOut live found done =>
    obtain ⟨rfl, unremoved, discarded, _⟩ := belongs.takeOut_cases live found done
    exact published.takeOut belongs found unremoved discarded done

theorem lasting_true (comparison : PathComparison) :
    Draft.Lasting comparison fun _ _ => True :=
  ⟨fun _ => trivial, fun _ _ => trivial, fun _ _ => trivial⟩

/-- In every workspace that can be reached, the index of outputs follows the live drafts. -/
theorem published_run (comparison : PathComparison) (watcher : Watcher) (editor : Editor)
    (refusals : Nat → Option String) (commands : List Command) :
    ((starting comparison watcher editor refusals).run commands).Published := by
  have both := run_of_change
    (fun workspace => workspace.Belongs comparison (fun _ _ => True) ∧ workspace.Published)
    (fun holds change =>
      ⟨holds.1.change (lasting_true comparison) change, holds.2.change holds.1 change⟩)
    ⟨belongs_starting comparison _ watcher editor refusals,
      published_starting watcher editor refusals⟩ commands
  exact both.2

/-! ## Properties -/

/-- Properties and outputs follow the drafts of the live projects. -/
structure PropertiesAgree (comparison : PathComparison) (workspace : Workspace) : Prop where
  /-- The changes that wait lead from the properties of the project to those of its draft. -/
  properties : ∀ id place, workspace.live.get? id = some place → ∃ draft project,
    workspace.drafts[place]? = some draft ∧ workspace.snapshot.project? id = some project ∧
      draft.changes.properties.foldl Properties.set project.properties = draft.properties
  /-- A live project is recorded at the keys of its two outputs, and no other is recorded. -/
  recorded : ∀ key id, (key, id) ∈ workspace.host.outputs.records ↔ ∃ place draft,
    workspace.live.get? id = some place ∧ workspace.drafts[place]? = some draft ∧
      ∃ path ∈ draft.properties.outputPaths, comparison.key path = key
  once : workspace.host.outputs.records.Nodup
  occupied : workspace.host.outputs.Occupied

theorem Published.recorded_iff (published : workspace.Published)
    (belongs : workspace.Belongs comparison relation) {key : String} {id : ProjectId} :
    (key, id) ∈ workspace.host.outputs.records ↔ ∃ place draft,
      workspace.live.get? id = some place ∧ workspace.drafts[place]? = some draft ∧
        ∃ path ∈ draft.properties.outputPaths, comparison.key path = key := by
  have same_comparison : workspace.host.outputs.comparison = comparison := belongs.comparison_eq
  have shown {place : Nat} {draft : Draft} (live : workspace.live.get? id = some place)
      (found : workspace.drafts[place]? = some draft) :
      workspace.host.outputs.Publishes id key ↔
        ∃ path ∈ draft.properties.outputPaths, comparison.key path = key := by
    obtain ⟨own, own_found, rfl, unremoved⟩ := belongs.draft_of_live id place live
    rw [found] at own_found
    cases own_found
    rw [published.shows place draft found unremoved key, same_comparison]
    simp only [eq_comm]
  rw [OutputIndex.mem_records]
  constructor
  · intro known
    obtain ⟨place, live⟩ := published.owned id key known
    obtain ⟨draft, found, _⟩ := belongs.draft_of_live id place live
    exact ⟨place, draft, live, found, (shown live found).mp known⟩
  · rintro ⟨place, draft, live, found, path⟩
    exact (shown live found).mpr path

/-- In every workspace that can be reached, properties and outputs follow the drafts. -/
theorem propertiesAgree_run (comparison : PathComparison) (watcher : Watcher) (editor : Editor)
    (refusals : Nat → Option String) (commands : List Command) :
    ((starting comparison watcher editor refusals).run commands).PropertiesAgree comparison := by
  have belongs := belongs_run (Draft.lasting_tracksProperties comparison) watcher editor refusals
    commands
  have published := published_run comparison watcher editor refusals commands
  refine ⟨fun id place live => ?_, fun key id => published.recorded_iff belongs,
    OutputIndex.nodup_records _, published.occupied⟩
  obtain ⟨draft, found, rfl, unremoved⟩ := belongs.draft_of_live id place live
  obtain ⟨project, project_found, tracks⟩ := belongs.related place draft found unremoved
  exact ⟨draft, project, found, project_found, tracks.symm⟩

end Workspace

end CodeWorkspace
