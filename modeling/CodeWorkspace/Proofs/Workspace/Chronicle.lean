import CodeWorkspace.Proofs.Workspace.Invariant
import CodeWorkspace.Proofs.Workspace.Portion
import Mathlib.Data.List.Permutation

/-!
# Chronicles

A chronicle is a workspace with an account of the metadata references of every draft.  It is kept
from outside: the workspace knows nothing of it.  Along every run the accounts agree with the
projects, whatever happens to the other projects of the workspace in the meantime.
-/

namespace CodeWorkspace

/-- A workspace with the accounts of its drafts. -/
structure Chronicle where
  workspace : Workspace
  /-- The account of the draft at each place. -/
  ledger : Nat → Account := fun _ => {}

namespace Chronicle

/-- The chronicle after one portion of a command. -/
def advance (chronicle : Chronicle) (after : Workspace) : Chronicle where
  workspace := after
  ledger place :=
    match chronicle.workspace.drafts[place]?, after.drafts[place]? with
    | some draft, some there =>
      (chronicle.ledger place).follow { host := chronicle.workspace.host, draft }
        { host := after.host, draft := there }
    -- nothing was committed for a draft that is new
    | _, _ => chronicle.ledger place

/-- The chronicle after the first portion of a command. -/
def prepare (chronicle : Chronicle) (command : Command) : Chronicle :=
  chronicle.advance (chronicle.workspace.prepare command)

/-- The chronicle after a command. -/
def step (chronicle : Chronicle) (command : Command) : Chronicle :=
  (chronicle.prepare command).advance (chronicle.workspace.step command).2

/-- The chronicle after commands one after another. -/
def run (chronicle : Chronicle) (commands : List Command) : Chronicle :=
  commands.foldl step chronicle

/-- The chronicle of a workspace without projects. -/
def starting (comparison : PathComparison) (watcher : Watcher) (editor : Editor)
    (refusals : Nat → Option String) : Chronicle where
  workspace := .starting comparison watcher editor refusals

variable {comparison : PathComparison} {chronicle : Chronicle} {after : Workspace}

/-- A chronicle tells of the run of its workspace. -/
@[simp]
theorem workspace_run (chronicle : Chronicle) (commands : List Command) :
    (chronicle.run commands).workspace = chronicle.workspace.run commands := by
  induction commands generalizing chronicle with
  | nil => rfl
  | cons command rest ih => exact ih (chronicle.step command)

theorem ledger_advance_of_found {place : Nat} {draft there : Draft}
    (found : chronicle.workspace.drafts[place]? = some draft)
    (there_found : after.drafts[place]? = some there) :
    (chronicle.advance after).ledger place =
      (chronicle.ledger place).follow { host := chronicle.workspace.host, draft }
        { host := after.host, draft := there } := by
  simp only [advance, found, there_found]

theorem ledger_advance_of_missing {place : Nat}
    (missing : chronicle.workspace.drafts[place]? = none) :
    (chronicle.advance after).ledger place = chronicle.ledger place := by
  simp only [advance, missing]

/-! ## Balance -/

/-- The accounts of a chronicle agree with the projects of its workspace. -/
structure Balanced (comparison : PathComparison) (chronicle : Chronicle) : Prop where
  belongs : chronicle.workspace.Belongs comparison Draft.Accountable
  sound : chronicle.workspace.snapshot.Sound
  fits : ∀ (place : Nat) draft project, chronicle.workspace.drafts[place]? = some draft →
    draft.removed = false → chronicle.workspace.snapshot.project? draft.id = some project →
      (chronicle.ledger place).Fits chronicle.workspace.snapshot project draft
  blank : ∀ place : Nat, chronicle.workspace.drafts[place]? = none → chronicle.ledger place = {}

theorem balanced_starting (comparison : PathComparison) (watcher : Watcher) (editor : Editor)
    (refusals : Nat → Option String) :
    Balanced comparison (starting comparison watcher editor refusals) where
  belongs := Workspace.belongs_starting comparison _ watcher editor refusals
  sound := Snapshot.sound_empty
  fits _ _ _ found := by cases found
  blank _ _ := rfl

/-- The account of a draft whose committed references stay as they are. -/
theorem Balanced.fits_still (balanced : Balanced comparison chronicle) {place : Nat}
    {draft there : Draft} {project changed : Project}
    (found : chronicle.workspace.drafts[place]? = some draft)
    (there_found : after.drafts[place]? = some there) (live : draft.removed = false)
    (project_found : chronicle.workspace.snapshot.project? draft.id = some project)
    (id_eq : there.id = draft.id)
    (committed_eq : there.committedReferences = draft.committedReferences)
    (metadata_eq : changed.metadataReferences = project.metadataReferences)
    (converted_eq : ∀ line, after.snapshot.contains line.target = true →
      (changed.holding line).converted = (project.holding line).converted) :
    ((chronicle.advance after).ledger place).Fits after.snapshot changed there := by
  rw [ledger_advance_of_found found there_found]
  let session : Session := { host := chronicle.workspace.host, draft }
  let next : Session := { host := after.host, draft := there }
  have fits : Account.Fits _ session.current project session.draft :=
    balanced.fits place draft project found live project_found
  exact fits.still (id_eq : next.draft.id = _) committed_eq metadata_eq converted_eq

/-- The accounts are balanced after a portion if each agrees with its project then. -/
theorem Balanced.advance (balanced : Balanced comparison chronicle)
    (belongs : after.Belongs comparison Draft.Accountable) (sound : after.snapshot.Sound)
    (fits : ∀ (place : Nat) there changed, after.drafts[place]? = some there →
      there.removed = false → after.snapshot.project? there.id = some changed →
        ((chronicle.advance after).ledger place).Fits after.snapshot changed there)
    (longer : ∀ place : Nat, after.drafts[place]? = none →
      chronicle.workspace.drafts[place]? = none) :
    (chronicle.advance after).Balanced comparison where
  belongs := belongs
  sound := sound
  fits := fits
  blank place missing := by
    have before_missing := longer place missing
    rw [ledger_advance_of_missing before_missing]
    exact balanced.blank place before_missing

theorem Balanced.quiet (balanced : Balanced comparison chronicle)
    (belongs : after.Belongs comparison Draft.Accountable)
    (quiet : chronicle.workspace.Quiet after) : (chronicle.advance after).Balanced comparison := by
  refine balanced.advance belongs (quiet.snapshot.sound balanced.sound) ?_ fun place missing => ?_
  · intro place there changed there_found live changed_found
    obtain ⟨draft, found, outline_eq⟩ := quiet.of_draft there_found
    have id_eq := Draft.id_of_outline outline_eq
    have live := (Draft.removed_of_outline outline_eq).symm.trans live
    obtain ⟨project, project_found, _, same⟩ := quiet.snapshot.of_found changed_found
    rw [id_eq] at project_found
    have accountable := balanced.belongs.related_of_found found live project_found
    exact balanced.fits_still found there_found live project_found id_eq
      (Draft.committedReferences_of_outline outline_eq) same.1 fun line _ =>
        congrArg Holders.converted
          ((accountable.tracks.booked.lists.of_same same).holding_eq line)
  · have outlined := quiet.drafts place
    rw [missing, Option.map_none, eq_comm, Option.map_eq_none_iff] at outlined
    exact outlined

theorem Balanced.worked (balanced : Balanced comparison chronicle)
    (belongs : after.Belongs comparison Draft.Accountable) {place : Nat} {draft : Draft}
    {reached : Session} (found : chronicle.workspace.drafts[place]? = some draft)
    (live : draft.removed = false)
    (turns : Session.TurnsOver { host := chronicle.workspace.host, draft } reached)
    (host : after.host = reached.host)
    (drafts : after.drafts = chronicle.workspace.drafts.set place reached.draft) :
    (chronicle.advance after).Balanced comparison := by
  obtain ⟨project, project_found, accountable⟩ := balanced.belongs.related place draft found live
  obtain ⟨changed, replaced, turnover⟩ :=
    turns.turnover project balanced.sound.keyed project_found accountable
  have current_eq : after.snapshot = reached.current :=
    congrArg (fun host => host.store.current) host
  refine balanced.advance belongs (current_eq ▸ turns.sound balanced.sound) ?_
    fun other missing => ?_
  · intro other there there_project there_found live_there there_project_found
    rw [drafts] at there_found
    -- the draft that was worked on follows its turnover, and nothing has happened to the others
    rcases Workspace.getElem?_set_cases there_found with ⟨rfl, rfl⟩ | ⟨differs, old_found⟩
    · have id_eq : reached.draft.id = draft.id := turns.sameIdentity.id_eq
      have last_accountable := belongs.related_of_found (drafts ▸ there_found) live_there
        there_project_found
      rw [current_eq, id_eq, replaced.found] at there_project_found
      cases there_project_found
      rw [ledger_advance_of_found found (drafts ▸ there_found)]
      have fits := balanced.fits other draft project found live project_found
      show Account.Fits _ after.snapshot changed reached.draft
      rw [host, current_eq]
      exact fits.turnover accountable.tracks last_accountable.tracks id_eq replaced.contains_eq
        turnover
    · have other_id := balanced.belongs.id_ne found live old_found live_there differs
      have project_eq := replaced.project?_of_ne other_id
      rw [current_eq, project_eq] at there_project_found
      exact balanced.fits_still old_found (drafts ▸ there_found) live_there there_project_found rfl
        rfl rfl fun _ _ => rfl
  · rw [drafts, List.getElem?_eq_none_iff, List.length_set] at missing
    exact List.getElem?_eq_none_iff.mpr missing

theorem Balanced.putIn (balanced : Balanced comparison chronicle) {info : ProjectInfo}
    {store : Store}
    (belongs : (chronicle.workspace.putIn info store).Belongs comparison Draft.Accountable)
    (absent : chronicle.workspace.live.get? info.id = none)
    (current : store.current = (chronicle.workspace.snapshot.write info.id
      (.ofInfo info)).withVersion (chronicle.workspace.snapshot.version + 1)) :
    (chronicle.advance (chronicle.workspace.putIn info store)).Balanced comparison := by
  have project?_eq := Workspace.project?_putIn current
  refine balanced.advance belongs ?_ ?_ fun place missing => ?_
  · have missing : chronicle.workspace.snapshot.contains info.id = false := by
      rw [← Snapshot.project?_eq_none_iff, Option.eq_none_iff_forall_not_mem]
      intro project found
      obtain ⟨place, live⟩ := balanced.belongs.live_of_project info.id project found
      rw [absent] at live
      cases live
    have added : chronicle.workspace.snapshot.addProject info =
        .ok (chronicle.workspace.snapshot.write info.id (.ofInfo info)) := by
      rw [Snapshot.addProject, missing]
      rfl
    have sound := (Snapshot.shrunk_addProject balanced.sound.keyed info added).sound balanced.sound
    show store.current.Sound
    rw [current]
    exact ⟨sound.keyed, sound.acyclic⟩
  · intro place there project there_found live project_found
    rw [project?_eq] at project_found
    rcases Workspace.getElem?_concat_cases there_found with old | ⟨rfl, rfl⟩
    · rw [if_neg (balanced.belongs.id_ne_of_absent absent old live)] at project_found
      exact balanced.fits_still old there_found live project_found rfl rfl rfl fun _ _ => rfl
    · have missing : chronicle.workspace.drafts[chronicle.workspace.drafts.length]? = none :=
        List.getElem?_eq_none_iff.mpr (Nat.le_refl _)
      cases (if_pos rfl).symm.trans project_found
      rw [ledger_advance_of_missing missing, balanced.blank _ missing]
      exact Account.fits_ofInfo _ _ info
  · have drafts_eq : (chronicle.workspace.putIn info store).drafts =
        chronicle.workspace.drafts ++ [.ofInfo chronicle.workspace.host.comparison info] := rfl
    rw [drafts_eq, List.getElem?_eq_none_iff, List.length_append] at missing
    exact List.getElem?_eq_none_iff.mpr (by omega)

theorem Balanced.takeOut (balanced : Balanced comparison chronicle) {place : Nat} {id : ProjectId}
    {draft : Draft} {removed : Session}
    (belongs : (chronicle.workspace.takenOut place id removed).Belongs comparison
      Draft.Accountable)
    (live : chronicle.workspace.live.get? id = some place)
    (found : chronicle.workspace.drafts[place]? = some draft)
    (done : { host := chronicle.workspace.host, draft : Session }.removeProject =
      (.ok (), removed)) :
    (chronicle.advance (chronicle.workspace.takenOut place id removed)).Balanced comparison := by
  obtain ⟨rfl, unremoved, discarded, _, taken, completed, current⟩ :=
    balanced.belongs.takeOut_cases live found done
  have project?_eq := balanced.belongs.project?_takenOut found unremoved completed current
  refine balanced.advance belongs ?_ ?_ fun other missing => ?_
  · have sound := (Snapshot.shrunk_removeProject balanced.sound.keyed completed).sound
      balanced.sound
    show removed.current.Sound
    rw [current]
    exact ⟨sound.keyed, sound.acyclic⟩
  · intro other last changed last_found live_last changed_found
    obtain ⟨there, there_found, live_there, differs, rfl⟩ :=
      balanced.belongs.live_takenOut_cases found unremoved discarded last_found live_last
    have changed_found :=
      ((if_neg differs).symm.trans (project?_eq there.id).symm).trans changed_found
    obtain ⟨project, project_found, rfl⟩ := Option.map_eq_some_iff.mp changed_found
    have accountable := balanced.belongs.related_of_found there_found live_there project_found
    refine balanced.fits_still there_found last_found live_there project_found rfl rfl ?_
      fun line present => ?_
    · rw [Snapshot.cutOff]
      split <;> rfl
    · rw [(Project.booked_cutOff accountable.tracks.booked draft.id).2 line, if_neg]
      intro same
      obtain ⟨gone, gone_found⟩ := Snapshot.contains_iff.mp present
      rw [project?_eq, if_pos same] at gone_found
      cases gone_found
  · rw [Workspace.takenOut, Workspace.getElem?_forgetReferencesTo, Option.map_eq_none_iff,
      List.getElem?_eq_none_iff, List.length_set] at missing
    exact List.getElem?_eq_none_iff.mpr missing

/-! ## Commands -/

theorem Balanced.portion (balanced : Balanced comparison chronicle)
    (belongs : after.Belongs comparison Draft.Accountable)
    (portion : chronicle.workspace.Portion after) :
    (chronicle.advance after).Balanced comparison := by
  cases portion with
  | quiet quiet => exact balanced.quiet belongs quiet
  | worked found live turns host drafts =>
    exact balanced.worked belongs found live turns host drafts
  | putIn absent current => exact balanced.putIn belongs absent current

/-- What belongs to a workspace belongs to it after a command. -/
theorem belongs_step {workspace : Workspace}
    (belongs : workspace.Belongs comparison Draft.Accountable) (command : Command) :
    (workspace.step command).2.Belongs comparison Draft.Accountable :=
  Workspace.run_of_change _
    (fun belongs change => belongs.change (Draft.lasting_accountable comparison) change) belongs
    [command]

theorem belongs_prepare {workspace : Workspace}
    (belongs : workspace.Belongs comparison Draft.Accountable) (command : Command) :
    (workspace.prepare command).Belongs comparison Draft.Accountable := by
  cases command with
  | edit place edit =>
    cases found : workspace.drafts[place]? with
    | none =>
      simp only [Workspace.prepare, Workspace.onDraft, found]
      exact belongs
    | some draft =>
      rw [Workspace.prepare_edit found, Session.prepare]
      split
      · have committed := belongs_step belongs (.edit place .commitPending)
        rw [Workspace.step_edit found] at committed
        exact committed
      · rw [Workspace.worked_self found]
        exact belongs
  | _ => exact belongs

theorem Balanced.prepare (balanced : Balanced comparison chronicle) (command : Command) :
    (chronicle.prepare command).Balanced comparison :=
  balanced.portion (belongs_prepare balanced.belongs command)
    (chronicle.workspace.portion_prepare command)

theorem Balanced.step (balanced : Balanced comparison chronicle) (command : Command) :
    (chronicle.step command).Balanced comparison := by
  have prepared := balanced.prepare command
  have belongs := belongs_step balanced.belongs command
  by_cases removal : ∃ id, command = .removeProject id
  · obtain ⟨id, rfl⟩ := removal
    have belongs : (chronicle.workspace.removeProject id).2.Belongs comparison
        Draft.Accountable := belongs
    show Balanced comparison ((chronicle.prepare (.removeProject id)).advance
      (chronicle.workspace.removeProject id).2)
    rcases chronicle.workspace.removeProject_cases id with
      ⟨ground, drafts, _⟩ | ⟨place, draft, removed, live, found, done, taken⟩
    · exact prepared.quiet belongs (Workspace.quiet_of_same drafts ground.current)
    · rw [taken] at belongs ⊢
      exact prepared.takeOut belongs live found done
  · exact prepared.portion belongs (chronicle.workspace.portion_step fun id same =>
      removal ⟨id, same⟩)

theorem Balanced.run (balanced : Balanced comparison chronicle) (commands : List Command) :
    (chronicle.run commands).Balanced comparison := by
  induction commands generalizing chronicle with
  | nil => exact balanced
  | cons command rest ih => exact ih (balanced.step command)

/-- Along every run the accounts agree with the projects. -/
theorem balanced_run (comparison : PathComparison) (watcher : Watcher) (editor : Editor)
    (refusals : Nat → Option String) (commands : List Command) :
    ((starting comparison watcher editor refusals).run commands).Balanced comparison :=
  (balanced_starting comparison watcher editor refusals).run commands

/-! ## Runs that remove no project -/

/-- Every committed reference of a live project has an entry. -/
def Complete (chronicle : Chronicle) : Prop :=
  ∀ (place : Nat) draft, chronicle.workspace.drafts[place]? = some draft →
    draft.removed = false → ∀ reference ∈ draft.committedReferences,
      ∃ entry, (chronicle.ledger place).entries reference = some entry

theorem Balanced.grows (balanced : Balanced comparison chronicle)
    (portion : chronicle.workspace.Portion after) (id : ProjectId)
    (present : chronicle.workspace.snapshot.contains id = true) :
    after.snapshot.contains id = true := by
  cases portion with
  | quiet quiet => exact (quiet.snapshot.contains_eq id).trans present
  | @worked place draft reached _ found live turns host _ =>
    obtain ⟨project, project_found, accountable⟩ :=
      balanced.belongs.related place draft found live
    obtain ⟨_, replaced, _⟩ := turns.turnover project balanced.sound.keyed project_found accountable
    have current_eq : after.snapshot = reached.current :=
      congrArg (fun host => host.store.current) host
    rw [current_eq]
    exact (replaced.contains_eq id).trans present
  | @putIn info store absent current =>
    obtain ⟨project, found⟩ := Snapshot.contains_iff.mp present
    rw [Snapshot.contains_iff]
    simp only [Workspace.project?_putIn current]
    split
    · exact ⟨_, rfl⟩
    · exact ⟨project, found⟩

/-- A live draft was live before a portion, or is new. -/
theorem draft_cases_of_portion {workspace : Workspace} (portion : workspace.Portion after)
    {place : Nat} {there : Draft} (there_found : after.drafts[place]? = some there)
    (live : there.removed = false) :
    (∃ draft, workspace.drafts[place]? = some draft ∧ draft.removed = false) ∨
      there.committedReferences = [] := by
  cases portion with
  | quiet quiet =>
    obtain ⟨draft, found, outline_eq⟩ := quiet.of_draft there_found
    exact Or.inl ⟨draft, found, (Draft.removed_of_outline outline_eq).symm.trans live⟩
  | worked found live_here _ _ drafts =>
    rw [drafts] at there_found
    rcases Workspace.getElem?_set_cases there_found with ⟨rfl, _⟩ | ⟨_, old_found⟩
    · exact Or.inl ⟨_, found, live_here⟩
    · exact Or.inl ⟨there, old_found, live⟩
  | putIn _ _ =>
    rcases Workspace.getElem?_concat_cases there_found with old | ⟨_, rfl⟩
    · exact Or.inl ⟨there, old, live⟩
    · exact Or.inr rfl

theorem Complete.portion (complete : chronicle.Complete)
    (balanced : Balanced comparison chronicle)
    (portion : chronicle.workspace.Portion after) : (chronicle.advance after).Complete := by
  intro place there there_found live reference committed
  have there_found : after.drafts[place]? = some there := there_found
  rcases draft_cases_of_portion portion there_found live with ⟨draft, found, live_draft⟩ | nothing
  · obtain ⟨project, project_found, _⟩ := balanced.belongs.related place draft found live_draft
    rw [ledger_advance_of_found found there_found]
    let session : Session := { host := chronicle.workspace.host, draft }
    let next : Session := { host := after.host, draft := there }
    have fits : Account.Fits _ session.current project session.draft :=
      balanced.fits place draft project found live_draft project_found
    have committed : reference ∈ next.draft.committedReferences := committed
    exact fits.exists_entry (complete place draft found live_draft) (balanced.grows portion)
      committed
  · rw [nothing] at committed
    cases committed

theorem complete_run (balanced : Balanced comparison chronicle) (complete : chronicle.Complete)
    (commands : List Command) (stay : ∀ id, Command.removeProject id ∉ commands) :
    (chronicle.run commands).Complete := by
  induction commands generalizing chronicle with
  | nil => exact complete
  | cons command rest ih =>
    have prepared := complete.portion balanced (chronicle.workspace.portion_prepare command)
    have portion := chronicle.workspace.portion_step fun id same =>
      stay id (same ▸ List.mem_cons_self)
    exact ih (balanced.step command) (prepared.portion (balanced.prepare command) portion)
      fun id removal => stay id (List.mem_cons_of_mem _ removal)

/-- Every live project of a chronicle still has what each of its committed metadata references was
represented as. -/
def Upheld (chronicle : Chronicle) : Prop :=
  ∀ (place : Nat) draft, chronicle.workspace.drafts[place]? = some draft →
    draft.removed = false → ∃ project,
      chronicle.workspace.snapshot.project? draft.id = some project ∧
        ∀ reference ∈ draft.committedReferences, ∃ entry,
          (chronicle.ledger place).entries reference = some entry ∧
            (chronicle.ledger place).Upholds project draft reference entry.kept

theorem Balanced.upheld (balanced : Balanced comparison chronicle)
    (complete : chronicle.Complete) : chronicle.Upheld := by
  intro place draft found live
  obtain ⟨project, project_found, _⟩ := balanced.belongs.related place draft found live
  refine ⟨project, project_found, fun reference committed => ?_⟩
  obtain ⟨entry, entry_found⟩ := complete place draft found live reference committed
  exact ⟨entry, entry_found,
    (balanced.fits place draft project found live project_found).upholds entry_found⟩

/-- In every run that removes no project, what metadata references were represented as when they
were committed stays, and only strays take holders from it.  This holds between commands, and inside
of one after what was left waiting has been committed. -/
theorem upheld_run (comparison : PathComparison) (watcher : Watcher) (editor : Editor)
    (refusals : Nat → Option String) (commands : List Command)
    (stay : ∀ id, Command.removeProject id ∉ commands) :
    ((starting comparison watcher editor refusals).run commands).Upheld ∧
      ∀ command, (((starting comparison watcher editor refusals).run commands).prepare
        command).Upheld := by
  have balanced := balanced_run comparison watcher editor refusals commands
  have complete := complete_run (balanced_starting comparison watcher editor refusals)
    (fun _ _ found => by cases found) commands stay
  refine ⟨balanced.upheld complete, fun command => (balanced.prepare command).upheld ?_⟩
  exact complete.portion balanced (Workspace.portion_prepare _ command)

/-- In every run that removes no project, a committed metadata reference keeps what it was
represented as, whichever others are taken out: if it was committed as itself it is still listed,
and if it was converted into a line that no stray concerns, the line is there and has a holder for
each committed reference that was converted into it. -/
theorem kept_run (comparison : PathComparison) (watcher : Watcher) (editor : Editor)
    (refusals : Nat → Option String) (commands : List Command)
    (stay : ∀ id, Command.removeProject id ∉ commands) :
    let last := (starting comparison watcher editor refusals).run commands
    ∀ reached, (reached = last ∨ ∃ command, reached = last.prepare command) →
      ∀ (place : Nat) draft, reached.workspace.drafts[place]? = some draft →
        draft.removed = false →
        ∃ project, reached.workspace.snapshot.project? draft.id = some project ∧
          ∀ reference ∈ draft.committedReferences,
            ∃ entry, (reached.ledger place).entries reference = some entry ∧
              (entry.kept = .content reference ∧ reference ∈ project.metadataReferences ∨
                ∃ line, entry.kept = .structural line ∧
                  ((reached.ledger place).straysOn line = 0 →
                    line ∈ project.projectReferences ∧
                      (reached.ledger place).convertedInto draft.committedReferences line ≤
                        (project.holding line).converted)) := by
  intro last reached on_the_way place draft found live
  have upheld : reached.Upheld := by
    have throughout := upheld_run comparison watcher editor refusals commands stay
    rcases on_the_way with rfl | ⟨command, rfl⟩
    · exact throughout.1
    · exact throughout.2 command
  obtain ⟨project, project_found, kept⟩ := upheld place draft found live
  refine ⟨project, project_found, fun reference committed => ?_⟩
  obtain ⟨entry, entered, upholds⟩ := kept reference committed
  exact ⟨entry, entered, upholds.kept committed entered⟩

/-- Two references are converted into the same reference to a project, a third one is committed as
itself, and then one of the converted ones is taken out. -/
def besideWithdrawn : List Command :=
  [.createProject ⟨⟨.ofNat 1⟩, "C#", { name := "A", assemblyName := "A" }⟩,
    .createProject ⟨⟨.ofNat 2⟩, "C#",
      { name := "B", assemblyName := "B", outputPath? := some "/b"
        outputReferencePath? := some "/r" }⟩,
    .edit 0 (.addMetadataReference { path := "/b" }),
    .edit 0 (.addMetadataReference { path := "/r" }),
    .edit 0 (.addMetadataReference { path := "/x" }),
    .edit 0 (.removeMetadataReference { path := "/b" })]

theorem kept_besideWithdrawn :
    let reached := (starting .ordinal {} .absent fun _ => none).run besideWithdrawn
    (∀ id, Command.removeProject id ∉ besideWithdrawn) ∧
      ∃ draft project, reached.workspace.drafts[0]? = some draft ∧
        draft.committedReferences = [{ path := "/r" }, { path := "/x" }] ∧
        reached.workspace.snapshot.project? draft.id = some project ∧
        { path := "/x" } ∈ project.metadataReferences ∧
        { target := ⟨.ofNat 2⟩ } ∈ project.projectReferences ∧
        1 ≤ (project.holding { target := ⟨.ofNat 2⟩ }).converted := by
  intro reached
  have stay : ∀ id, Command.removeProject id ∉ besideWithdrawn := by simp [besideWithdrawn]
  have reckoned :
      reached.workspace.drafts[0]?.any (fun draft => !draft.removed &&
          decide (draft.committedReferences = [{ path := "/r" }, { path := "/x" }])) = true ∧
        (reached.ledger 0).strays = [] ∧
        (reached.ledger 0).entries { path := "/r" } =
          some ⟨.structural { target := ⟨.ofNat 2⟩ }, some ⟨.ofNat 2⟩⟩ ∧
        (reached.ledger 0).entries { path := "/x" } = some ⟨.content { path := "/x" }, none⟩ := by
    decide_cbv
  obtain ⟨looked, unstrayed, entered, entered_itself⟩ := reckoned
  obtain ⟨draft, found, seen⟩ := (Option.any_eq_true _ _).mp looked
  simp only [Bool.and_eq_true, Bool.not_eq_true', decide_eq_true_eq] at seen
  obtain ⟨live, committed⟩ := seen
  obtain ⟨project, project_found, kept⟩ :=
    kept_run .ordinal {} .absent (fun _ => none) besideWithdrawn stay reached (.inl rfl) 0 draft
      found live
  refine ⟨stay, draft, project, found, committed, project_found, ?_, ?_⟩
  · obtain ⟨entry, there, ⟨-, listed⟩ | ⟨line, same, -⟩⟩ :=
      kept { path := "/x" } (by simp [committed])
    · exact listed
    · cases entered_itself.symm.trans there
      cases same
  · obtain ⟨entry, there, ⟨same, -⟩ | ⟨line, same, standing⟩⟩ :=
      kept { path := "/r" } (by simp [committed])
    · cases entered.symm.trans there
      cases same
    · cases entered.symm.trans there
      cases same
      obtain ⟨present, counted⟩ := standing (by rw [Account.straysOn, unstrayed, List.countP_nil])
      have converted : 0 < (reached.ledger 0).convertedInto draft.committedReferences _ :=
        Account.convertedInto_pos (by simp [committed]) entered
      exact ⟨present, Nat.le_trans converted counted⟩

/-- A reference to a file that another project publishes is added while that project refers back,
so that it is not converted.  A second file of that project is converted.  Then the reference to the
first file is taken out. -/
def takenInstead : List Command :=
  [.createProject ⟨⟨.ofNat 1⟩, "C#", { name := "A", assemblyName := "A" }⟩,
    .createProject ⟨⟨.ofNat 2⟩, "C#",
      { name := "B", assemblyName := "B", outputPath? := some "/b"
        outputReferencePath? := some "/r" }⟩,
    .edit 1 (.addProjectReference { target := ⟨.ofNat 1⟩ }),
    .edit 0 (.addMetadataReference { path := "/b" }),
    .edit 1 (.removeProjectReference ⟨.ofNat 1⟩),
    .edit 0 (.addMetadataReference { path := "/r" }),
    .edit 0 (.removeMetadataReference { path := "/b" })]

/-- The removal takes the other reference away and leaves its own behind, although the same project
publishes both files all the time. -/
theorem reference_lost_takenInstead :
    let reached past := (Workspace.starting .ordinal {} .absent fun _ => none).run past
    let listed past := (reached past).snapshot.project? ⟨.ofNat 1⟩
    let committed past := (reached past).drafts[0]?.map Draft.committedReferences
    (∀ past ∈ takenInstead.inits.drop 2,
        (reached past).host.outputs.owner? "/b" = some ⟨.ofNat 2⟩ ∧
          (reached past).host.outputs.owner? "/r" = some ⟨.ofNat 2⟩) ∧
      committed takenInstead.dropLast = some [{ path := "/b" }, { path := "/r" }] ∧
      (listed takenInstead.dropLast).map Project.metadataReferences = some [{ path := "/b" }] ∧
      (listed takenInstead.dropLast).map Project.projectReferences =
        some [{ target := ⟨.ofNat 2⟩ }] ∧
      committed takenInstead = some [{ path := "/r" }] ∧
      (listed takenInstead).map Project.metadataReferences = some [{ path := "/b" }] ∧
      (listed takenInstead).map Project.projectReferences = some [] := by
  decide_cbv

end Chronicle

end CodeWorkspace
