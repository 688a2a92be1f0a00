import CodeWorkspace.Proofs.Session.Stale
import Mathlib.Data.List.Permutation

/-!
# What can be committed

Over a store that refuses nothing, whatever a project accepted can be committed later, but for two
reasons: other projects may have come to refer back to a project that a reference waits for, and a
metadata reference may still be listed as itself because it was represented otherwise when it was
removed.  How it is represented changes with the outputs of other projects and with the references
between them.
-/

namespace CodeWorkspace

/-- The edit that a command makes. -/
def Command.edit? : Command → Option Edit
  | .edit _ change => some change
  | _ => none

namespace Session

variable {session : Session} {edit : Edit} {error : StoreError}

theorem removeProject_refusals (session : Session) :
    session.removeProject.2.host.store.refusals = session.host.store.refusals := by
  rw [removeProject]
  split
  · rfl
  · simp only [transform]
    rcases session.host.store.transform_cases session.draft.id fun snapshot =>
      snapshot.removeProject session.draft.id with ⟨error, failed⟩ | ⟨next, _, committed⟩
    · rw [failed]
      rfl
    · rw [committed]
      rfl

theorem perform_ne_store_of_removed (removed : session.draft.removed = true) :
    (session.perform edit).1 ≠ .error (.store error) := by
  by_cases mutation : edit.isMutation = true
  · cases objection : edit.objection? session.draft.id with
    | some failure =>
      rw [perform_of_objection objection]
      intro failed
      cases Except.error.inj failed
      exact objection?_ne_store objection
    | none =>
      obtain ⟨operation, performed, _⟩ := exists_operation mutation
      rw [performed session objection, update_of_removed removed]
      intro failed
      cases failed
  · cases edit with
    | commitPending =>
      simp [perform, finishing, answering, commitPending, removed, Except.map]
    | fileChanged path => simp [perform, answering, fileChanged, removed, Except.map]
    | _ => exact absurd rfl mutation

end Session

namespace Workspace

variable {comparison : PathComparison} {known : List DocumentId} {workspace : Workspace}
  {error : StoreError}

/-- The store refuses nothing. -/
def Accepting (workspace : Workspace) : Prop :=
  ∀ attempt, workspace.host.store.refusals attempt = none

theorem Accepting.of_same {next : Workspace} (accepting : workspace.Accepting)
    (same : next.host.store.refusals = workspace.host.store.refusals) : next.Accepting := by
  intro attempt
  rw [same]
  exact accepting attempt

theorem Accepting.onDraft {α : Type} (accepting : workspace.Accepting) (place : Nat) (absent : α)
    (operation : Session → α × Session)
    (same : ∀ session : Session,
      (operation session).2.host.store.refusals = session.host.store.refusals) :
    (workspace.onDraft place absent operation).2.Accepting := by
  rw [Workspace.onDraft]
  split
  · exact accepting
  · exact accepting.of_same (same _)

theorem Accepting.dispatchTo (accepting : workspace.Accepting) (path : String)
    (places : List Nat) : (workspace.dispatchTo path places).2.Accepting := by
  induction places generalizing workspace with
  | nil => exact accepting
  | cons place rest ih =>
    have told := accepting.onDraft place (Except.ok false)
      (fun session => session.fileChanged path)
      fun session => (session.fileChanged_advances path).refusals
    simp only [Workspace.dispatchTo]
    split <;> exact ih told

theorem Accepting.pump (accepting : workspace.Accepting) (paths : List String) :
    (workspace.pump paths).Accepting := by
  induction paths generalizing workspace with
  | nil => exact accepting
  | cons path rest ih => exact ih (accepting.dispatchTo path workspace.live.values)

/-- A store that refuses nothing goes on to do so unless it is told otherwise. -/
theorem Accepting.step (accepting : workspace.Accepting) {command : Command}
    (quiet : ∀ reason, command ≠ .refuse (some reason)) :
    (workspace.step command).2.Accepting := by
  cases command with
  | edit place edit =>
    refine accepting.onDraft place _ _ fun session => ?_
    obtain ⟨_, _, advances⟩ := session.perform_advances edit
    exact advances.refusals
  | createProject info =>
    simp only [Workspace.step, Workspace.createProject]
    split
    · exact accepting
    · split
      · exact accepting
      · rcases workspace.host.store.transform_cases info.id fun snapshot =>
          snapshot.addProject info with ⟨error, failed⟩ | ⟨added, _, committed⟩
        · simp only [failed]
          exact accepting.of_same rfl
        · simp only [committed]
          exact accepting.of_same rfl
  | removeProject id =>
    simp only [Workspace.step, Workspace.removeProject]
    split
    · exact accepting
    · rename_i place _
      have removed := accepting.onDraft place (Except.error (.unknownProject id))
        Session.removeProject Session.removeProject_refusals
      split
      · rename_i outcome
        rw [outcome] at removed
        exact removed
      · rename_i outcome
        rw [outcome] at removed
        exact removed.of_same rfl
  | openScope place =>
    have opened := accepting.onDraft place (Except.ok 0) Session.beginBatch
      fun session => session.beginBatch_advances.refusals
    simp only [Workspace.step, Workspace.openScope]
    split
    · exact opened.of_same rfl
    · exact opened
  | releaseScope number =>
    simp only [Workspace.step, Workspace.releaseScope]
    split
    · exact accepting
    · split
      · exact accepting
      · refine Accepting.onDraft ?_ _ _ _ fun session => session.endBatch_advances.refusals
        exact accepting.of_same rfl
  | dispatch path => exact accepting.dispatchTo path _
  | raise path =>
    have raised : (workspace.withHost { workspace.host with
        watcher := (workspace.host.watcher.raise path).receiveAll.2 }).Accepting :=
      accepting.of_same rfl
    exact raised.pump _
  | refuse reason? =>
    cases reason? with
    | none => exact fun _ => rfl
    | some reason => exact absurd rfl (quiet reason)
  | openPath path => exact accepting.of_same rfl
  | closePath path => exact accepting.of_same rfl

theorem Accepting.run (accepting : workspace.Accepting) (commands : List Command)
    (quiet : ∀ reason, Command.refuse (some reason) ∉ commands) :
    (workspace.run commands).Accepting := by
  induction commands generalizing workspace with
  | nil => exact accepting
  | cons command rest ih =>
    refine ih (accepting.step fun reason same => ?_) fun reason later => ?_
    · exact quiet reason (same ▸ List.mem_cons_self)
    · exact quiet reason (List.mem_cons_of_mem _ later)

/-! ## Commands that fail -/

/-- The place of the draft whose changes a command may commit. -/
def concerned? (workspace : Workspace) : Command → Option Nat
  | .edit place _ => some place
  | .releaseScope number => workspace.scopes[number]?.map Scope.draft
  | _ => none

/-- What a command adds to a project, or what waits there, is out of date. -/
def StaleFor (workspace : Workspace) (command : Command) (error : StoreError) : Prop :=
  ∃ place draft project fault, workspace.concerned? command = some place ∧
    workspace.drafts[place]? = some draft ∧ draft.removed = false ∧
    workspace.snapshot.project? draft.id = some project ∧ error = .fault fault ∧
    Session.Stale { host := workspace.host, draft } project command.edit? fault

theorem Keeps.tracked (keeps : workspace.Keeps comparison (Draft.InStep comparison) known)
    (accepting : workspace.Accepting) {place : Nat} {draft : Draft}
    (found : workspace.drafts[place]? = some draft) (live : draft.removed = false) :
    ∃ project, workspace.snapshot.project? draft.id = some project ∧
      Session.Tracked comparison { host := workspace.host, draft } project := by
  obtain ⟨project, project_found, inStep⟩ := keeps.related place draft found live
  exact ⟨project, project_found, accepting, keeps.keyed, project_found, inStep⟩

/-- A change that adds or removes a project cannot fail for a reason of an accepting store. -/
theorem transform_completes {store : Store} (accepting : ∀ attempt, store.refusals attempt = none)
    {id : ProjectId} {change : Snapshot → Except Fault Snapshot} {next : Snapshot}
    (completed : change store.current = .ok next) : (store.transform id change).1 = .ok () := by
  rw [Store.transform, accepting]
  simp only [completed]

theorem blankPart?_ne_store {info : ProjectInfo} :
    blankPart? info ≠ some (.store error) := by
  intro blank
  simp only [blankPart?] at blank
  split at blank
  · cases blank
  · split at blank
    · cases blank
    · split at blank <;> cases blank

theorem Keeps.createProject_ne_store {relation : Project → Draft → Prop}
    (keeps : workspace.Keeps comparison relation known) (accepting : workspace.Accepting)
    (info : ProjectInfo) : (workspace.createProject info).1 ≠ .error (.store error) := by
  rw [Workspace.createProject]
  cases blank : blankPart? info with
  | some failure =>
    intro failed
    cases Except.error.inj failed
    exact blankPart?_ne_store blank
  | none =>
    simp only
    split
    · intro failed
      cases failed
    · rename_i absent
      have free : workspace.host.store.current.contains info.id = false := by
        rw [Bool.eq_false_iff]
        intro present
        obtain ⟨project, found⟩ := Snapshot.contains_iff.mp present
        obtain ⟨place, live⟩ := keeps.live_of_project info.id project found
        rw [← OrderedMap.isSome_get?, live] at absent
        exact absent rfl
      have completes : (workspace.host.store.transform info.id fun snapshot =>
          snapshot.addProject info).1 = .ok () :=
        transform_completes accepting (if_neg (free ▸ Bool.false_ne_true))
      cases outcome : workspace.host.store.transform info.id fun snapshot =>
        snapshot.addProject info with
      | mk result store =>
        rw [outcome] at completes
        cases completes
        intro failed
        cases failed

theorem Keeps.removeProject_ne_store {relation : Project → Draft → Prop}
    (keeps : workspace.Keeps comparison relation known) (accepting : workspace.Accepting)
    (id : ProjectId) : (workspace.removeProject id).1 ≠ .error (.store error) := by
  rw [Workspace.removeProject]
  split
  · intro failed
    cases failed
  · rename_i place live
    obtain ⟨draft, found, rfl, unremoved⟩ := keeps.draft_of_live id place live
    obtain ⟨project, project_found, _⟩ := keeps.related place draft found unremoved
    have present : workspace.host.store.current.contains draft.id = true :=
      Snapshot.contains_iff.mpr ⟨project, project_found⟩
    have completes : (workspace.host.store.transform draft.id fun snapshot =>
        snapshot.removeProject draft.id).1 = .ok () :=
      transform_completes accepting (if_pos present)
    cases outcome : workspace.host.store.transform draft.id fun snapshot =>
      snapshot.removeProject draft.id with
    | mk result store =>
      rw [outcome] at completes
      cases completes
      simp only [Workspace.onDraft, found, Session.removeProject, unremoved, Session.transform,
        outcome]
      intro failed
      cases failed

theorem openScope_ne_store (workspace : Workspace) (place : Nat) :
    (workspace.openScope place).1 ≠ .error (.store error) := by
  have opened : (workspace.openScope place).1 =
      (workspace.onDraft place (.ok 0) Session.beginBatch).1 := by
    simp only [openScope]
    split <;> rfl
  rw [opened, onDraft]
  split
  · intro failed
    cases failed
  · simp only [Session.beginBatch]
    split
    · intro failed
      cases failed
    · intro failed
      cases failed

/-- In a workspace whose drafts are in step with their projects, a command fails for a reason of
an accepting store only if something is out of date. -/
theorem Keeps.staleFor_of_step
    (keeps : workspace.Keeps comparison (Draft.InStep comparison) known)
    (accepting : workspace.Accepting) {command : Command}
    (fresh : ∀ id ∈ command.drawn, id ∉ known)
    (failed : (workspace.step command).1 = .error (.store error)) :
    workspace.StaleFor command error := by
  cases command with
  | createProject info =>
    exact absurd (error_of_map failed) (keeps.createProject_ne_store accepting info)
  | removeProject id =>
    exact absurd (error_of_map failed) (keeps.removeProject_ne_store accepting id)
  | edit place edit =>
    simp only [step, Workspace.onDraft] at failed
    split at failed
    · cases failed
    · rename_i draft found
      cases removed : draft.removed with
      | true => exact absurd failed (Session.perform_ne_store_of_removed removed)
      | false =>
        obtain ⟨project, project_found, tracked⟩ := keeps.tracked accepting found removed
        obtain ⟨fault, rfl, stale⟩ := tracked.stale_of_perform_error
          (fun id drawn own => fresh id drawn (keeps.known_ids place draft found id own)) failed
        exact ⟨place, draft, project, fault, rfl, found, removed, project_found, rfl, stale⟩
  | openScope place =>
    exact absurd (error_of_map failed) (openScope_ne_store workspace place)
  | releaseScope number =>
    have failed : (workspace.releaseScope number).1 = .error (.store error) := error_of_map failed
    rw [Workspace.releaseScope] at failed
    split at failed
    · cases failed
    · rename_i scope scope_found
      split at failed
      · cases failed
      · simp only [Workspace.onDraft] at failed
        split at failed
        · cases failed
        · rename_i draft found
          cases removed : draft.removed with
          | true =>
            simp [Session.endBatch, removed] at failed
          | false =>
            obtain ⟨project, project_found, tracked⟩ := keeps.tracked accepting found removed
            obtain ⟨fault, rfl, stale⟩ := tracked.stale_of_endBatch_error failed
            refine ⟨scope.draft, draft, project, fault, ?_, found, removed, project_found, rfl,
              stale⟩
            rw [concerned?, scope_found]
            rfl
  | dispatch path => cases failed
  | raise path => cases failed
  | refuse reason? => cases failed
  | openPath path => cases failed
  | closePath path => cases failed

/-- After any run over a store that refuses nothing, a command fails for a reason of the store only
if what it adds, or what waits in the project that it concerns, is out of date. -/
theorem staleFor_of_store_error (comparison : PathComparison) (watcher : Watcher)
    (editor : Editor) (commands : List Command) (command : Command)
    (quiet : ∀ reason, Command.refuse (some reason) ∉ commands)
    (distinct : ((commands ++ [command]).flatMap Command.drawn).Nodup) (error : StoreError)
    (failed : (((starting comparison watcher editor fun _ => none).run commands).step command).1 =
      .error (.store error)) :
    ((starting comparison watcher editor fun _ => none).run commands).StaleFor command error := by
  rw [List.flatMap_append, List.flatMap_singleton] at distinct
  obtain ⟨run_distinct, _, apart⟩ := List.nodup_append.mp distinct
  have keeps := keeps_run (Draft.kept_inStep comparison)
    (keeps_starting comparison _ watcher editor fun _ => none) commands run_distinct
  have accepting : (starting comparison watcher editor fun _ => none).Accepting := fun _ => rfl
  refine keeps.staleFor_of_step (accepting.run commands quiet) (fun id drawn known => ?_)
    failed
  exact apart id known id drawn rfl

/-- What is answered to commands that are carried out one after another. -/
def answers (workspace : Workspace) : List Command → List (Except Failure Answer)
  | [] => []
  | command :: rest => (workspace.step command).1 :: (workspace.step command).2.answers rest

/-- Two projects come to refer to each other in batches that are open at the same time. -/
def crossingBatches : List Command :=
  [.createProject ⟨⟨.ofNat 1⟩, "C#", { name := "A", assemblyName := "A" }⟩,
    .createProject ⟨⟨.ofNat 2⟩, "C#", { name := "B", assemblyName := "B" }⟩,
    .openScope 0, .openScope 1,
    .edit 0 (.addProjectReference { target := ⟨.ofNat 2⟩ }),
    .edit 1 (.addProjectReference { target := ⟨.ofNat 1⟩ }),
    .releaseScope 0]

/-- A reference to a file is removed while the file is the output of another project, and added
again when it no longer is. -/
def relistedReference : List Command :=
  [.createProject ⟨⟨.ofNat 1⟩, "C#", { name := "A", assemblyName := "A" }⟩,
    .createProject ⟨⟨.ofNat 2⟩, "C#", { name := "B", assemblyName := "B" }⟩,
    .edit 0 (.addMetadataReference { path := "/b.dll" }),
    .edit 1 (.setProperty (.outputPath (some "/b.dll"))),
    .edit 0 (.removeMetadataReference { path := "/b.dll" }),
    .edit 1 (.setProperty (.outputPath none)),
    .edit 0 (.addMetadataReference { path := "/b.dll" })]

/-- Changes that were accepted cannot be committed in either of two runs without any refusal. -/
theorem answers_out_of_date :
    (starting .ordinal {} .absent fun _ => none).answers (crossingBatches ++ [.releaseScope 1]) =
        [.ok (.draft 0), .ok (.draft 1), .ok (.depth 1), .ok (.depth 1), .ok .done, .ok .done,
          .ok .done, .error (.store (.fault (.cycleDetected ⟨.ofNat 2⟩ ⟨.ofNat 1⟩)))] ∧
      (starting .ordinal {} .absent fun _ => none).answers relistedReference =
        [.ok (.draft 0), .ok (.draft 1), .ok .done, .ok (.changed true), .ok .done,
          .ok (.changed true),
          .error (.store (.fault (.duplicateReference ⟨.ofNat 1⟩ "/b.dll")))] := by
  decide_cbv

theorem staleFor_crossingBatches :
    (∀ reason, Command.refuse (some reason) ∉ crossingBatches) ∧
      ((crossingBatches ++ [Command.releaseScope 1]).flatMap Command.drawn).Nodup ∧
      (((starting .ordinal {} .absent fun _ => none).run crossingBatches).step
        (.releaseScope 1)).1 = .error (.store (.fault (.cycleDetected ⟨.ofNat 2⟩ ⟨.ofNat 1⟩))) ∧
      ((starting .ordinal {} .absent fun _ => none).run crossingBatches).StaleFor (.releaseScope 1)
        (.fault (.cycleDetected ⟨.ofNat 2⟩ ⟨.ofNat 1⟩)) := by
  have quiet : ∀ reason, Command.refuse (some reason) ∉ crossingBatches := by
    simp [crossingBatches]
  have distinct : ((crossingBatches ++ [Command.releaseScope 1]).flatMap Command.drawn).Nodup := by
    decide
  have failed : (((starting .ordinal {} .absent fun _ => none).run crossingBatches).step
      (.releaseScope 1)).1 = .error (.store (.fault (.cycleDetected ⟨.ofNat 2⟩ ⟨.ofNat 1⟩))) := by
    decide_cbv
  exact ⟨quiet, distinct, failed,
    staleFor_of_store_error .ordinal {} .absent crossingBatches (.releaseScope 1) quiet distinct _
      failed⟩

end Workspace

end CodeWorkspace
