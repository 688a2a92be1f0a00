import CodeWorkspace.Proofs.Session.NetEffect
import CodeWorkspace.Proofs.Workspace.Commits
import CodeWorkspace.Proofs.Workspace.Refusal
import CodeWorkspace.Proofs.Workspace.Scopes

/-!
# What a batch comes to

A batch of a draft in which nothing waits is opened, the draft is worked on in it, and the batch is
closed.  Then exactly the net effect of the work is submitted, in one attempt; and if there is none,
nothing is, the documents and watches are those from before, and the editor is told nothing.
-/

namespace CodeWorkspace

/-- One attempt is counted, whether it succeeds or not. -/
theorem Store.attempts_transform (store : Store) (project : ProjectId)
    (change : Snapshot → Except Fault Snapshot) :
    (store.transform project change).2.attempts = store.attempts + 1 := by
  rcases store.transform_cases project change with ⟨error, failed⟩ | ⟨next, _, committed⟩
  · rw [failed]
  · rw [committed]

namespace Workspace

variable {comparison : PathComparison} {start workspace : Workspace} {place : Nat}
  {draft now : Draft} {known : List DocumentId} {command : Command}

/-- Whether a command works on the draft at a place: changes it, or opens or closes one of its
batches. -/
def worksOn (workspace : Workspace) (place : Nat) : Command → Bool
  | .edit other edit => other = place && !(Command.edit other edit).isReport
  | .openScope other => other = place
  | .releaseScope number => workspace.scopes[number]?.all fun scope => scope.draft = place
  | _ => false

/-- Commands that work on one draft and leave a batch of it open, one after another. -/
def StaysInBatch (workspace : Workspace) (place : Nat) : List Command → Prop
  | [] => True
  | command :: rest =>
    workspace.worksOn place command = true ∧
      (workspace.step command).2.isBatchingAt place = true ∧
      (workspace.step command).2.StaysInBatch place rest

/-- What was changed by a batch that came to nothing: not even the watches and who holds them. -/
structure Untouched (place : Nat) (before after : Workspace) : Prop where
  store : after.host.store = before.host.store
  editor : after.host.editor = before.host.editor
  watches : after.host.watcher.active = before.host.watcher.active
  documents : ∃ draft last, before.drafts[place]? = some draft ∧
    after.drafts[place]? = some last ∧
      ∀ collection, (last.registry collection).entries = (draft.registry collection).entries
  others : ∀ other, other ≠ place → after.drafts[other]? = before.drafts[other]?

/-- What a batch comes to, given the drafts before it and at its end, what was answered inside of
it, and the outcome of closing it. -/
structure Settlement (place : Nat) (start full : Workspace) (draft now : Draft)
    (answers : List (Except Failure Answer)) (outcome : Except Failure Answer × Workspace) :
    Prop where
  effect : draft.NetEffect now
  nothing : draft.SameItems now → .ok (.changed true) ∉ answers →
    outcome.1 = .ok .done ∧ start.Untouched place outcome.2
  something : ¬ (draft.SameItems now ∧ .ok (.changed true) ∉ answers) →
    outcome.2.host.store = (start.host.store.transform draft.id fun snapshot =>
        Transition.applyAll draft.id snapshot (now.plan full.host.outputs snapshot)).2 ∧
      outcome.2.host.store.attempts = start.host.store.attempts + 1

/-- A workspace in the middle of a batch of a draft. -/
structure Gathering (place : Nat) (start : Workspace) (draft : Draft) (workspace : Workspace)
    (now : Draft) : Prop where
  found : workspace.drafts[place]? = some now
  gathers : Session.Gathers { host := start.host, draft }
    { host := workspace.host, draft := now }
  others : ∀ other, other ≠ place → workspace.drafts[other]? = start.drafts[other]?

theorem isBatchingAt_of_found (found : workspace.drafts[place]? = some now) :
    workspace.isBatchingAt place = now.isBatching := by
  rw [isBatchingAt, found, Option.any_some]

theorem Gathering.worked (gathering : Gathering place start draft workspace now)
    {session : Session} (gathers : Session.Gathers { host := start.host, draft } session)
    (scopes : List Scope) :
    Gathering place start draft { (workspace.worked place session) with scopes } session.draft where
  found := List.getElem?_set_self (List.getElem?_eq_some_iff.mp gathering.found).1
  gathers := gathers
  others other differs :=
    (List.getElem?_set_ne differs.symm).trans (gathering.others other differs)

/-- A command that works on the draft goes on with the batch; a property waits exactly if one did or
is set now. -/
theorem Gathering.step (gathering : Gathering place start draft workspace now)
    (batching : now.isBatching = true) (works : workspace.worksOn place command = true)
    (stays : (workspace.step command).2.isBatchingAt place = true)
    (fresh : ∀ id ∈ command.drawn, id ∉ now.ids) :
    ∃ next, Gathering place start draft (workspace.step command).2 next ∧
      next.isBatching = true ∧
      (next.changes.properties = [] ↔
        now.changes.properties = [] ∧ (workspace.step command).1 ≠ .ok (.changed true)) := by
  suffices reached : ∃ next, Gathering place start draft (workspace.step command).2 next ∧
      (next.changes.properties = [] ↔
        now.changes.properties = [] ∧ (workspace.step command).1 ≠ .ok (.changed true)) by
    obtain ⟨next, gathered, properties⟩ := reached
    rw [isBatchingAt_of_found gathered.found] at stays
    exact ⟨next, gathered, stays, properties⟩
  cases command with
  | edit other edit =>
    simp only [worksOn, Bool.and_eq_true, decide_eq_true_eq, Bool.not_eq_true'] at works
    obtain ⟨rfl, unreported⟩ := works
    have mutation : ∀ path, edit ≠ .fileChanged path := by
      rintro path rfl
      cases unreported
    obtain ⟨gathers, properties⟩ := gathering.gathers.perform batching mutation fresh
    rw [step_edit gathering.found]
    exact ⟨_, gathering.worked gathers workspace.scopes, properties⟩
  | openScope other =>
    obtain rfl : other = place := by simpa [worksOn] using works
    have opened := openScope_of_live gathering.found gathering.gathers.live
    simp only [Workspace.step, opened]
    exact ⟨_, gathering.worked (gathering.gathers.withBatches _) _, by simp [Except.map]⟩
  | releaseScope number =>
    by_cases released : ∀ scope, workspace.scopes[number]? = some scope → scope.released = true
    · simp only [Workspace.step, releaseScope_of_released released]
      exact ⟨now, gathering, by simp [Except.map]⟩
    · obtain ⟨⟨there, released⟩, scope_found, unreleased⟩ :
          ∃ scope, workspace.scopes[number]? = some scope ∧ ¬ scope.released = true := by
        simpa using released
      obtain rfl : released = false := by simpa using unreleased
      obtain rfl : there = place := by simpa [worksOn, scope_found] using works
      have outcome := releaseScope_of_open scope_found gathering.found
      have inner : ¬ (now.batches.depth = 1 ∧ now.removed = false) := by
        rintro ⟨depth_eq, _⟩
        simp only [Workspace.step, outcome] at stays
        rw [isBatchingAt_of_found
          (List.getElem?_set_self (List.getElem?_eq_some_iff.mp gathering.found).1),
          Draft.isBatching, (Session.endBatch_closes _).2] at stays
        simp [BatchCounter.isOpen, BatchCounter.exit, depth_eq] at stays
      rw [Session.endBatch_of_inner inner] at outcome
      simp only [Workspace.step, outcome]
      exact ⟨_, gathering.worked (gathering.gathers.withBatches _) _,
        by simp [Except.map]⟩
  | _ => cases works

/-- A batch that stays open gathers all the time, and properties wait exactly if one was set. -/
theorem Gathering.run (gathering : Gathering place start draft workspace now)
    (keeps : workspace.Keeps comparison (Draft.InStep comparison) known)
    (batching : now.isBatching = true) {inside : List Command}
    (distinct : (known ++ inside.flatMap Command.drawn).Nodup)
    (stays : workspace.StaysInBatch place inside) :
    ∃ last, Gathering place start draft (workspace.run inside) last ∧ last.isBatching = true ∧
      (last.changes.properties = [] ↔
        now.changes.properties = [] ∧ .ok (.changed true) ∉ workspace.answers inside) := by
  induction inside generalizing workspace now known with
  | nil => exact ⟨now, gathering, batching, by simp [answers]⟩
  | cons command rest ih =>
    obtain ⟨works, open_after, rest_stays⟩ := stays
    rw [List.flatMap_cons, ← List.append_assoc] at distinct
    have first_distinct := (List.nodup_append.mp distinct).1
    have fresh : ∀ id ∈ command.drawn, id ∉ now.ids := fun id drawn there =>
      (List.nodup_append.mp first_distinct).2.2 id
        (keeps.known_ids place now gathering.found id there) id drawn rfl
    obtain ⟨next, gathered, batching_next, properties⟩ :=
      gathering.step batching works open_after fresh
    have keeps_next : (workspace.step command).2.Keeps comparison (Draft.InStep comparison)
        (known ++ command.drawn) := by
      have stepped := keeps_run (Draft.kept_inStep comparison) keeps [command]
        (by simpa using first_distinct)
      simpa [Workspace.run] using stepped
    obtain ⟨last, gathered_last, batching_last, properties_last⟩ :=
      ih gathered keeps_next batching_next distinct rest_stays
    refine ⟨last, gathered_last, batching_last, ?_⟩
    rw [properties_last, properties, answers, List.mem_cons, not_or, and_assoc, Ne,
      @eq_comm _ (workspace.step command).1]

theorem getElem?_releaseScope_of_ne {number : Nat}
    (differs : ∀ scope, workspace.scopes[number]? = some scope → scope.draft ≠ place) :
    (workspace.releaseScope number).2.drafts[place]? = workspace.drafts[place]? := by
  cases scope_found : workspace.scopes[number]? with
  | none => simp only [Workspace.releaseScope, scope_found]
  | some scope =>
    simp only [Workspace.releaseScope, scope_found]
    split
    · rfl
    · simp only [onDraft]
      split
      · rfl
      · exact List.getElem?_set_ne (differs scope scope_found)

/-- A release after which no batch is open closes the outermost one. -/
theorem closing_of_released {number : Nat} (found : workspace.drafts[place]? = some now)
    (batching : now.isBatching = true)
    (closes : (workspace.releaseScope number).2.isBatchingAt place = false) :
    workspace.scopes[number]? = some { draft := place } ∧ now.batches.depth = 1 := by
  have stayed {after : Workspace} (same : after.drafts[place]? = workspace.drafts[place]?) :
      after.isBatchingAt place = true := by
    rw [isBatchingAt_of_found (same.trans found), batching]
  by_cases concerned : ∃ scope, workspace.scopes[number]? = some scope ∧ scope.draft = place
  · obtain ⟨⟨there, released⟩, scope_found, rfl⟩ := concerned
    cases released with
    | true =>
      rw [releaseScope_of_released (by simp [scope_found]), stayed rfl] at closes
      cases closes
    | false =>
      refine ⟨scope_found, ?_⟩
      rw [releaseScope_of_open scope_found found, isBatchingAt_of_found
        (List.getElem?_set_self (List.getElem?_eq_some_iff.mp found).1), Draft.isBatching,
        (Session.endBatch_closes _).2] at closes
      have open_before : 0 < now.batches.depth := of_decide_eq_true batching
      have closed_after : ¬ 0 < now.batches.depth - 1 := of_decide_eq_false closes
      omega
  · rw [stayed (getElem?_releaseScope_of_ne fun scope scope_found same =>
      concerned ⟨scope, scope_found, same⟩)] at closes
    cases closes

/-- A batch of a draft in which nothing waited is settled when it is closed. -/
theorem Gathering.close (gathering : Gathering place start draft workspace now)
    (keeps : workspace.Keeps comparison (Draft.InStep comparison) known)
    (start_keeps : start.Belongs comparison (Draft.InStep comparison))
    (found : start.drafts[place]? = some draft) (live : draft.removed = false)
    (settled : draft.hasPending = false) (batching : now.isBatching = true)
    {replies : List (Except Failure Answer)}
    (properties : now.changes.properties = [] ↔ .ok (.changed true) ∉ replies) {number : Nat}
    (closes : (workspace.step (.releaseScope number)).2.isBatchingAt place = false) :
    Settlement place start workspace draft now replies
      (workspace.step (.releaseScope number)) := by
  obtain ⟨scope_found, depth_eq⟩ := closing_of_released gathering.found batching closes
  have gathers := gathering.gathers
  have id_eq : now.id = draft.id := gathers.id_eq
  have store_eq : workspace.host.store = start.host.store := gathers.store_eq
  obtain ⟨project, project_found, inStep⟩ := keeps.related place now gathering.found gathers.live
  have snapshot_eq : workspace.snapshot = start.snapshot := congrArg Store.current store_eq
  rw [snapshot_eq, id_eq] at project_found
  have effect := (start_keeps.related_of_found found live project_found).netEffect settled inStep
    gathers.defers
  have pending : now.hasPending = false ↔
      draft.SameItems now ∧ .ok (.changed true) ∉ replies :=
    effect.hasPending_iff.trans (and_congr_right fun _ => properties)
  refine ⟨effect, fun same silent => ?_, fun differs => ?_⟩
  · have none_waits := pending.mpr ⟨same, silent⟩
    have flushed : ({ host := workspace.host, draft := now } : Session).left.flushAndNotify =
        (.ok (), ({ host := workspace.host, draft := now } : Session).left) := by
      have nothing : ¬ ({ host := workspace.host, draft := now } : Session).left.draft.hasPending =
          true := Bool.eq_false_iff.mp none_waits
      rw [Session.flushAndNotify, Session.flush, if_neg nothing]
      rfl
    simp only [Workspace.step, releaseScope_of_open scope_found gathering.found,
      Session.endBatch_of_outermost depth_eq gathers.live, flushed]
    obtain ⟨watches, documents⟩ := gathers.of_settled inStep.mirrors none_waits
    refine ⟨rfl, store_eq, gathers.editor_eq, watches, ?_, fun other differs => ?_⟩
    · exact ⟨draft, _, found,
        List.getElem?_set_self (List.getElem?_eq_some_iff.mp gathering.found).1,
        fun collection => by cases collection; exacts [documents .source, documents .additional]⟩
    · exact (List.getElem?_set_ne differs.symm).trans (gathering.others other differs)
  · have waits : now.hasPending = true :=
      Bool.of_not_eq_false fun none_waits => differs (pending.mp none_waits)
    have stored : (workspace.step (.releaseScope number)).2.host.store =
        (start.host.store.transform draft.id fun snapshot =>
          Transition.applyAll draft.id snapshot (now.plan workspace.host.outputs snapshot)).2 := by
      simp only [Workspace.step, releaseScope_of_open scope_found gathering.found]
      refine (Session.store_endBatch _).trans ?_
      rw [if_pos ⟨depth_eq, gathers.live, waits⟩, ← store_eq, ← id_eq]
    exact ⟨stored, stored ▸ Store.attempts_transform _ _ _⟩

/-- In every workspace that can be reached, a batch of a project in which nothing waits comes to its
net effect, whatever is done to the project in it and however often batches are opened and closed
inside of it. -/
theorem batch_comes_to_netEffect (comparison : PathComparison) {watcher : Watcher}
    (numbered : watcher.Numbered) (editor : Editor) (refusals : Nat → Option String)
    (commands inside : List Command) (number : Nat)
    (distinct : ((commands ++ inside).flatMap Command.drawn).Nodup) {start opened full : Workspace}
    (reached : start = (starting comparison watcher editor refusals).run commands)
    (found : start.drafts[place]? = some draft) (live : draft.removed = false)
    (settled : draft.hasPending = false) (opened_eq : opened = (start.step (.openScope place)).2)
    (stays : opened.StaysInBatch place inside) (full_eq : full = opened.run inside)
    (closes : (full.step (.releaseScope number)).2.isBatchingAt place = false) :
    ∃ now, full.drafts[place]? = some now ∧
      Settlement place start full draft now (opened.answers inside)
        (full.step (.releaseScope number)) := by
  rw [List.flatMap_append] at distinct
  have start_keeps : start.Keeps comparison (Draft.InStep comparison)
      ([] ++ commands.flatMap Command.drawn) :=
    reached ▸ keeps_run (Draft.kept_inStep comparison)
      (keeps_starting comparison _ watcher editor refusals) commands
      (List.nodup_append.mp distinct).1
  have start_numbered : start.host.watcher.Numbered :=
    reached ▸ (orderly_run comparison numbered editor refusals commands).numbered
  obtain ⟨project, project_found, inStep⟩ := start_keeps.related place draft found live
  have begun : Session.Gathers { host := start.host, draft } { host := start.host, draft } :=
    Session.gathers_begin start_numbered inStep.mirrors live settled
  have gathering : Gathering place start draft opened
      { draft with batches := draft.batches.enter } := by
    rw [opened_eq, Workspace.step, openScope_of_live found live]
    exact (Gathering.mk found begun fun _ _ => rfl).worked (begun.withBatches _) _
  have opened_keeps : opened.Keeps comparison (Draft.InStep comparison)
      ([] ++ commands.flatMap Command.drawn) := by
    have stepped := keeps_run (Draft.kept_inStep comparison) start_keeps [.openScope place]
      (by simpa [Command.drawn] using (List.nodup_append.mp distinct).1)
    simpa [Workspace.run, Command.drawn, opened_eq] using stepped
  obtain ⟨now, gathered, batching, properties⟩ := gathering.run opened_keeps
    (by simp [Draft.isBatching, BatchCounter.isOpen, BatchCounter.enter]) distinct stays
  have none_set : draft.changes.properties = [] := by
    rw [Draft.changes_of_settled settled]
    rfl
  have full_keeps := keeps_run (Draft.kept_inStep comparison) opened_keeps inside distinct
  subst full_eq
  exact ⟨now, gathered.found, gathered.close full_keeps start_keeps.toBelongs found live settled
    batching (properties.trans (and_iff_right none_set)) closes⟩

/-- A project with a document and a reference, and a batch that churns them and leaves nothing. -/
def churned : List Command :=
  [.createProject ⟨⟨.ofNat 1⟩, "C#", { name := "App", assemblyName := "App" }⟩,
    .edit 0 (.addFile .source "Main.cs" .regular [] ⟨.ofNat 2⟩),
    .edit 0 (.addMetadataReference { path := "/core.dll" })]

/-- What is done in the batch: the reference goes and comes back, a document comes and goes. -/
def churning : List Command :=
  [.edit 0 (.removeMetadataReference { path := "/core.dll" }),
    .edit 0 (.addFile .source "Extra.cs" .regular [] ⟨.ofNat 3⟩),
    .openScope 0,
    .edit 0 (.addFile .source "Main.cs" .regular [] ⟨.ofNat 4⟩),
    .edit 0 (.removeFile .source "Extra.cs"),
    .edit 0 (.setProperty (.outputPath none)),
    .releaseScope 1,
    .edit 0 (.addMetadataReference { path := "/core.dll" })]

theorem batch_comes_to_netEffect_churning :
    ∃ draft now, ((starting .ordinal {} .absent fun _ => none).run churned).drafts[0]? = some draft ∧
      Settlement 0 ((starting .ordinal {} .absent fun _ => none).run churned)
        ((starting .ordinal {} .absent fun _ => none).run (churned ++ .openScope 0 :: churning))
        draft now
        [.ok .done, .ok (.document ⟨.ofNat 3⟩), .ok (.depth 2),
          .error (.tracked (.file .source "Main.cs")), .ok .done, .ok (.changed false), .ok .done,
          .ok .done]
        (((starting .ordinal {} .absent fun _ => none).run
          (churned ++ .openScope 0 :: churning)).step (.releaseScope 0)) := by
  let start := (starting .ordinal {} .absent fun _ => none).run churned
  let opened := (start.step (.openScope 0)).2
  have drafted : (start.drafts[0]?.map fun draft => (draft.removed, draft.hasPending)) =
      some (false, false) := by
    decide +kernel
  obtain ⟨draft, found, shown⟩ := Option.map_eq_some_iff.mp drafted
  simp only [Prod.mk.injEq] at shown
  have stays : opened.StaysInBatch 0 churning := by
    simp only [StaysInBatch, churning]
    decide +kernel
  have replies : opened.answers churning = [.ok .done, .ok (.document ⟨.ofNat 3⟩), .ok (.depth 2),
      .error (.tracked (.file .source "Main.cs")), .ok .done, .ok (.changed false), .ok .done,
      .ok .done] := by
    decide +kernel
  have numbered : ({} : Watcher).Numbered := fun _ used => absurd used List.not_mem_nil
  obtain ⟨now, _, settled⟩ := batch_comes_to_netEffect .ordinal numbered .absent (fun _ => none)
    churned churning 0 (by decide) rfl found shown.1 shown.2 rfl stays rfl (by decide +kernel)
  exact ⟨draft, now, found, replies ▸ settled⟩

end Workspace

end CodeWorkspace
