import CodeWorkspace.Proofs.Session.Batch
import CodeWorkspace.Proofs.Workspace.Commits

/-!
# Edits inside of one scope

Edits of a project that are made between opening a scope and releasing it mean the same to the
whole workspace as the edits one by one.
-/

namespace CodeWorkspace

namespace Workspace

variable {comparison : PathComparison} {workspace : Workspace} {place : Nat} {draft : Draft}
  {project : Project}

/-! ## Runs of commands -/

theorem answers_append (workspace : Workspace) (front rest : List Command) :
    workspace.answers (front ++ rest) =
      workspace.answers front ++ (workspace.run front).answers rest := by
  induction front generalizing workspace with
  | nil => rfl
  | cons command front ih => exact congrArg _ (ih _)

/-- The workspace after a session with a draft of it, with the scopes that are then in use. -/
def resume (workspace : Workspace) (place : Nat) (scopes : List Scope) (session : Session) :
    Workspace :=
  { workspace with
    host := session.host
    drafts := workspace.drafts.set place session.draft
    scopes }

theorem resume_self (found : workspace.drafts[place]? = some draft) :
    workspace.resume place workspace.scopes { host := workspace.host, draft } = workspace := by
  obtain ⟨within, rfl⟩ := List.getElem?_eq_some_iff.mp found
  rw [resume, List.set_getElem_self]

theorem getElem?_resume (found : workspace.drafts[place]? = some draft) (scopes : List Scope)
    (session : Session) :
    (workspace.resume place scopes session).drafts[place]? = some session.draft :=
  List.getElem?_set_self (List.getElem?_eq_some_iff.mp found).1

theorem onDraft_resume {α : Type} (found : workspace.drafts[place]? = some draft)
    (scopes : List Scope) (session : Session) (absent : α)
    (operation : Session → α × Session) :
    (workspace.resume place scopes session).onDraft place absent operation =
      ((operation session).1, workspace.resume place scopes (operation session).2) := by
  simp only [onDraft, getElem?_resume found]
  simp only [resume, List.set_set]

theorem run_edits (found : workspace.drafts[place]? = some draft) (scopes : List Scope)
    (session : Session) (edits : List Edit) :
    (workspace.resume place scopes session).run (edits.map (.edit place)) =
        workspace.resume place scopes (session.performEach edits).2 ∧
      (workspace.resume place scopes session).answers (edits.map (.edit place)) =
        (session.performEach edits).1 := by
  induction edits generalizing session with
  | nil => exact ⟨rfl, rfl⟩
  | cons edit rest ih =>
    have stepped : (workspace.resume place scopes session).step (.edit place edit) =
        ((session.perform edit).1, workspace.resume place scopes (session.perform edit).2) :=
      onDraft_resume found scopes session (Except.ok Answer.done) fun session =>
        session.perform edit
    obtain ⟨run_eq, answers_eq⟩ := ih (session.perform edit).2
    constructor
    · show (((workspace.resume place scopes session).step (.edit place edit)).2).run _ = _
      rw [stepped]
      exact run_eq
    · show ((workspace.resume place scopes session).step (.edit place edit)).1 ::
        ((workspace.resume place scopes session).step (.edit place edit)).2.answers _ = _
      rw [stepped]
      exact congrArg _ answers_eq

/-! ## Scopes -/

/-- The commands that make edits of a draft inside of one scope. -/
def insideScope (workspace : Workspace) (place : Nat) (edits : List Edit) : List Command :=
  .openScope place :: (edits.map (.edit place) ++ [.releaseScope workspace.scopes.length])

theorem openScope_resume (found : workspace.drafts[place]? = some draft)
    {session : Session} (session_eq : session = { host := workspace.host, draft })
    (begun : session.beginBatch.1 = .ok 1) :
    workspace.openScope place = (.ok 1,
      workspace.resume place (workspace.scopes ++ [{ draft := place }]) session.beginBatch.2) := by
  have within : place < workspace.drafts.length := (List.getElem?_eq_some_iff.mp found).1
  have opened : workspace.onDraft place (Except.ok 0) Session.beginBatch =
      (.ok 1, workspace.resume place workspace.scopes session.beginBatch.2) := by
    simp only [onDraft, found, ← session_eq, ← begun]
    rfl
  simp only [openScope, opened, within]
  rfl

theorem releaseScope_resume (found : workspace.drafts[place]? = some draft) (session : Session)
    {scopes : List Scope} {number : Nat} (scope : scopes[number]? = some { draft := place }) :
    ∃ left, (workspace.resume place scopes session).releaseScope number =
      (session.endBatch.1, workspace.resume place left session.endBatch.2) := by
  let left := scopes.set number { draft := place, released := true }
  have scope : (workspace.resume place scopes session).scopes[number]? =
    some { draft := place } := scope
  refine ⟨left, ?_⟩
  simp only [releaseScope, scope]
  exact onDraft_resume found left session (.ok ()) Session.endBatch

theorem step_openScope (found : workspace.drafts[place]? = some draft)
    {session : Session} (session_eq : session = { host := workspace.host, draft })
    (begun : session.beginBatch.1 = .ok 1) :
    workspace.step (.openScope place) = (.ok (.depth 1),
      workspace.resume place (workspace.scopes ++ [{ draft := place }]) session.beginBatch.2) := by
  simp only [step, openScope_resume found session_eq begun]
  rfl

theorem step_releaseScope (found : workspace.drafts[place]? = some draft) (session : Session)
    {scopes : List Scope} {number : Nat} (scope : scopes[number]? = some { draft := place })
    (ended : session.endBatch.1 = .ok ()) :
    ∃ left, (workspace.resume place scopes session).step (.releaseScope number) =
      (.ok .done, workspace.resume place left session.endBatch.2) := by
  obtain ⟨left, closed⟩ := releaseScope_resume found session scope
  refine ⟨left, ?_⟩
  simp only [step, closed, ended]
  rfl

/-- The edits inside of a scope are those of a session in a batch. -/
theorem run_insideScope (found : workspace.drafts[place]? = some draft) {session : Session}
    (session_eq : session = { host := workspace.host, draft }) (edits : List Edit)
    (begun : session.beginBatch.1 = .ok 1)
    (ended : (session.beginBatch.2.performEach edits).2.endBatch.1 = .ok ()) :
    workspace.answers (workspace.insideScope place edits) =
        .ok (.depth 1) :: ((session.beginBatch.2.performEach edits).1 ++ [.ok .done]) ∧
      ∃ scopes, workspace.run (workspace.insideScope place edits) =
        workspace.resume place scopes (session.beginBatch.2.performEach edits).2.endBatch.2 := by
  let scopes : List Scope := workspace.scopes ++ [{ draft := place }]
  have opens : workspace.step (.openScope place) =
      (.ok (.depth 1), workspace.resume place scopes session.beginBatch.2) :=
    step_openScope found session_eq begun
  obtain ⟨run_eq, answers_eq⟩ := run_edits found scopes session.beginBatch.2 edits
  obtain ⟨left, releases⟩ := step_releaseScope found (session.beginBatch.2.performEach edits).2
    (List.getElem?_concat_length : scopes[workspace.scopes.length]? = _) ended
  constructor
  · rw [insideScope, answers, opens, answers_append, answers_eq, run_eq, answers, releases, answers]
  · refine ⟨left, ?_⟩
    show ((workspace.step (.openScope place)).2).run _ = _
    rw [opens, run_append, run_eq]
    show ((workspace.resume place scopes _).step _).2 = _
    rw [releases]

/-! ## One by one and inside of a scope -/

/-- Two workspaces that differ in nothing that shows of their projects, but for the order of the
references of one of them; nothing waits in its drafts. -/
structure SameProjects (place : Nat) (owner : ProjectId) (single batched : Workspace) :
    Prop where
  drafts : ∃ first second, single.drafts[place]? = some first ∧
    batched.drafts[place]? = some second ∧ Draft.SameFacade first second ∧
    first.hasPending = false ∧ second.hasPending = false ∧ second.isBatching = false
  others : ∀ other, other ≠ place → batched.drafts[other]? = single.drafts[other]?
  ids_eq : batched.snapshot.ids = single.snapshot.ids
  project : ∃ first second, single.snapshot.project? owner = some first ∧
    batched.snapshot.project? owner = some second ∧ first.SameUpToOrder second
  projects : ∀ id, id ≠ owner → batched.snapshot.project? id = single.snapshot.project? id

theorem SameProjects.of_outcome (found : workspace.drafts[place]? = some draft)
    {single batched : Session} (scopes : List Scope)
    (outcome : Session.SameOutcome { host := workspace.host, draft } single batched) :
    SameProjects place draft.id (workspace.resume place workspace.scopes single)
      (workspace.resume place scopes batched) := by
  obtain ⟨first, second, same, first_replaced, second_replaced⟩ := outcome.projects
  constructor
  · exact ⟨single.draft, batched.draft, getElem?_resume found _ single,
      getElem?_resume found scopes batched, outcome.facade, outcome.single_settled,
      outcome.batched_settled, outcome.batched_closed⟩
  · intro other differs
    show (workspace.drafts.set place batched.draft)[other]? =
      (workspace.drafts.set place single.draft)[other]?
    rw [List.getElem?_set_ne (Ne.symm differs), List.getElem?_set_ne (Ne.symm differs)]
  · exact second_replaced.ids_eq.trans first_replaced.ids_eq.symm
  · exact ⟨first, second, first_replaced.found, second_replaced.found, same⟩
  · intro id differs
    exact (second_replaced.project?_of_ne differs).trans
      (first_replaced.project?_of_ne differs).symm

/-- From any state that can be reached, edits of a live project without open batches and without
waiting changes mean the same inside of one scope as one by one, if the snapshot expresses its
metadata references and no edit adds a document again that an earlier one removed. -/
theorem edits_agree_inside_scope (comparison : PathComparison) (watcher : Watcher)
    (editor : Editor) (refusals : Nat → Option String) (commands : List Command)
    (edits : List Edit)
    (distinct : (commands.flatMap Command.drawn ++ edits.flatMap Edit.drawn).Nodup)
    (reached : workspace = (starting comparison watcher editor refusals).run commands)
    (accepting : workspace.Accepting) (found : workspace.drafts[place]? = some draft)
    (live : draft.removed = false) (closed : draft.isBatching = false)
    (settled : draft.hasPending = false)
    (project_found : workspace.snapshot.project? draft.id = some project)
    (expresses : project.Expresses
      (fun reference => reconcile draft.id reference workspace.host.outputs workspace.snapshot)
      draft.metadataReferences.elements)
    (mutations : ∀ edit ∈ edits, edit.isMutation = true ∧ edit.isOutput = false)
    (spared : Session.NeverReadds comparison project { host := workspace.host, draft } edits) :
    workspace.answers (workspace.insideScope place edits) =
        .ok (.depth 1) :: (workspace.answers (edits.map (.edit place)) ++ [.ok .done]) ∧
      SameProjects place draft.id (workspace.run (edits.map (.edit place)))
        (workspace.run (workspace.insideScope place edits)) := by
  obtain ⟨run_distinct, edits_distinct, apart⟩ := List.nodup_append.mp distinct
  have keeps := keeps_run (Draft.kept_inStep comparison)
    (keeps_starting comparison _ watcher editor refusals) commands run_distinct
  rw [← reached] at keeps
  obtain ⟨same, same_found, tracked⟩ := keeps.tracked accepting found live
  rw [project_found] at same_found
  cases same_found
  have fresh : ∀ id ∈ edits.flatMap Edit.drawn, id ∉ draft.ids := fun id drawn own =>
    apart id (keeps.known_ids place draft found id own) id drawn rfl
  obtain ⟨begins, answers_eq, ends, outcome⟩ := Session.batch_means_one_by_one tracked live closed
    settled expresses edits mutations edits_distinct fresh spared
  obtain ⟨single_run, single_answers⟩ := run_edits found workspace.scopes
    { host := workspace.host, draft } edits
  rw [resume_self found] at single_run single_answers
  obtain ⟨batched_answers, scopes, batched_run⟩ := run_insideScope found rfl edits begins ends
  rw [single_run, single_answers, batched_run, ← answers_eq]
  exact ⟨batched_answers, SameProjects.of_outcome found scopes outcome⟩

/-- A project with a document and a metadata reference, and another project whose output may be
referred to. -/
def applicationAndBase : Workspace :=
  (starting .ordinal {} .absent fun _ => none).run
    [.createProject ⟨⟨.ofNat 1⟩, "C#", { name := "App", assemblyName := "App" }⟩,
      .createProject ⟨⟨.ofNat 2⟩, "C#", { name := "Base", assemblyName := "Base" }⟩,
      .edit 1 (.setProperty (.outputPath (some "/base.dll"))),
      .edit 0 (.addFile .source "Main.cs" .regular [] ⟨.ofNat 3⟩),
      .edit 0 (.addMetadataReference { path := "/core.dll" })]

/-- A document and a reference are replaced, and a project is referred to in two ways. -/
def rearrangement : List Edit :=
  [.removeFile .source "Main.cs", .addFile .source "App.cs" .regular [] ⟨.ofNat 4⟩,
    .addMetadataReference { path := "/base.dll" }, .addProjectReference { target := ⟨.ofNat 2⟩ },
    .removeMetadataReference { path := "/core.dll" }]

theorem edits_agree_inside_scope_rearrangement :
    applicationAndBase.answers (applicationAndBase.insideScope 0 rearrangement) =
        .ok (.depth 1) ::
          (applicationAndBase.answers (rearrangement.map (.edit 0)) ++ [.ok .done]) ∧
      SameProjects 0 ⟨.ofNat 1⟩ (applicationAndBase.run (rearrangement.map (.edit 0)))
        (applicationAndBase.run (applicationAndBase.insideScope 0 rearrangement)) := by
  have drafted : (applicationAndBase.drafts[0]?.map fun draft => (draft.removed, draft.isBatching,
      draft.hasPending, draft.id, draft.metadataReferences.elements)) =
        some (false, false, false, ⟨.ofNat 1⟩, [{ path := "/core.dll" }]) := by
    decide +kernel
  obtain ⟨draft, found, shown⟩ := Option.map_eq_some_iff.mp drafted
  simp only [Prod.mk.injEq] at shown
  obtain ⟨live, closed, settled, id_eq, references⟩ := shown
  have committed : ((applicationAndBase.snapshot.project? ⟨.ofNat 1⟩).map fun project =>
      (project.metadataReferences, project.projectReferences,
        project.sources.entries.map fun entry => entry.2.path?)) =
          some ([{ path := "/core.dll" }], [], [some "Main.cs"]) := by
    decide +kernel
  obtain ⟨project, project_found, listed⟩ := Option.map_eq_some_iff.mp committed
  simp only [Prod.mk.injEq] at listed
  obtain ⟨metadata, lines, sources⟩ := listed
  have represented : reconcile ⟨.ofNat 1⟩ { path := "/core.dll" }
      applicationAndBase.host.outputs applicationAndBase.snapshot =
        .content { path := "/core.dll" } := by
    decide +kernel
  have expresses : project.Expresses
      (fun reference => reconcile draft.id reference applicationAndBase.host.outputs
        applicationAndBase.snapshot) draft.metadataReferences.elements := by
    rw [references, id_eq]
    constructor
    · rw [metadata, List.filterMap_cons, represented]
      exact .refl _
    · intro line
      rw [List.countP_cons, represented, Project.holding, lines]
      rfl
  have spared : Session.NeverReadds .ordinal project { host := applicationAndBase.host, draft }
      rearrangement := by
    rintro front edit within collection id document held _ ⟨path?, buffer?, adds, taken⟩
    have edit_mem : edit ∈ rearrangement := within.subset List.mem_concat_self
    have additions : ∀ edit ∈ rearrangement, edit.addition? = none ∨
        edit.addition? = some (.source, some "App.cs", none) := by
      decide
    rcases additions edit edit_mem with nothing | application
    · rw [nothing] at adds
      cases adds
    · rw [application] at adds
      cases adds
      have main : document.path? ∈ [some "Main.cs"] := sources ▸ List.mem_map_of_mem held
      rw [List.mem_singleton.mp main] at taken
      simp [PathComparison.key] at taken
  rw [← id_eq] at project_found ⊢
  exact edits_agree_inside_scope .ordinal {} .absent (fun _ => none) _ rearrangement (by decide)
    rfl (fun _ => rfl) found live closed settled project_found expresses (by decide) spared

end Workspace

end CodeWorkspace
