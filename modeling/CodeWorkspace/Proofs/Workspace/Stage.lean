import CodeWorkspace.Proofs.Session.Stage
import CodeWorkspace.Proofs.Workspace.Outputs
import CodeWorkspace.Proofs.Workspace.Step

/-!
# Stages in a workspace

What every stage on a live draft keeps is kept by every operation, and by every run in which each
document is introduced once.
-/

namespace CodeWorkspace

theorem Command.drawn_eq (command : Command) : command.drawn = identities command.introduced := by
  cases command with
  | edit place edit => exact edit.drawn_eq
  | _ => rfl

theorem identities_introduced (commands : List Command) :
    identities (commands.flatMap Command.introduced) = commands.flatMap Command.drawn := by
  rw [identities, List.map_flatMap]
  exact List.flatMap_congr fun command _ => (Command.drawn_eq command).symm

namespace Workspace

variable {comparison : PathComparison} {known : List DocumentId} {workspace : Workspace}
  {place : Nat} {draft : Draft} {given : List (DocumentCollection × Document)}
  {after : Session}

/-- The live drafts mirror the documents of their projects, and each of the known documents is known
to one draft, in one collection. -/
abbrev Mirrors (comparison : PathComparison) (known : List DocumentId) (workspace : Workspace) :
    Prop :=
  workspace.Keeps comparison
    (fun project draft => draft.Mirrors comparison project ∧ draft.Separate) known

theorem Mirrors.exists_mirrored (mirrors : workspace.Mirrors comparison known)
    (found : workspace.drafts[place]? = some draft) (live : draft.removed = false) :
    ∃ project, Session.Mirrored comparison { host := workspace.host, draft } project := by
  obtain ⟨project, project_found, mirrored, separate⟩ := mirrors.related place draft found live
  exact ⟨project, mirrors.keyed, project_found, mirrored, separate⟩

theorem kept_mirrors_separate (comparison : PathComparison) : Draft.Kept comparison
    fun project draft => draft.Mirrors comparison project ∧ draft.Separate :=
  (Draft.kept_mirrors comparison).and (Draft.kept_separate comparison)

/-- A stage on a live draft leaves it live. -/
theorem Mirrors.stage (mirrors : workspace.Mirrors comparison known)
    (found : workspace.drafts[place]? = some draft) (live : draft.removed = false)
    (stage : Session.Stage given { host := workspace.host, draft } after)
    (distinct : (identities given).Nodup) (fresh : ∀ id ∈ identities given, id ∉ known) :
    (workspace.worked place after).Mirrors comparison (known ++ identities given) ∧
      after.draft.removed = false := by
  obtain ⟨part, part_sub, advances⟩ := stage.advances
  have proceeds : Session.Proceeds part { host := workspace.host, draft } after :=
    ⟨fun _ => advances, fun gone => by rw [live] at gone; cases gone⟩
  have introduced := mirrors.proceeds (kept_mirrors_separate comparison) found proceeds
    (distinct.sublist part_sub) fun id id_mem => fresh id (part_sub.subset id_mem)
  refine ⟨introduced.mono (List.append_subset.mpr ⟨List.subset_append_left _ _,
    List.subset_append_of_subset_right _ part_sub.subset⟩), ?_⟩
  obtain ⟨project, mirrored⟩ := mirrors.exists_mirrored found live
  obtain ⟨_, moves, _⟩ := advances.moves project mirrored.keyed mirrored.found
  exact moves.sameIdentity.removed_eq.trans live

/-- A change that introduces nothing. -/
theorem Mirrors.silent {next : Workspace} (mirrors : workspace.Mirrors comparison known)
    (change : Change workspace [] next) : next.Mirrors comparison known := by
  have kept := mirrors.change (kept_mirrors_separate comparison) change List.nodup_nil
    fun _ drawn => absurd drawn List.not_mem_nil
  rwa [List.append_nil] at kept

theorem worked_worked (workspace : Workspace) (place : Nat) (middle after : Session) :
    (workspace.worked place middle).worked place after = workspace.worked place after := by
  rw [worked, worked, worked, List.set_set]

theorem Operation.introduced_nodup (operation : Session.Operation) :
    (identities operation.introduced).Nodup := by
  cases operation with
  | perform edit => cases edit <;> simp [Session.Operation.introduced, Edit.introduced, identities]
  | _ => exact List.nodup_nil

/-! ## What stages keep -/

/-- A property of a workspace and the documents known so far, which nothing breaks as long as every
document is introduced once: no stage on a live draft that introduces some of the given documents,
no operation on a draft that is removed, and nothing that happens around the drafts. -/
structure Staged (comparison : PathComparison) (origin : List (DocumentCollection × Document))
    (holds : List DocumentId → Workspace → Prop) : Prop where
  stage : ∀ {known : List DocumentId} {workspace : Workspace} {place : Nat} {draft : Draft}
    {given : List (DocumentCollection × Document)} {after : Session},
    workspace.Mirrors comparison known → holds known workspace →
      workspace.drafts[place]? = some draft → draft.removed = false →
        Session.Stage given { host := workspace.host, draft } after →
          (identities given).Nodup → (∀ id ∈ identities given, id ∉ known) → given ⊆ origin →
            holds (known ++ identities given) (workspace.worked place after)
  idle : ∀ {known : List DocumentId} {workspace : Workspace} {place : Nat} {draft : Draft}
    {after : Session}, holds known workspace → workspace.drafts[place]? = some draft →
      draft.removed = true → after.host = workspace.host → after.draft.ids = draft.ids →
        holds known (workspace.worked place after)
  around : ∀ {known : List DocumentId} {workspace next : Workspace}, holds known workspace →
    workspace.host.SameGround next.host → next.drafts = workspace.drafts → holds known next
  putIn : ∀ {known : List DocumentId} {workspace : Workspace} (info : ProjectInfo)
    (store : Store), holds known workspace → holds known (workspace.putIn info store)
  takeOut : ∀ {known : List DocumentId} {workspace : Workspace} {place : Nat} {draft : Draft}
    {removed : Session}, workspace.Mirrors comparison known → holds known workspace →
      workspace.drafts[place]? = some draft → draft.removed = false →
        { host := workspace.host, draft : Session }.removeProject = (.ok (), removed) →
          removed.draft = draft.discard.2 →
            holds known (workspace.takenOut place draft.id removed)
  mono : ∀ {known more : List DocumentId} {workspace : Workspace}, known ⊆ more →
    holds known workspace → holds more workspace

variable {holds : List DocumentId → Workspace → Prop}
  {origin : List (DocumentCollection × Document)}

/-- What every stage keeps is kept by every operation that introduces new documents. -/
theorem Staged.operate (staged : Staged comparison origin holds)
    (mirrors : workspace.Mirrors comparison known) (start : holds known workspace)
    (found : workspace.drafts[place]? = some draft) (operation : Session.Operation)
    (fresh : ∀ id ∈ operation.drawn, id ∉ known) (within : operation.introduced ⊆ origin) :
    holds (known ++ operation.drawn)
      (workspace.worked place ({ host := workspace.host, draft : Session }.operate operation)) := by
  cases live : draft.removed with
  | true =>
    obtain ⟨_, _, proceeds⟩ := Session.operate_proceeds { host := workspace.host, draft } operation
    obtain ⟨_, _, _, ids_eq⟩ := proceeds.removed live
    exact staged.mono (List.subset_append_left _ _) (staged.idle start found live
      (Session.host_operate_of_removed live operation) ids_eq)
  | false =>
    have live_session : ({ host := workspace.host, draft } : Session).draft.removed = false := live
    obtain ⟨middle, first, second, _⟩ := Session.operate_stages live_session operation
    have nothing : ∀ id ∈ identities [], id ∉ known := fun _ new => absurd new List.not_mem_nil
    obtain ⟨mirrors_middle, live_middle⟩ := mirrors.stage found live first List.nodup_nil nothing
    have between := staged.stage mirrors start found live first List.nodup_nil nothing
      (List.nil_subset _)
    rw [show known ++ identities [] = known from List.append_nil known] at mirrors_middle between
    have found_middle := getElem?_worked_self found middle
    rw [operation.drawn_eq] at fresh ⊢
    have last := staged.stage mirrors_middle between found_middle live_middle second
      (Operation.introduced_nodup operation) fresh within
    rwa [worked_worked] at last

/-- It is kept by every command that introduces new documents. -/
theorem Staged.step (staged : Staged comparison origin holds)
    (mirrors : workspace.Mirrors comparison known) (start : holds known workspace)
    (command : Command) (distinct : command.drawn.Nodup) (fresh : ∀ id ∈ command.drawn, id ∉ known)
    (within : command.introduced ⊆ origin) :
    (workspace.step command).2.Mirrors comparison (known ++ command.drawn) ∧
      holds (known ++ command.drawn) (workspace.step command).2 := by
  refine ⟨mirrors.command (kept_mirrors_separate comparison) distinct fresh, ?_⟩
  by_cases editing : ∃ place edit, command = .edit place edit
  · obtain ⟨place, edit, rfl⟩ := editing
    cases found : workspace.drafts[place]? with
    | none =>
      have stays : (workspace.step (.edit place edit)).2 = workspace := by
        simp only [Workspace.step, onDraft, found]
      rw [stays]
      exact staged.mono (List.subset_append_left _ _) start
    | some draft =>
      rw [step_edit found]
      exact staged.operate mirrors start found (.perform edit) fresh within
  · have silent : command.drawn = [] ∧ command.introduced = [] := by
      cases command with
      | edit place edit => exact absurd ⟨place, edit, rfl⟩ editing
      | _ => exact ⟨rfl, rfl⟩
    rw [silent.1, List.append_nil]
    refine (@holds_step workspace
      (fun reached => reached.Mirrors comparison known ∧ holds known reached) command
      (fun before ground drafts live => ?_) (fun operation before found performs => ?_)
      (fun _ absent current => ?_) (fun _ live found done => ?_) ⟨mirrors, start⟩).2
    · exact ⟨before.1.silent (.around ground drafts live), staged.around before.2 ground drafts⟩
    · have nothing : operation.drawn = [] := by
        have none_new : operation.introduced ⊆ [] := silent.2 ▸ performs.introduced_subset
        rw [operation.drawn_eq, List.eq_nil_of_subset_nil none_new]
        rfl
      have change := Change.worked found operation
      have fresh : ∀ id ∈ operation.drawn, id ∉ known := fun id drawn => by
        rw [nothing] at drawn
        cases drawn
      have next := staged.operate before.1 before.2 found operation fresh
        fun new new_mem => within (performs.introduced_subset new_mem)
      rw [nothing] at change next
      rw [List.append_nil] at next
      exact ⟨before.1.silent change, next⟩
    · exact ⟨mirrors.silent (.putIn absent current), staged.putIn _ _ start⟩
    · obtain ⟨rfl, unremoved, discarded, _⟩ := mirrors.takeOut_cases live found done
      exact ⟨mirrors.silent (.takeOut live found done),
        staged.takeOut mirrors start found unremoved done discarded⟩

/-- It is kept by every run that introduces each document once. -/
theorem Staged.run (staged : Staged comparison origin holds)
    (mirrors : workspace.Mirrors comparison known) (start : holds known workspace)
    (commands : List Command) (distinct : (known ++ commands.flatMap Command.drawn).Nodup)
    (within : commands.flatMap Command.introduced ⊆ origin) :
    (workspace.run commands).Mirrors comparison (known ++ commands.flatMap Command.drawn) ∧
      holds (known ++ commands.flatMap Command.drawn) (workspace.run commands) := by
  induction commands generalizing workspace known with
  | nil =>
    rw [List.flatMap_nil, List.append_nil]
    exact ⟨mirrors, start⟩
  | cons command rest ih =>
    rw [List.flatMap_cons, ← List.append_assoc] at distinct ⊢
    rw [List.flatMap_cons] at within
    obtain ⟨first_distinct, _⟩ := List.nodup_append.mp distinct
    obtain ⟨_, drawn_distinct, apart⟩ := List.nodup_append.mp first_distinct
    obtain ⟨first_within, rest_within⟩ := List.append_subset.mp within
    obtain ⟨mirrors_next, next⟩ := staged.step mirrors start command drawn_distinct
      (fun id drawn known => apart id known id drawn rfl) first_within
    exact ih mirrors_next next distinct rest_within

end Workspace

end CodeWorkspace
