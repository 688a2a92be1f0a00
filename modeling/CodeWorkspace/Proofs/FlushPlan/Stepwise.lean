import CodeWorkspace.FlushPlan
import CodeWorkspace.Proofs.Reconciliation.Conversion
import CodeWorkspace.Proofs.Snapshot.Lineage
import Mathlib.Data.List.Permutation

/-!
# Plans made step by step

A plan represents all metadata references by the snapshot that it starts from, although each of its
transitions is carried out on a snapshot that the earlier ones have changed.  Finding out the
representation anew before every step would give the same plan, since a project's own transitions
never change how its metadata references are represented.
-/

namespace CodeWorkspace

namespace FlushPlan

/-- What waits for a commit, with metadata references that are not represented yet. -/
inductive Task where
  | other (transition : Transition)
  | addReference (reference : MetadataReference)
  | removeReference (reference : MetadataReference)

/-- The transition for a task. -/
def Task.transition (represent : MetadataReference → Representation) : Task → Transition
  | .other transition => transition
  | .addReference reference => .addReference (represent reference)
  | .removeReference reference => .removeReference (represent reference)

/-- The tasks of a plan in their order. -/
def tasks (sources additional : Registry) (changes : ChangeSet) : List Task :=
  (additions sources ++ additions additional ++ removals sources ++ removals additional).map
      .other ++
    changes.metadataReferences.added.elements.map .addReference ++
    changes.metadataReferences.removed.elements.map .removeReference ++
    changes.projectReferences.added.elements.map (.other ∘ .addProjectReference) ++
    changes.projectReferences.removed.elements.map (.other ∘ .removeProjectReference) ++
    changes.analyzerReferences.added.elements.map (.other ∘ .addAnalyzerReference) ++
    changes.analyzerReferences.removed.elements.map (.other ∘ .removeAnalyzerReference) ++
    changes.properties.map (.other ∘ .setProperty)

/-- Carries out tasks one after another, each represented by the snapshot that has been reached.
Returns the transitions that were tried and what they come to. -/
def carryOut (project : ProjectId) (index : OutputIndex) :
    Snapshot → List Task → List Transition × Except Fault Snapshot
  | snapshot, [] => ([], .ok snapshot)
  | snapshot, task :: rest =>
    let transition := task.transition fun reference => reconcile project reference index snapshot
    match transition.apply project snapshot with
    | .error fault => ([transition], .error fault)
    | .ok reached =>
      let later := carryOut project index reached rest
      (transition :: later.1, later.2)

variable {project : ProjectId} {index : OutputIndex} {snapshot next : Snapshot}
  {sources additional : Registry} {changes : ChangeSet}

theorem flushPlan_eq_map_tasks (project : ProjectId) (sources additional : Registry)
    (changes : ChangeSet) (index : OutputIndex) (snapshot : Snapshot) :
    flushPlan project sources additional changes index snapshot =
      (tasks sources additional changes).map
        (Task.transition fun reference => reconcile project reference index snapshot) := by
  have other_eq (represent : MetadataReference → Representation) (transitions : List Transition) :
      (transitions.map Task.other).map (Task.transition represent) = transitions := by
    rw [List.map_map]
    exact List.map_id transitions
  simp only [flushPlan, FlushPlan.changes, tasks, List.map_append, other_eq, List.map_map,
    List.append_assoc]
  rfl

/-- The only tasks that add metadata references are those for the references that wait. -/
theorem exists_of_mem_flushPlan {representation : Representation}
    (planned : .addReference representation ∈
      flushPlan project sources additional changes index snapshot) :
    ∃ reference, reconcile project reference index snapshot = representation := by
  rw [flushPlan_eq_map_tasks, List.mem_map] at planned
  obtain ⟨task, task_mem, transition_eq⟩ := planned
  cases task with
  | addReference reference => exact ⟨reference, Transition.addReference.inj transition_eq⟩
  | removeReference reference => cases transition_eq
  | other transition =>
    cases (show transition = .addReference representation from transition_eq)
    have documents (registry : Registry) :
        .addReference representation ∉ additions registry ∧
          .addReference representation ∉ removals registry := by
      rw [additions, removals]
      constructor <;> split <;> simp
    simp [tasks, documents] at task_mem

/-- Tasks that are carried out on a snapshot in which metadata references are represented in some
way come to the transitions that represent them in that way. -/
theorem carryOut_eq (represent : MetadataReference → Representation) (keyed : snapshot.Keyed)
    (represented : ∀ reference, reconcile project reference index snapshot = represent reference)
    (waiting : List Task) :
    let plan := waiting.map (Task.transition represent)
    (carryOut project index snapshot waiting).2 = Transition.applyAll project snapshot plan ∧
      (carryOut project index snapshot waiting).1 <+: plan ∧
      ∀ next, Transition.applyAll project snapshot plan = .ok next →
        (carryOut project index snapshot waiting).1 = plan := by
  induction waiting generalizing snapshot with
  | nil => exact ⟨rfl, List.prefix_refl _, fun _ _ => rfl⟩
  | cons task rest ih =>
    have transition_eq : (task.transition fun reference =>
        reconcile project reference index snapshot) = task.transition represent :=
      congrArg task.transition (funext represented)
    simp only [carryOut, transition_eq, List.map_cons, Transition.applyAll]
    cases applied : (task.transition represent).apply project snapshot with
    | error fault =>
      refine ⟨rfl, List.cons_prefix_cons.mpr ⟨rfl, List.nil_prefix⟩, fun next completed => ?_⟩
      cases completed
    | ok reached =>
      -- the transition has left alone how the references of later tasks are represented
      obtain ⟨outcome_eq, tried, complete⟩ := ih (Transition.extended_apply keyed applied).keyed
        fun reference => (reconcile_apply keyed applied reference index).trans
          (represented reference)
      exact ⟨outcome_eq, List.cons_prefix_cons.mpr ⟨rfl, tried⟩, fun next completed =>
        congrArg _ (complete next completed)⟩

/-- After any operations, whatever transitions of a project can be carried out leave alone how its
metadata references are represented; so representing each of them when its turn comes gives the
plan that represents all of them beforehand, with the same outcome, and no metadata reference that
the plan converts is turned away for a cycle or for anything else. -/
theorem flushPlan_agrees_with_steps (operations : List Snapshot.Operation) (project : ProjectId)
    (index : OutputIndex)
    (present : (Snapshot.empty.performAll operations).contains project = true) :
    let snapshot := Snapshot.empty.performAll operations
    (∀ transitions next, Transition.applyAll project snapshot transitions = .ok next →
      ∀ reference, reconcile project reference index next =
        reconcile project reference index snapshot) ∧
    ∀ sources additional changes,
      let plan := flushPlan project sources additional changes index snapshot
      let steps := carryOut project index snapshot (tasks sources additional changes)
      steps.2 = Transition.applyAll project snapshot plan ∧ steps.1 <+: plan ∧
      (∀ next, Transition.applyAll project snapshot plan = .ok next → steps.1 = plan) ∧
      ∀ front reference back, plan = front ++ .addReference (.structural reference) :: back →
        ∀ next, Transition.applyAll project snapshot front = .ok next →
          ∃ reached, (Transition.addReference (.structural reference)).apply project next =
            .ok reached := by
  intro snapshot
  have sound : snapshot.Sound := Snapshot.sound_performAll Snapshot.sound_empty operations
  have keyed := sound.keyed
  refine ⟨fun transitions next completed reference =>
    reconcile_applyAll keyed completed reference index, fun sources additional changes => ?_⟩
  intro plan steps
  have plan_eq : plan = _ :=
    flushPlan_eq_map_tasks project sources additional changes index snapshot
  obtain ⟨outcome_eq, tried, complete⟩ :=
    carryOut_eq _ keyed (fun _ => rfl) (tasks sources additional changes)
  rw [← plan_eq] at outcome_eq tried complete
  refine ⟨outcome_eq, tried, complete, fun front line back split next completed => ?_⟩
  have planned : .addReference (.structural line) ∈ plan := by
    rw [split]
    exact List.mem_append_right _ List.mem_cons_self
  obtain ⟨reference, converted⟩ := exists_of_mem_flushPlan planned
  rw [← reconcile_applyAll keyed completed] at converted
  exact apply_addReference_of_reconcile (Transition.sound_applyAll sound completed).keyed
    ((Snapshot.written_applyAll completed).contains present) converted

/-- A reference to a file stays converted after its project refers to the publisher itself. -/
theorem flushPlan_agrees_with_steps_of_publisher :
    let owner : ProjectId := ⟨.ofNat 1⟩
    let publisher : ProjectId := ⟨.ofNat 2⟩
    let snapshot := Snapshot.empty.performAll
      [.addProject ⟨owner, "C#", { name := "A", assemblyName := "A" }⟩,
        .addProject ⟨publisher, "C#", { name := "B", assemblyName := "B" }⟩]
    let index := (OutputIndex.empty .ordinal).register publisher "/b"
    snapshot.contains owner = true ∧
      reconcile owner { path := "/b" } index snapshot = .structural { target := publisher } ∧
      (∃ next, Transition.applyAll owner snapshot
          [.addProjectReference { target := publisher }] = .ok next ∧
        reconcile owner { path := "/b" } index next = .structural { target := publisher }) ∧
      ∀ sources additional changes,
        (carryOut owner index snapshot (tasks sources additional changes)).2 =
          Transition.applyAll owner snapshot
            (flushPlan owner sources additional changes index snapshot) := by
  intro owner publisher snapshot index
  have present : snapshot.contains owner = true := by decide
  have converted : reconcile owner { path := "/b" } index snapshot =
      .structural { target := publisher } := by decide_cbv
  have completes : (Transition.applyAll owner snapshot
      [.addProjectReference { target := publisher }]).isOk = true := by decide_cbv
  obtain ⟨unaffected, planned⟩ := flushPlan_agrees_with_steps _ owner index present
  refine ⟨present, converted, ?_, fun sources additional changes =>
    (planned sources additional changes).1⟩
  cases applied : Transition.applyAll owner snapshot
      [.addProjectReference { target := publisher }] with
  | error fault =>
    rw [applied] at completes
    cases completes
  | ok next => exact ⟨next, rfl, (unaffected _ next applied _).trans converted⟩

end FlushPlan

end CodeWorkspace
