import CodeWorkspace.Proofs.Snapshot.Acyclic

/-!
# What a transition does to its own project

A transition changes nothing in a snapshot but its own project, and what it does to that one
depends on the rest of the snapshot only through the question which references close a cycle.
The answer does not change while the project changes: a chain of references that leads to the
project is not affected by where the project itself refers to.
-/

namespace CodeWorkspace

/-- The project with one more holder of a reference, where the references that close a cycle are
given. -/
def Project.hold (closes : ProjectId → Bool) (project : Project) (reference : ProjectReference)
    (holder : ReferenceHolder) : Except Fault Project :=
  if reference ∈ project.projectReferences then
    if holder = .direct ∧ (project.holdersOf reference).direct then
      .error (.duplicateReference project.id reference.target.text)
    else .ok (project.setHolders reference ((project.holdersOf reference).add holder))
  else if closes reference.target then .error (.cycleDetected project.id reference.target)
  else
    let added :=
      { project with projectReferences := project.projectReferences ++ [reference] }
    match holder with
    | .direct => .ok added
    | .converted => .ok (added.setHolders reference .convertedOnce)

namespace Transition

/-- What a transition makes of its project. -/
def effect (closes : ProjectId → Bool) (project : Project) : Transition → Except Fault Project
  | .addDocuments collection documents => (project.addDocuments collection documents).toExcept
  | .removeDocuments collection ids => (project.removeDocuments collection ids).toExcept
  | .reloadDocument collection id loader => project.replaceLoader collection id loader
  | .addReference (.content reference) => project.addMetadataReference reference
  | .addReference (.structural reference) => project.hold closes reference .converted
  | .removeReference representation =>
    if isPresent project representation then
      match representation with
      | .content reference => project.removeMetadataReference reference
      | .structural reference => project.releaseProjectReference reference .converted
    else .ok project
  | .addProjectReference reference => project.hold closes reference .direct
  | .removeProjectReference reference => project.releaseProjectReference reference .direct
  | .addAnalyzerReference reference => project.addAnalyzerReference reference
  | .removeAnalyzerReference reference => project.removeAnalyzerReference reference
  | .setProperty property => .ok (project.setProperty property)

/-- What several transitions make of their project. -/
def effects (closes : ProjectId → Bool) : Project → List Transition → Except Fault Project
  | project, [] => .ok project
  | project, transition :: rest =>
    match transition.effect closes project with
    | .error fault => .error fault
    | .ok changed => effects closes changed rest

theorem effects_append (closes : ProjectId → Bool) (project : Project)
    (front back : List Transition) :
    effects closes project (front ++ back) =
      (effects closes project front).bind fun changed => effects closes changed back := by
  induction front generalizing project with
  | nil => rfl
  | cons transition rest ih =>
    simp only [List.cons_append, effects]
    cases transition.effect closes project with
    | error fault => rfl
    | ok changed => exact ih changed

theorem effects_append_ok {closes : ProjectId → Bool} {project changed : Project}
    {front back : List Transition} :
    effects closes project (front ++ back) = .ok changed ↔
      ∃ middle, effects closes project front = .ok middle ∧
        effects closes middle back = .ok changed := by
  rw [effects_append]
  cases effects closes project front with
  | error fault => simp [Except.bind]
  | ok middle => simp [Except.bind]

theorem effects_cons_ok {closes : ProjectId → Bool} {project changed : Project}
    {transition : Transition} {rest : List Transition} :
    effects closes project (transition :: rest) = .ok changed ↔
      ∃ middle, transition.effect closes project = .ok middle ∧
        effects closes middle rest = .ok changed := by
  rw [effects]
  cases transition.effect closes project with
  | error fault => simp
  | ok middle => simp

theorem effects_append_error {closes : ProjectId → Bool} {project : Project} {fault : Fault}
    {front back : List Transition}
    (failed : effects closes project (front ++ back) = .error fault) :
    effects closes project front = .error fault ∨
      ∃ middle, effects closes project front = .ok middle ∧
        effects closes middle back = .error fault := by
  rw [effects_append] at failed
  cases outcome : effects closes project front with
  | error other =>
    rw [outcome] at failed
    exact Or.inl failed
  | ok middle =>
    rw [outcome] at failed
    exact Or.inr ⟨middle, rfl, failed⟩

theorem effects_cons_error {closes : ProjectId → Bool} {project : Project} {fault : Fault}
    {transition : Transition} {rest : List Transition}
    (failed : effects closes project (transition :: rest) = .error fault) :
    transition.effect closes project = .error fault ∨
      ∃ middle, transition.effect closes project = .ok middle ∧
        effects closes middle rest = .error fault := by
  rw [effects] at failed
  cases outcome : transition.effect closes project with
  | error other =>
    rw [outcome] at failed
    exact Or.inl failed
  | ok middle =>
    rw [outcome] at failed
    exact Or.inr ⟨middle, rfl, failed⟩

theorem effects_singleton (closes : ProjectId → Bool) (project : Project)
    (transition : Transition) :
    effects closes project [transition] = transition.effect closes project := by
  simp only [effects]
  cases transition.effect closes project <;> rfl

end Transition

/-! ## Chains of references that lead to a project -/

namespace Snapshot

variable {snapshot next : Snapshot} {id : ProjectId} {project changed : Project}

/-- Whether a reference from a project to another one closes a cycle. -/
def closes (snapshot : Snapshot) (source target : ProjectId) : Bool :=
  (DependencyGraph.ofSnapshot snapshot).wouldCreateCycle source target

theorem closes_iff_chain {source target : ProjectId} :
    snapshot.Closes source target ↔ Relation.ReflTransGen snapshot.Refers target source := by
  rw [Closes, Relation.reflTransGen_iff_eq_or_transGen]

theorem Replaced.keyed (replaced : Replaced snapshot id changed next) (keyed : snapshot.Keyed)
    (id_eq : changed.id = id) : next.Keyed := by
  intro other project found
  by_cases same : other = id
  · subst same
    rw [replaced.found] at found
    exact Option.some.inj found ▸ id_eq
  · rw [replaced.project?_of_ne same] at found
    exact keyed other project found

theorem Replaced.refers_iff (replaced : Replaced snapshot id changed next)
    {source target : ProjectId} (differs : source ≠ id) :
    next.Refers source target ↔ snapshot.Refers source target := by
  rw [Refers, Refers, replaced.project?_of_ne differs]

/-- Which references of a project close a cycle does not depend on the project itself. -/
theorem Replaced.closes_eq (replaced : Replaced snapshot id changed next)
    (keyed : snapshot.Keyed) (id_eq : changed.id = id) : next.closes id = snapshot.closes id := by
  funext target
  rw [Bool.eq_iff_iff, closes, closes, wouldCreateCycle_ofSnapshot keyed,
    wouldCreateCycle_ofSnapshot (replaced.keyed keyed id_eq), closes_iff_chain, closes_iff_chain]
  constructor
  · exact chain_of_others fun source target differs => (replaced.refers_iff differs).mp
  · exact chain_of_others fun source target differs => (replaced.refers_iff differs).mpr

/-- A change of a snapshot does to one project what a change of the project comes to, and nothing
else. -/
def Yields (snapshot : Snapshot) (id : ProjectId) :
    Except Fault Project → Except Fault Snapshot → Prop
  | .ok changed, .ok next =>
    Replaced snapshot id changed next ∧ next.version = snapshot.version
  | .error fault, .error other => fault = other
  | _, _ => False

theorem Yields.cases {answer : Except Fault Project} {result : Except Fault Snapshot}
    (yields : snapshot.Yields id answer result) :
    (∃ fault, answer = .error fault ∧ result = .error fault) ∨
      ∃ changed next, answer = .ok changed ∧ result = .ok next ∧
        Replaced snapshot id changed next ∧ next.version = snapshot.version := by
  cases answer with
  | error fault =>
    cases result with
    | error other => exact Or.inl ⟨fault, rfl, congrArg Except.error (Eq.symm yields)⟩
    | ok next => exact yields.elim
  | ok changed =>
    cases result with
    | error other => exact yields.elim
    | ok next => exact Or.inr ⟨changed, next, rfl, rfl, yields⟩

theorem yields_modify (found : snapshot.project? id = some project)
    (change : Project → Attempt Project) :
    Yields snapshot id (change project).toExcept (snapshot.modify id change).toExcept := by
  rw [modify_of_found found, Attempt.toExcept_map]
  cases (change project).toExcept with
  | error fault => rfl
  | ok changed => exact ⟨replaced_write found changed, rfl⟩

theorem yields_modifyWhole (found : snapshot.project? id = some project)
    (change : Project → Except Fault Project) :
    Yields snapshot id (change project) (snapshot.modifyWhole id change).toExcept := by
  have yields := yields_modify found fun opened => Attempt.ofExcept opened (change opened)
  rwa [Attempt.toExcept_ofExcept] at yields

theorem yields_holdProjectReference (found : snapshot.project? id = some project)
    (id_eq : project.id = id) (reference : ProjectReference) (holder : ReferenceHolder) :
    Yields snapshot id (project.hold (snapshot.closes id) reference holder)
      (snapshot.holdProjectReference id reference holder).toExcept := by
  simp only [holdProjectReference, found, Project.hold]
  split
  · split
    · rw [id_eq]
      rfl
    · exact yields_modify found fun opened =>
        .done (opened.setHolders reference ((project.holdersOf reference).add holder))
  · rename_i absent
    cases passed : snapshot.closes id reference.target with
    | true =>
      have stopped : snapshot.addProjectReference id reference =
          .stopped snapshot (.cycleDetected id reference.target) := if_pos passed
      rw [stopped, id_eq]
      rfl
    | false =>
      have completed : snapshot.addProjectReference id reference =
          .done (snapshot.write id { project with
            projectReferences := project.projectReferences ++ [reference] }) := by
        rw [addProjectReference, if_neg (by rw [← closes, passed]; exact Bool.false_ne_true),
          modifyWhole, modify_of_found found, Project.addProjectReference, if_neg absent]
        rfl
      rw [completed]
      have written := replaced_write found { project with
        projectReferences := project.projectReferences ++ [reference] }
      cases holder with
      | direct => exact ⟨written, rfl⟩
      | converted =>
        let recorded := { project with
          projectReferences := project.projectReferences ++ [reference] }
        have last := replaced_write written.found (recorded.setHolders reference .convertedOnce)
        simp only [Attempt.done, modify_of_found written.found]
        exact ⟨written.trans last, rfl⟩

end Snapshot

namespace Transition

variable {snapshot next : Snapshot} {id : ProjectId} {project changed : Project}

theorem id_eq_of_hold {closes : ProjectId → Bool} {reference : ProjectReference}
    {holder : ReferenceHolder} (completed : project.hold closes reference holder = .ok changed) :
    changed.id = project.id := by
  simp only [Project.hold] at completed
  split at completed
  · split at completed <;> cases completed
    exact (Project.trimmed_setHolders project reference _).id_eq
  · split at completed
    · cases completed
    · cases holder <;> cases completed
      · rfl
      · exact (Project.trimmed_setHolders _ reference _).id_eq

theorem id_eq_of_effect {closes : ProjectId → Bool} {transition : Transition}
    (completed : transition.effect closes project = .ok changed) : changed.id = project.id := by
  have of_attempt {attempt : Attempt Project} {reached : Project}
      (completed : attempt.toExcept = .ok reached) (same : attempt.reached.id = project.id) :
      reached.id = project.id := Attempt.reached_of_toExcept completed ▸ same
  cases transition with
  | addDocuments collection documents =>
    exact of_attempt completed (Project.trimmed_withDocuments project _ collection).id_eq
  | removeDocuments collection ids =>
    exact of_attempt completed (Project.trimmed_withDocuments project _ collection).id_eq
  | reloadDocument collection document loader =>
    exact (Project.trimmed_replaceLoader completed).id_eq
  | addReference representation =>
    cases representation with
    | structural reference => exact id_eq_of_hold completed
    | content reference => exact (Project.trimmed_addMetadataReference completed).id_eq
  | removeReference representation =>
    simp only [effect] at completed
    split at completed
    · cases representation with
      | structural reference => exact (Project.trimmed_releaseProjectReference completed).id_eq
      | content reference => exact (Project.trimmed_removeMetadataReference completed).id_eq
    · cases completed
      rfl
  | addProjectReference reference => exact id_eq_of_hold completed
  | removeProjectReference reference =>
    exact (Project.trimmed_releaseProjectReference completed).id_eq
  | addAnalyzerReference reference => exact (Project.trimmed_addAnalyzerReference completed).id_eq
  | removeAnalyzerReference reference =>
    exact (Project.trimmed_removeAnalyzerReference completed).id_eq
  | setProperty property =>
    cases completed
    rfl

theorem apply_of_missing (missing : snapshot.project? id = none) (transition : Transition) :
    transition.apply id snapshot = .error (.projectNotFound id) := by
  cases transition with
  | addReference representation =>
    cases representation <;>
      simp [apply, Snapshot.modifyWhole, Snapshot.modify_of_missing missing,
        Snapshot.holdProjectReference, missing]
  | removeReference representation => simp [apply, Snapshot.require, missing, bind, Except.bind]
  | _ =>
    simp [apply, Snapshot.modifyWhole, Snapshot.modify_of_missing missing,
      Snapshot.holdProjectReference, Snapshot.releaseProjectReference, missing]

theorem eq_nil_of_missing (missing : snapshot.project? id = none) {transitions : List Transition}
    (completed : applyAll id snapshot transitions = .ok next) :
    transitions = [] ∧ next = snapshot := by
  cases transitions with
  | nil => exact ⟨rfl, (Except.ok.inj completed).symm⟩
  | cons transition rest =>
    rw [applyAll, apply_of_missing missing] at completed
    cases completed

/-- A transition does to its project what its effect says. -/
theorem yields_apply (found : snapshot.project? id = some project) (id_eq : project.id = id)
    (transition : Transition) :
    snapshot.Yields id (transition.effect (snapshot.closes id) project)
      (transition.apply id snapshot) := by
  cases transition with
  | addDocuments collection documents =>
    exact Snapshot.yields_modify found fun opened => opened.addDocuments collection documents
  | removeDocuments collection ids =>
    exact Snapshot.yields_modify found fun opened => opened.removeDocuments collection ids
  | reloadDocument collection document loader =>
    exact Snapshot.yields_modifyWhole found fun opened =>
      opened.replaceLoader collection document loader
  | addReference representation =>
    cases representation with
    | structural reference => exact Snapshot.yields_holdProjectReference found id_eq _ _
    | content reference =>
      exact Snapshot.yields_modifyWhole found fun opened => opened.addMetadataReference reference
  | removeReference representation =>
    simp only [effect, apply, Snapshot.require_of_found found, bind, Except.bind]
    split
    · cases representation with
      | structural reference =>
        exact Snapshot.yields_modifyWhole found fun opened =>
          opened.releaseProjectReference reference .converted
      | content reference =>
        exact Snapshot.yields_modifyWhole found fun opened =>
          opened.removeMetadataReference reference
    · exact ⟨.refl found, rfl⟩
  | addProjectReference reference => exact Snapshot.yields_holdProjectReference found id_eq _ _
  | removeProjectReference reference =>
    exact Snapshot.yields_modifyWhole found fun opened =>
      opened.releaseProjectReference reference .direct
  | addAnalyzerReference reference =>
    exact Snapshot.yields_modifyWhole found fun opened => opened.addAnalyzerReference reference
  | removeAnalyzerReference reference =>
    exact Snapshot.yields_modifyWhole found fun opened => opened.removeAnalyzerReference reference
  | setProperty property =>
    exact Snapshot.yields_modify found fun opened => .done (opened.setProperty property)

/-- Transitions carried out one after another do to their project what their effects say. -/
theorem yields_applyAll (keyed : snapshot.Keyed) (found : snapshot.project? id = some project)
    (transitions : List Transition) :
    snapshot.Yields id (effects (snapshot.closes id) project transitions)
      (applyAll id snapshot transitions) := by
  induction transitions generalizing snapshot project with
  | nil => exact ⟨.refl found, rfl⟩
  | cons transition rest ih =>
    have id_eq := keyed id project found
    rw [effects, applyAll]
    rcases (yields_apply found id_eq transition).cases with
      ⟨fault, answered, refused⟩ | ⟨changed, middle, answered, applied, replaced, version_eq⟩
    · rw [answered, refused]
      rfl
    · rw [answered, applied]
      have changed_id := (id_eq_of_effect answered).trans id_eq
      have later := ih (replaced.keyed keyed changed_id) replaced.found
      rw [replaced.closes_eq keyed changed_id] at later
      show snapshot.Yields id (effects (snapshot.closes id) changed rest)
        (applyAll id middle rest)
      rcases later.cases with
        ⟨fault, answered, refused⟩ | ⟨final, next, answered, applied, last, last_version⟩
      · rw [answered, refused]
        rfl
      · rw [answered, applied]
        exact ⟨replaced.trans last, last_version.trans version_eq⟩

theorem exists_effects_of_applyAll (keyed : snapshot.Keyed)
    (found : snapshot.project? id = some project) {transitions : List Transition}
    (completed : applyAll id snapshot transitions = .ok next) :
    ∃ changed, effects (snapshot.closes id) project transitions = .ok changed ∧
      snapshot.Replaced id changed next := by
  rcases (yields_applyAll keyed found transitions).cases with
    ⟨fault, _, refused⟩ | ⟨changed, reached, answered, applied, replaced, _⟩
  · rw [completed] at refused
    cases refused
  · cases completed.symm.trans applied
    exact ⟨changed, answered, replaced⟩

end Transition

end CodeWorkspace
