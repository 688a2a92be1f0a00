import CodeWorkspace.Proofs.Transition.Part

/-!
# Where transitions lead

A project comes to refer to another one only by a transition that adds a reference to that one.
-/

namespace CodeWorkspace

variable {closes : ProjectId → Bool} {project changed : Project} {target : ProjectId}

theorem Project.refersTo_of_hold {reference : ProjectReference} {holder : ReferenceHolder}
    (completed : project.hold closes reference holder = .ok changed)
    (refers : changed.refersTo target = true) :
    project.refersTo target = true ∨ reference.target = target := by
  have of_held {held : Project} {holders : Holders}
      (refers : (held.setHolders reference holders).refersTo target = true) :
      held.refersTo target = true :=
    (trimmed_setHolders held reference holders).refersTo_of target refers
  have of_added (refers : { project with
      projectReferences := project.projectReferences ++ [reference] }.refersTo target = true) :
      project.refersTo target = true ∨ reference.target = target := by
    simpa [refersTo] using refers
  simp only [hold] at completed
  split at completed
  · split at completed <;> cases completed
    exact Or.inl (of_held refers)
  · split at completed
    · cases completed
    · cases holder <;> cases completed
      · exact of_added refers
      · exact of_added (of_held refers)

namespace Transition

/-- The project that a transition may make its own project refer to. -/
def target? : Transition → Option ProjectId
  | .addReference (.structural reference) => some reference.target
  | .addProjectReference reference => some reference.target
  | _ => none

theorem target?_of_documents {transition : Transition} {collection : DocumentCollection}
    (part_eq : transition.part = .documents collection) : transition.target? = none := by
  cases transition <;> first | rfl | cases part_eq

/-- A transition makes its project refer to no other project than the one that it names. -/
theorem refersTo_of_effect {transition : Transition}
    (completed : transition.effect closes project = .ok changed)
    (refers : changed.refersTo target = true) :
    project.refersTo target = true ∨ transition.target? = some target := by
  have elsewhere (other : transition.part ≠ .references) :
      project.refersTo target = true ∨ transition.target? = some target := by
    have same := Project.references_of_sameBut (sameBut_of_effect completed) other
    rw [Project.refersTo, same.2.1] at refers
    exact Or.inl refers
  cases transition with
  | addReference representation =>
    cases representation with
    | structural reference =>
      exact (Project.refersTo_of_hold completed refers).imp_right (congrArg some)
    | content reference =>
      exact Or.inl ((Project.trimmed_addMetadataReference completed).refersTo_of target refers)
  | removeReference representation =>
    simp only [effect] at completed
    split at completed
    · cases representation with
      | structural reference =>
        exact Or.inl ((Project.trimmed_releaseProjectReference completed).refersTo_of target refers)
      | content reference =>
        exact Or.inl ((Project.trimmed_removeMetadataReference completed).refersTo_of target refers)
    · cases completed
      exact Or.inl refers
  | addProjectReference reference =>
    exact (Project.refersTo_of_hold completed refers).imp_right (congrArg some)
  | removeProjectReference reference =>
    exact Or.inl ((Project.trimmed_releaseProjectReference completed).refersTo_of target refers)
  | _ => exact elsewhere (by simp [part])

theorem not_refersTo_effects {transitions : List Transition}
    (elsewhere : ∀ transition ∈ transitions, transition.target? ≠ some target)
    (completed : effects closes project transitions = .ok changed)
    (avoids : project.refersTo target = false) : changed.refersTo target = false :=
  effects_induction (fun first second => first.refersTo target = false →
      second.refersTo target = false)
    (fun _ => id) (fun first second avoids => second (first avoids))
    (fun transition transition_mem {_ _} applied avoids => by
      rw [Bool.eq_false_iff] at avoids ⊢
      exact fun refers => (refersTo_of_effect applied refers).elim avoids
        (elsewhere transition transition_mem))
    completed avoids

end Transition

end CodeWorkspace
