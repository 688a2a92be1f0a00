import CodeWorkspace.Proofs.Snapshot.Contents
import CodeWorkspace.Proofs.Snapshot.Diff
import CodeWorkspace.Proofs.Transition.Effect

/-!
# Transitions of different projects

The transitions of a project leave every other project alone, the moment of its last writing
included.  What the other projects are may decide whether a transition can be carried out, but not
what it makes of its project; so transitions of different projects, as far as they can be carried
out in either order, lead to the same contents.
-/

namespace CodeWorkspace

/-! ## What the other projects decide -/

/-- What holding a reference makes of a project does not depend on which references close a
cycle. -/
theorem Project.hold_unique {closes other : ProjectId → Bool} {project one two : Project}
    {reference : ProjectReference} {holder : ReferenceHolder}
    (first : project.hold closes reference holder = .ok one)
    (second : project.hold other reference holder = .ok two) : one = two := by
  rw [hold] at first second
  by_cases present : reference ∈ project.projectReferences
  · rw [if_pos present] at first second
    exact Except.ok.inj (first.symm.trans second)
  · rw [if_neg present] at first second
    split at first
    · cases first
    · split at second
      · cases second
      · exact Except.ok.inj (first.symm.trans second)

namespace Transition

variable {closes other : ProjectId → Bool} {project one two : Project}

theorem effect_unique {transition : Transition}
    (first : transition.effect closes project = .ok one)
    (second : transition.effect other project = .ok two) : one = two := by
  cases transition with
  | addReference representation =>
    cases representation with
    | structural reference => exact Project.hold_unique first second
    | content reference => exact Except.ok.inj (first.symm.trans second)
  | addProjectReference reference => exact Project.hold_unique first second
  | _ => exact Except.ok.inj (first.symm.trans second)

/-- Two runs of the same transitions on a project lead to the same project, whichever references
would close a cycle during each of them. -/
theorem effects_unique {transitions : List Transition}
    (first : effects closes project transitions = .ok one)
    (second : effects other project transitions = .ok two) : one = two := by
  induction transitions generalizing project with
  | nil => exact Except.ok.inj (first.symm.trans second)
  | cons transition rest ih =>
    obtain ⟨middle, applied, first⟩ := effects_cons_ok.mp first
    obtain ⟨reached, applied_again, second⟩ := effects_cons_ok.mp second
    cases effect_unique applied applied_again
    exact ih first second

end Transition

/-! ## What is left alone -/

namespace Snapshot

variable {snapshot next : Snapshot} {id other : ProjectId}

/-- Nothing but one project has changed; the others are at the revisions that they had. -/
structure Spares (snapshot : Snapshot) (id : ProjectId) (next : Snapshot) : Prop where
  version_eq : next.version = snapshot.version
  ids_eq : next.ids = snapshot.ids
  others : ∀ other, other ≠ id → next.revisions.get? other = snapshot.revisions.get? other

theorem Spares.project?_eq (spares : Spares snapshot id next) (differs : other ≠ id) :
    next.project? other = snapshot.project? other := by
  rw [project?, project?, spares.others other differs]

theorem Spares.contains_eq (spares : Spares snapshot id next) (other : ProjectId) :
    next.contains other = snapshot.contains other := by
  rw [Bool.eq_iff_iff, ← mem_ids_iff, ← mem_ids_iff, spares.ids_eq]

theorem Spares.sharesProject_eq (spares : Spares snapshot id next) (differs : other ≠ id) :
    next.sharesProject snapshot other = snapshot.contains other := by
  rw [sharesProject, spares.others other differs, contains, ← OrderedMap.isSome_get?]
  cases snapshot.revisions.get? other with
  | none => rfl
  | some revision => exact beq_self_eq_true revision.stamp

/-- A difference lists at most the one project that has changed. -/
theorem Spares.between (spares : Spares snapshot id next) (keyed : next.Keyed) :
    (SnapshotDiff.between snapshot next).added.isEmpty = true ∧
      (SnapshotDiff.between snapshot next).removed.isEmpty = true ∧
      ∀ other change, (SnapshotDiff.between snapshot next).changed.get? other = some change →
        other = id := by
  refine ⟨?_, ?_, fun other change changed => ?_⟩
  · simp [OrderedSet.isEmpty_iff_forall_not_mem, SnapshotDiff.mem_added_iff keyed,
      spares.contains_eq]
  · simp [OrderedSet.isEmpty_iff_forall_not_mem, SnapshotDiff.mem_removed_iff, spares.contains_eq]
  · obtain ⟨project, found, changed⟩ := (SnapshotDiff.get?_changed_iff keyed).mp changed
    obtain ⟨previous, found_before, unshared, -⟩ :=
      (SnapshotDiff.change?_eq_some_iff keyed found).mp changed
    by_contra differs
    rw [spares.sharesProject_eq differs, contains_iff.mpr ⟨previous, found_before⟩] at unshared
    cases unshared

end Snapshot

namespace Transition

variable {snapshot next last start : Snapshot} {id first second : ProjectId}
  {transitions others : List Transition}

theorem spares_applyAll (keyed : snapshot.Keyed)
    (completed : applyAll id snapshot transitions = .ok next) : snapshot.Spares id next := by
  cases found : snapshot.project? id with
  | none =>
    obtain ⟨-, rfl⟩ := eq_nil_of_missing found completed
    exact ⟨rfl, rfl, fun _ _ => rfl⟩
  | some project =>
    rcases (yields_applyAll keyed found transitions).cases with
      ⟨fault, _, refused⟩ | ⟨changed, reached, _, applied, replaced, version_eq⟩
    · cases completed.symm.trans refused
    · cases completed.symm.trans applied
      exact ⟨version_eq, replaced.ids_eq, replaced.others⟩

/-! ## Either order -/

/-- Transitions make the same of a project in any two snapshots. -/
theorem project?_unique (keyed : snapshot.Keyed) (start_keyed : start.Keyed)
    (same : start.project? id = snapshot.project? id)
    (completed : applyAll id snapshot transitions = .ok next)
    (again : applyAll id start transitions = .ok last) : last.project? id = next.project? id := by
  cases found : snapshot.project? id with
  | none =>
    obtain ⟨-, rfl⟩ := eq_nil_of_missing found completed
    obtain ⟨-, rfl⟩ := eq_nil_of_missing (same.trans found) again
    exact same
  | some project =>
    obtain ⟨one, effects_eq, replaced⟩ := exists_effects_of_applyAll keyed found completed
    obtain ⟨two, again_eq, replaced_again⟩ :=
      exists_effects_of_applyAll start_keyed (same.trans found) again
    rw [replaced.found, replaced_again.found, effects_unique effects_eq again_eq]

/-- Transitions of two projects lead to the same contents in either order. -/
theorem sameContents_applyAll {first_reached second_reached : Snapshot} (sound : snapshot.Sound)
    (differs : first ≠ second)
    (first_before : applyAll first snapshot transitions = .ok first_reached)
    (second_after : applyAll second first_reached others = .ok next)
    (second_before : applyAll second snapshot others = .ok second_reached)
    (first_after : applyAll first second_reached transitions = .ok last) :
    last.version = next.version ∧ next.SameContents last := by
  have first_sound := sound_applyAll sound first_before
  have second_sound := sound_applyAll sound second_before
  have spares_first := spares_applyAll sound.keyed first_before
  have then_second := spares_applyAll first_sound.keyed second_after
  have spares_second := spares_applyAll sound.keyed second_before
  have then_first := spares_applyAll second_sound.keyed first_after
  refine ⟨?_, ?_, fun id => ?_⟩
  · rw [then_first.version_eq, spares_second.version_eq, then_second.version_eq,
      spares_first.version_eq]
  · rw [then_first.ids_eq, spares_second.ids_eq, then_second.ids_eq, spares_first.ids_eq]
  · -- in either order, a project is still what it was at the start when its turn comes
    by_cases is_first : id = first
    · subst is_first
      rw [then_second.project?_eq differs]
      exact project?_unique sound.keyed second_sound.keyed (spares_second.project?_eq differs)
        first_before first_after
    · by_cases is_second : id = second
      · subst is_second
        rw [then_first.project?_eq is_first]
        exact (project?_unique sound.keyed first_sound.keyed (spares_first.project?_eq is_first)
          second_before second_after).symm
      · rw [then_first.project?_eq is_first, spares_second.project?_eq is_second,
          then_second.project?_eq is_second, spares_first.project?_eq is_first]

/-- After any operations, the transitions of a project leave the version, the order of the projects
and every other project alone, so that a difference lists at most the project itself, as changed;
and transitions of different projects that can be carried out in either order lead to the same
contents. -/
theorem applyAll_independent (operations : List Snapshot.Operation) :
    let snapshot := Snapshot.empty.performAll operations
    (∀ id transitions next, applyAll id snapshot transitions = .ok next →
      next.version = snapshot.version ∧ next.ids = snapshot.ids ∧
      (∀ other, other ≠ id → next.project? other = snapshot.project? other ∧
        next.sharesProject snapshot other = snapshot.contains other) ∧
      (SnapshotDiff.between snapshot next).added.isEmpty = true ∧
      (SnapshotDiff.between snapshot next).removed.isEmpty = true ∧
      ∀ other change, (SnapshotDiff.between snapshot next).changed.get? other = some change →
        other = id) ∧
    ∀ first second transitions others, first ≠ second →
      ∀ first_reached next second_reached last,
        applyAll first snapshot transitions = .ok first_reached →
        applyAll second first_reached others = .ok next →
        applyAll second snapshot others = .ok second_reached →
        applyAll first second_reached transitions = .ok last →
        last.version = next.version ∧ last.contents = next.contents := by
  intro snapshot
  have sound : snapshot.Sound := Snapshot.sound_performAll Snapshot.sound_empty operations
  refine ⟨fun id transitions next completed => ?_, ?_⟩
  · have spares := spares_applyAll sound.keyed completed
    exact ⟨spares.version_eq, spares.ids_eq,
      fun other differs => ⟨spares.project?_eq differs, spares.sharesProject_eq differs⟩,
      spares.between (sound_applyAll sound completed).keyed⟩
  · intro first second transitions others differs first_reached next second_reached last
      first_before second_after second_before first_after
    obtain ⟨version_eq, same⟩ := sameContents_applyAll sound differs first_before second_after
      second_before first_after
    exact ⟨version_eq, same.contents_eq⟩

/-- One project comes to list a file while another one comes to refer to it. -/
theorem applyAll_independent_of_two_projects :
    let listing : ProjectId := ⟨.ofNat 1⟩
    let referring : ProjectId := ⟨.ofNat 2⟩
    let snapshot := Snapshot.empty.performAll
      [.addProject ⟨listing, "C#", { name := "A", assemblyName := "A" }⟩,
        .addProject ⟨referring, "C#", { name := "B", assemblyName := "B" }⟩]
    let transitions := [addReference (.content { path := "/a" })]
    let others := [addReference (.structural { target := listing }),
      addProjectReference { target := listing }]
    listing ≠ referring ∧
      ∃ listed next referred last, applyAll listing snapshot transitions = .ok listed ∧
        applyAll referring listed others = .ok next ∧
        applyAll referring snapshot others = .ok referred ∧
        applyAll listing referred transitions = .ok last ∧
        listed.sharesProject snapshot referring = snapshot.contains referring ∧
        last.contents = next.contents := by
  intro listing referring snapshot transitions others
  have run (front : Except Fault Snapshot) (back : Snapshot → Except Fault Snapshot)
      (completes : (front.bind back).isOk = true) :
      ∃ middle final, front = .ok middle ∧ back middle = .ok final := by
    cases front with
    | error fault => cases completes
    | ok middle =>
      cases outcome : back middle with
      | error fault =>
        rw [Except.bind, outcome] at completes
        cases completes
      | ok final => exact ⟨middle, final, rfl, outcome⟩
  have differs : listing ≠ referring := by decide
  obtain ⟨listed, next, first_before, second_after⟩ :=
    run (applyAll listing snapshot transitions)
      (fun reached => applyAll referring reached others) (by decide_cbv)
  obtain ⟨referred, last, second_before, first_after⟩ :=
    run (applyAll referring snapshot others)
      (fun reached => applyAll listing reached transitions) (by decide_cbv)
  obtain ⟨alone, either⟩ := applyAll_independent
    [.addProject ⟨listing, "C#", { name := "A", assemblyName := "A" }⟩,
      .addProject ⟨referring, "C#", { name := "B", assemblyName := "B" }⟩]
  exact ⟨differs, listed, next, referred, last, first_before, second_after, second_before,
    first_after, ((alone _ _ _ first_before).2.2.1 referring differs.symm).2,
    (either _ _ _ _ differs _ _ _ _ first_before second_after second_before first_after).2⟩

end Transition

end CodeWorkspace
