import CodeWorkspace.Proofs.Project.Holders
import CodeWorkspace.Proofs.Snapshot.Contents
import CodeWorkspace.Reconciliation

/-!
# Converting metadata references

How a metadata reference is represented depends on the snapshot only through the projects that are
there and the references of its owner that would close a cycle.  A project that replaces the owner
changes neither, so what the owner does to itself never changes how its metadata references are
represented.
-/

namespace CodeWorkspace

variable {owner : ProjectId} {reference : MetadataReference} {index : OutputIndex}
  {snapshot next : Snapshot} {changed : Project} {line : ProjectReference}
  {publisher? : Option ProjectId}

theorem reconcile_congr (contains_eq : ∀ id, next.contains id = snapshot.contains id)
    (closes_eq : next.closes owner = snapshot.closes owner) (reference : MetadataReference)
    (index : OutputIndex) :
    reconcile owner reference index next = reconcile owner reference index snapshot := by
  have wouldCreateCycle_eq (target : ProjectId) :
      (DependencyGraph.ofSnapshot next).wouldCreateCycle owner target =
        (DependencyGraph.ofSnapshot snapshot).wouldCreateCycle owner target :=
    congrFun closes_eq target
  have target_eq : conversionTarget? owner reference index next =
      conversionTarget? owner reference index snapshot := by
    simp only [conversionTarget?, contains_eq, wouldCreateCycle_eq]
  rw [reconcile, reconcile, target_eq]

/-- How a project's metadata references are represented does not depend on the project itself. -/
theorem reconcile_replaced (replaced : snapshot.Replaced owner changed next)
    (keyed : snapshot.Keyed) (id_eq : changed.id = owner) (reference : MetadataReference)
    (index : OutputIndex) :
    reconcile owner reference index next = reconcile owner reference index snapshot :=
  reconcile_congr replaced.contains_eq (replaced.closes_eq keyed id_eq) reference index

theorem reconcile_apply (keyed : snapshot.Keyed) {transition : Transition}
    (completed : transition.apply owner snapshot = .ok next) (reference : MetadataReference)
    (index : OutputIndex) :
    reconcile owner reference index next = reconcile owner reference index snapshot := by
  cases found : snapshot.project? owner with
  | none =>
    rw [Transition.apply_of_missing found] at completed
    cases completed
  | some project =>
    rcases (Transition.yields_apply found (keyed owner project found) transition).cases with
      ⟨fault, _, refused⟩ | ⟨changed, reached, answered, applied, replaced, _⟩
    · cases completed.symm.trans refused
    · cases completed.symm.trans applied
      exact reconcile_replaced replaced keyed
        ((Transition.id_eq_of_effect answered).trans (keyed owner project found)) reference index

theorem reconcile_applyAll (keyed : snapshot.Keyed) {transitions : List Transition}
    (completed : Transition.applyAll owner snapshot transitions = .ok next)
    (reference : MetadataReference) (index : OutputIndex) :
    reconcile owner reference index next = reconcile owner reference index snapshot := by
  induction transitions generalizing snapshot with
  | nil =>
    cases completed
    rfl
  | cons transition rest ih =>
    rw [Transition.applyAll] at completed
    split at completed
    · cases completed
    · rename_i reached applied
      rw [ih (Transition.extended_apply keyed applied).keyed completed]
      exact reconcile_apply keyed applied reference index

namespace Snapshot

variable {first second : Snapshot}

theorem SameContents.closes_eq (same : SameContents first second) (keyed : first.Keyed)
    (second_keyed : second.Keyed) (source : ProjectId) :
    second.closes source = first.closes source := by
  have refers_eq : second.Refers = first.Refers := by
    funext there target
    simp only [Refers, same.project?_eq]
  funext target
  rw [closes, closes, Bool.eq_iff_iff, wouldCreateCycle_ofSnapshot second_keyed,
    wouldCreateCycle_ofSnapshot keyed, Closes, Closes, refers_eq]

theorem SameContents.reconcile_eq (same : SameContents first second) (keyed : first.Keyed)
    (second_keyed : second.Keyed) (owner : ProjectId) (reference : MetadataReference)
    (index : OutputIndex) :
    reconcile owner reference index second = reconcile owner reference index first := by
  have contains_eq (id : ProjectId) : second.contains id = first.contains id := by
    rw [Bool.eq_iff_iff, contains_iff, contains_iff, same.project?_eq]
  exact reconcile_congr contains_eq (same.closes_eq keyed second_keyed owner) reference index

/-- A reference to a project stands for a metadata reference whose path it publishes at. -/
structure StandsFor (snapshot : Snapshot) (owner : ProjectId)
    (reference : MetadataReference) (publisher? : Option ProjectId) (line : ProjectReference) :
    Prop where
  line_eq : line = .converted line.target reference.properties
  assembly : reference.properties.kind = .assembly
  published : publisher? = some line.target
  differs : line.target ≠ owner
  present : snapshot.contains line.target = true

theorem StandsFor.of_present
    (stands : snapshot.StandsFor owner reference publisher? line)
    (present : next.contains line.target = true) :
    next.StandsFor owner reference publisher? line :=
  ⟨stands.line_eq, stands.assembly, stands.published, stands.differs, present⟩

/-- A metadata reference is converted into the reference that stands for it, unless that closes a
cycle. -/
theorem StandsFor.reconcile_eq
    (stands : snapshot.StandsFor owner reference (index.owner? reference.path) line)
    (unclosed : snapshot.closes owner line.target = false) :
    reconcile owner reference index snapshot = .structural line := by
  have target_eq : conversionTarget? owner reference index snapshot = some line.target := by
    have accepted : (DependencyGraph.ofSnapshot snapshot).wouldCreateCycle owner line.target =
        false := unclosed
    rw [conversionTarget?, if_pos stands.assembly, stands.published, Option.filter_some, if_pos]
    simp only [Bool.and_eq_true, decide_eq_true_eq, Bool.not_eq_true']
    exact ⟨⟨stands.differs, stands.present⟩, accepted⟩
  rw [reconcile, target_eq]
  exact congrArg Representation.structural stands.line_eq.symm

end Snapshot

theorem reconcile_eq_structural_iff :
    reconcile owner reference index snapshot = .structural line ↔
      snapshot.StandsFor owner reference (index.owner? reference.path) line ∧
        snapshot.closes owner line.target = false := by
  refine ⟨fun converted => ?_, fun ⟨stands, unclosed⟩ => stands.reconcile_eq unclosed⟩
  rw [reconcile] at converted
  split at converted
  · rename_i target found
    cases converted
    rw [conversionTarget?] at found
    split at found
    · rename_i assembly
      obtain ⟨published, accepted⟩ := Option.filter_eq_some_iff.mp found
      simp only [Bool.and_eq_true, decide_eq_true_eq, Bool.not_eq_true'] at accepted
      obtain ⟨⟨differs, present⟩, unclosed⟩ := accepted
      exact ⟨⟨rfl, assembly, published, differs, present⟩, unclosed⟩
    · cases found
  · cases converted

theorem standsFor_of_reconcile
    (converted : reconcile owner reference index snapshot = .structural line) :
    snapshot.StandsFor owner reference (index.owner? reference.path) line :=
  (reconcile_eq_structural_iff.mp converted).1

/-- A metadata reference that is converted can be added. -/
theorem apply_addReference_of_reconcile (keyed : snapshot.Keyed)
    (present : snapshot.contains owner = true)
    (converted : reconcile owner reference index snapshot = .structural line) :
    ∃ next, (Transition.addReference (.structural line)).apply owner snapshot = .ok next := by
  obtain ⟨project, found⟩ := Snapshot.contains_iff.mp present
  have unclosed : snapshot.closes owner line.target = false :=
    (reconcile_eq_structural_iff.mp converted).2
  obtain ⟨changed, held⟩ : ∃ changed,
      project.hold (snapshot.closes owner) line .converted = .ok changed := by
    rw [Project.hold_completes_iff, unclosed]
    simp
  rcases (Transition.yields_apply found (keyed owner project found)
      (.addReference (.structural line))).cases with
    ⟨fault, answered, _⟩ | ⟨_, next, _, applied, _⟩
  · cases held.symm.trans answered
  · exact ⟨next, applied⟩

end CodeWorkspace
