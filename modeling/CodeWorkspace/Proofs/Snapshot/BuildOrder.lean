import CodeWorkspace.Proofs.Snapshot.References

/-!
# Cycles and build order of any snapshot

A snapshot that was read from a text may hold projects under keys that are not their identities,
references that close cycles, references of a project to itself and references to projects that
are missing.  The check for cycles and the build order are right on all of these: they go by the
identities that the projects themselves bear.
-/

namespace CodeWorkspace

namespace Snapshot

variable {snapshot : Snapshot} {source target : ProjectId}

/-- A project with one identity, whatever key it is found by, has a reference to another one. -/
def Cites (snapshot : Snapshot) (source target : ProjectId) : Prop :=
  ∃ project ∈ snapshot.projects, project.id = source ∧ project.refersTo target = true

theorem leads_iff_cites :
    (DependencyGraph.ofSnapshot snapshot).Leads source target ↔ snapshot.Cites source target := by
  rw [DependencyGraph.ofSnapshot, DependencyGraph.leads_ofProjects]
  simp only [Cites, eq_comm]

theorem leads_eq_cites (snapshot : Snapshot) :
    (DependencyGraph.ofSnapshot snapshot).Leads = snapshot.Cites := by
  funext source target
  exact propext leads_iff_cites

/-- An edge would close a cycle exactly when it leads back to its source or a chain of references
does.  There is a build order exactly when no chain of references leads from a project back to it;
it lists every project and every project that is referred to once, each behind all that it refers
to.  Otherwise a project is reported that lies on such a chain. -/
theorem cycles_reported_or_buildOrder (snapshot : Snapshot) :
    let graph := DependencyGraph.ofSnapshot snapshot
    (∀ source target, graph.wouldCreateCycle source target = true ↔
      source = target ∨ Relation.TransGen snapshot.Cites target source) ∧
    ((∃ order, graph.buildOrder = .ok order) ↔
      ∀ id, ¬ Relation.TransGen snapshot.Cites id id) ∧
    (∀ order, graph.buildOrder = .ok order →
      order.Nodup ∧
      (∀ id, id ∈ order ↔
        ∃ project ∈ snapshot.projects, id = project.id ∨ project.refersTo id = true) ∧
      ∀ source target, snapshot.Cites source target →
        order.idxOf target < order.idxOf source) ∧
    ∀ fault, graph.buildOrder = .error fault →
      ∃ id, fault = .cycleDetected id id ∧ Relation.TransGen snapshot.Cites id id := by
  intro graph
  have closed : graph.Closed := DependencyGraph.closed_ofSnapshot snapshot
  rw [← leads_eq_cites snapshot]
  refine ⟨fun source target => DependencyGraph.wouldCreateCycle_iff closed, ?_⟩
  rcases DependencyGraph.buildOrder_cases closed with
    ⟨order, order_eq, distinct, complete, ordered⟩ | ⟨node, failed, cycle⟩
  · have acyclic := ordered.acyclic closed distinct fun node => (complete node).mpr
    simp only [order_eq, Except.ok.injEq, exists_eq', true_iff, forall_eq', reduceCtorEq,
      false_implies, implies_true, and_true]
    refine ⟨acyclic, distinct, fun id => ?_, fun source target edge => ?_⟩
    · exact (complete id).trans DependencyGraph.mem_nodes_ofProjects
    · exact ordered.idxOf_lt distinct ((complete source).mpr (closed _ _ edge).1) edge
  · simp only [failed, Except.error.injEq, reduceCtorEq, exists_false, false_iff, not_forall,
      not_not, false_implies, implies_true, true_and, forall_eq']
    exact ⟨⟨node, cycle⟩, node, rfl, cycle⟩

/-- A snapshot in which a project stands under a key of its own, and two others refer to each
other. -/
def readWithCycle : Snapshot :=
  let project (id target : Nat) : Project :=
    { Project.ofInfo ⟨⟨.ofNat id⟩, "C#", { name := "P", assemblyName := "P" }⟩ with
      projectReferences := [{ target := ⟨.ofNat target⟩ }] }
  ofContents 0 [(⟨.ofNat 9⟩, project 1 2), (⟨.ofNat 2⟩, project 2 3), (⟨.ofNat 3⟩, project 3 2)]

example : (DependencyGraph.ofSnapshot readWithCycle).buildOrder =
    .error (.cycleDetected ⟨.ofNat 3⟩ ⟨.ofNat 3⟩) := by
  cbv

end Snapshot

end CodeWorkspace
