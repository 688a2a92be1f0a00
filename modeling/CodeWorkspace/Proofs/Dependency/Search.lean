import CodeWorkspace.Container.OrderedSet.Lemmas
import CodeWorkspace.Dependency.Reach
import Mathlib.Logic.Relation

/-!
# Searching the dependency graph

The search of the dependency graph finds exactly the nodes to which a chain of edges leads.  So
`DependencyGraph.wouldCreateCycle` holds of two projects precisely when they are the same or a
chain of edges leads back from the second to the first, whether or not they are nodes.
-/

namespace CodeWorkspace

namespace DependencyGraph

/-- An edge leads from one node to another. -/
def Leads (graph : DependencyGraph) (source target : ProjectId) : Prop :=
  (source, target) ∈ graph.edges

/-- Both ends of every edge are nodes. -/
def Closed (graph : DependencyGraph) : Prop :=
  ∀ source target, graph.Leads source target → source ∈ graph.nodes ∧ target ∈ graph.nodes

theorem mem_successors {graph : DependencyGraph} {node next : ProjectId} :
    next ∈ graph.successors node ↔ graph.Leads node next := by
  simp [successors, Leads, OrderedSet.mem_def]

theorem mem_predecessors {graph : DependencyGraph} {node previous : ProjectId} :
    previous ∈ graph.predecessors node ↔ graph.Leads previous node := by
  simp [predecessors, Leads, OrderedSet.mem_def]

theorem reaches_iff_reflTransGen {graph : DependencyGraph} {source target : ProjectId} :
    graph.Reaches source target ↔ Relation.ReflTransGen graph.Leads source target := by
  constructor
  · intro reaches
    induction reaches with
    | refl node => exact .refl
    | step edge _ ih => exact .head edge ih
  · intro chain
    induction chain using Relation.ReflTransGen.head_induction_on with
    | refl => exact .refl target
    | head edge _ ih => exact .step edge ih

/-- What the search finds is reached from the stack. -/
theorem reaches_of_mem_search {graph : DependencyGraph} {unseen stack : List ProjectId}
    {found : ProjectId} (found_mem : found ∈ graph.search unseen stack) :
    ∃ start ∈ stack, graph.Reaches start found := by
  fun_induction search graph unseen stack with
  | case1 => cases found_mem
  | case2 unseen node stack node_mem ih =>
    rcases List.mem_cons.mp found_mem with rfl | later
    · exact ⟨found, List.mem_cons_self, .refl found⟩
    · obtain ⟨start, start_mem, reaches⟩ := ih later
      rcases List.mem_append.mp start_mem with successor | below
      · exact ⟨node, List.mem_cons_self, .step (mem_successors.mp successor) reaches⟩
      · exact ⟨start, List.mem_cons_of_mem node below, reaches⟩
  | case3 unseen node stack _ ih =>
    obtain ⟨start, start_mem, reaches⟩ := ih found_mem
    exact ⟨start, List.mem_cons_of_mem node start_mem, reaches⟩

/-- The search finds what it was started with, and with each node it finds its successors, as far
as they were unseen. -/
theorem search_saturated (graph : DependencyGraph) (unseen stack : List ProjectId) :
    (∀ node ∈ stack, node ∈ unseen → node ∈ graph.search unseen stack) ∧
      ∀ node ∈ graph.search unseen stack, ∀ next, graph.Leads node next → next ∈ unseen →
        next ∈ graph.search unseen stack := by
  fun_induction search graph unseen stack with
  | case1 => simp
  | case2 unseen node stack node_mem ih =>
    obtain ⟨finds_stack, finds_successors⟩ := ih
    -- a node other than the one just met is still unseen for the rest of the search
    have still_unseen {other : ProjectId} (other_mem : other ∈ unseen) (differs : other ≠ node) :
        other ∈ unseen.erase node := (List.mem_erase_of_ne differs).mpr other_mem
    constructor
    · intro other other_mem other_unseen
      by_cases same : other = node
      · exact same ▸ List.mem_cons_self
      · have below : other ∈ stack := (List.mem_cons.mp other_mem).resolve_left same
        exact List.mem_cons_of_mem _ (finds_stack other (List.mem_append_right _ below)
          (still_unseen other_unseen same))
    · intro found found_mem next edge next_unseen
      by_cases same : next = node
      · exact same ▸ List.mem_cons_self
      · have next_left := still_unseen next_unseen same
        rcases List.mem_cons.mp found_mem with rfl | later
        · exact List.mem_cons_of_mem _ (finds_stack next
            (List.mem_append_left _ (mem_successors.mpr edge)) next_left)
        · exact List.mem_cons_of_mem _ (finds_successors found later next edge next_left)
  | case3 unseen node stack seen ih =>
    obtain ⟨finds_stack, finds_successors⟩ := ih
    refine ⟨?_, finds_successors⟩
    intro other other_mem other_unseen
    rcases List.mem_cons.mp other_mem with rfl | below
    · exact absurd other_unseen seen
    · exact finds_stack other below other_unseen

theorem hasPath_iff {graph : DependencyGraph} (closed : graph.Closed) {source target : ProjectId}
    (source_mem : source ∈ graph.nodes) :
    graph.hasPath source target = true ↔ Relation.ReflTransGen graph.Leads source target := by
  rw [hasPath, decide_eq_true_eq, reachable]
  constructor
  · intro found
    obtain ⟨start, start_mem, reaches⟩ := reaches_of_mem_search found
    rw [List.mem_singleton] at start_mem
    exact start_mem ▸ reaches_iff_reflTransGen.mp reaches
  · intro chain
    obtain ⟨finds_stack, finds_successors⟩ :=
      search_saturated graph graph.nodes.elements [source]
    induction chain with
    | refl => exact finds_stack source List.mem_cons_self source_mem
    | tail _ edge ih => exact finds_successors _ ih _ edge (closed _ _ edge).2

/-- An edge closes a cycle exactly when it leads to its own source or a chain of edges leads back
to that. -/
theorem wouldCreateCycle_iff {graph : DependencyGraph} (closed : graph.Closed)
    {source target : ProjectId} :
    graph.wouldCreateCycle source target = true ↔
      source = target ∨ Relation.TransGen graph.Leads target source := by
  simp only [wouldCreateCycle, Bool.or_eq_true, Bool.and_eq_true, decide_eq_true_eq]
  constructor
  · rintro (same | ⟨⟨_, target_mem⟩, path⟩)
    · exact Or.inl same
    · have chain := (hasPath_iff closed target_mem).mp path
      rcases Relation.reflTransGen_iff_eq_or_transGen.mp chain with same | chain
      · exact Or.inl same
      · exact Or.inr chain
  · rintro (same | chain)
    · exact Or.inl same
    · obtain ⟨next, first, _⟩ := Relation.TransGen.head'_iff.mp chain
      obtain ⟨previous, _, last⟩ := Relation.TransGen.tail'_iff.mp chain
      have target_mem := (closed _ _ first).1
      have source_mem := (closed _ _ last).2
      exact Or.inr ⟨⟨source_mem, target_mem⟩,
        (hasPath_iff closed target_mem).mpr chain.to_reflTransGen⟩

end DependencyGraph

end CodeWorkspace
