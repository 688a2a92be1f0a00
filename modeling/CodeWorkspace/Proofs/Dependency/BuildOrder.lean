import CodeWorkspace.Dependency.BuildOrder
import CodeWorkspace.Proofs.Dependency.Search
import Mathlib.Data.List.Basic

/-!
# The build order of a graph

While the traversal is under way the nodes that were met and not finished stand on the stack, each
below all that it still waits for.  Such a node leads to all that stand above it, so it waits for
one that stands below it only along an edge of a cycle.  Hence, unless it meets a node with an edge
to itself, the traversal finishes every node once, behind those of its successors that do not lead
back to it.  The check at the end finds an edge to a node that was finished later exactly if there
is a cycle, and the node that it reports lies on one.
-/

namespace CodeWorkspace

namespace DependencyGraph

/-- No chain of edges leads from a node back to it. -/
def Acyclic (graph : DependencyGraph) : Prop :=
  ∀ node, ¬ Relation.TransGen graph.Leads node node

/-- Every node of a list stands behind all nodes that edges lead to from it. -/
def Ordered (graph : DependencyGraph) (order : List ProjectId) : Prop :=
  ∀ front node back, order = front ++ node :: back → ∀ next, graph.Leads node next → next ∈ front

/-- Every node of a list stands behind all nodes that edges lead to from it, apart from those that
lead back to it. -/
def OrderedButForCycles (graph : DependencyGraph) (order : List ProjectId) : Prop :=
  ∀ front node back, order = front ++ node :: back → ∀ next, graph.Leads node next →
    next ∈ front ∨ Relation.TransGen graph.Leads next node

theorem OrderedButForCycles.snoc {graph : DependencyGraph} {order : List ProjectId}
    {last : ProjectId} (ordered : graph.OrderedButForCycles order)
    (ready : ∀ next, graph.Leads last next →
      next ∈ order ∨ Relation.TransGen graph.Leads next last) :
    graph.OrderedButForCycles (order ++ [last]) := by
  intro front node back split next edge
  rcases List.append_eq_append_iff.mp split with ⟨rest, front_eq, tail_eq⟩ | ⟨rest, order_eq, eq⟩
  · have same : rest = [] ∧ last = node := by cases rest <;> simp_all
    obtain ⟨rfl, rfl⟩ := same
    rw [front_eq, List.append_nil]
    exact ready next edge
  · cases rest with
    | nil =>
      obtain ⟨rfl, _⟩ := List.cons_eq_cons.mp eq
      rw [List.append_nil] at order_eq
      exact order_eq ▸ ready next edge
    | cons head tail =>
      obtain ⟨rfl, _⟩ := List.cons_eq_cons.mp eq
      exact ordered front node tail order_eq next edge

namespace Traversal

/-- A node that was met and is not finished. -/
def IsOpen (traversal : Traversal) (node : ProjectId) : Prop :=
  node ∉ traversal.unseen ∧ node ∉ traversal.finished

/-- A traversal and its stack belong together. -/
structure Underway (graph : DependencyGraph) (traversal : Traversal) (stack : List ProjectId) :
    Prop where
  unseen_nodup : traversal.unseen.Nodup
  finished_nodup : traversal.finished.Nodup
  finished_seen : ∀ node ∈ traversal.finished, node ∉ traversal.unseen
  finished_nodes : ∀ node ∈ traversal.finished, node ∈ graph.nodes
  stack_nodes : ∀ node ∈ stack, node ∈ graph.nodes
  /-- No node that was met has an edge to itself. -/
  loop_free : ∀ node ∈ graph.nodes, node ∉ traversal.unseen → ¬ graph.Leads node node
  ordered : graph.OrderedButForCycles traversal.finished
  open_mem : ∀ node ∈ graph.nodes, traversal.IsOpen node → node ∈ stack
  /-- All that an open node waits for stands above it, but for what leads back to the node. -/
  waits_for_upper : ∀ above node below, stack = above ++ node :: below → traversal.IsOpen node →
    ∀ next, graph.Leads node next →
      next ∈ traversal.finished ∨ next ∈ above ∨ Relation.TransGen graph.Leads next node
  /-- What stands above an open node is there because of it. -/
  leads_to_upper : ∀ above node below, stack = above ++ node :: below → traversal.IsOpen node →
    node ∉ above → ∀ upper ∈ above, Relation.TransGen graph.Leads node upper

variable {graph : DependencyGraph} {traversal : Traversal} {stack : List ProjectId}
  {node : ProjectId}

/-- A place in a list that follows some elements unlike it lies behind all of these. -/
private theorem split_behind {front lower above below : List ProjectId}
    (split : front ++ lower = above ++ node :: below) (absent : node ∉ front) :
    ∃ rest, above = front ++ rest ∧ lower = rest ++ node :: below := by
  rcases List.append_eq_append_iff.mp split with ⟨rest, above_eq, lower_eq⟩ | ⟨rest, front_eq, eq⟩
  · exact ⟨rest, above_eq, lower_eq⟩
  · cases rest with
    | nil => exact ⟨[], by simpa using front_eq.symm, by simpa using eq.symm⟩
    | cons head tail =>
      obtain ⟨rfl, _⟩ := List.cons_eq_cons.mp eq
      exact absurd (front_eq ▸ by simp) absent

/-- When a node is met each of its successors is finished, unseen, or open and so leads back to
it. -/
theorem Underway.successor_of_met (underway : Underway graph traversal (node :: stack))
    (closed : graph.Closed) {next : ProjectId} (edge : graph.Leads node next) :
    next ∈ traversal.finished ∨ next ∈ traversal.unseen ∨
      Relation.TransGen graph.Leads next node := by
  by_cases finished : next ∈ traversal.finished
  · exact Or.inl finished
  by_cases unseen : next ∈ traversal.unseen
  · exact Or.inr (Or.inl unseen)
  have next_open : traversal.IsOpen next := ⟨unseen, finished⟩
  have next_mem := underway.open_mem next (closed node next edge).2 next_open
  obtain ⟨above, below, split, first⟩ := List.eq_append_cons_of_mem next_mem
  refine Or.inr (Or.inr ?_)
  cases above with
  | nil =>
    obtain ⟨rfl, _⟩ := List.cons_eq_cons.mp split
    exact .single edge
  | cons top rest =>
    obtain ⟨rfl, _⟩ := List.cons_eq_cons.mp split
    exact underway.leads_to_upper _ _ _ split next_open first node List.mem_cons_self

/-- A node met for the first time stays, below its unseen successors. -/
theorem Underway.push (underway : Underway graph traversal (node :: stack))
    (closed : graph.Closed) (node_mem : node ∈ traversal.unseen)
    (no_loop : ¬ graph.Leads node node) :
    Underway graph { traversal with unseen := traversal.unseen.erase node }
      (((graph.successors node).filter fun next => next ∈ traversal.unseen.erase node).reverse ++
        node :: stack) := by
  set unseen := traversal.unseen.erase node with unseen_def
  set pushed := (graph.successors node).filter fun next => next ∈ unseen with pushed_def
  have mem_unseen {other : ProjectId} : other ∈ unseen ↔ other ≠ node ∧ other ∈ traversal.unseen :=
    underway.unseen_nodup.mem_erase_iff
  have mem_pushed {other : ProjectId} :
      other ∈ pushed.reverse ↔ graph.Leads node other ∧ other ∈ unseen := by
    simp [pushed_def, mem_successors]
  have node_ready : ∀ next, graph.Leads node next → next ∈ traversal.finished ∨
      next ∈ pushed.reverse ∨ Relation.TransGen graph.Leads next node := by
    intro next edge
    rcases underway.successor_of_met closed edge with finished | next_unseen | back
    · exact Or.inl finished
    · have differs : next ≠ node := by
        rintro rfl
        exact no_loop edge
      exact Or.inr (Or.inl (mem_pushed.mpr ⟨edge, mem_unseen.mpr ⟨differs, next_unseen⟩⟩))
    · exact Or.inr (Or.inr back)
  have open_before {other : ProjectId} (differs : other ≠ node)
      (other_open : IsOpen { traversal with unseen } other) : traversal.IsOpen other :=
    ⟨fun found => other_open.1 (mem_unseen.mpr ⟨differs, found⟩), other_open.2⟩
  have not_pushed {other : ProjectId} (other_open : IsOpen { traversal with unseen } other) :
      other ∉ pushed.reverse := fun found => other_open.1 (mem_pushed.mp found).2
  refine
    { unseen_nodup := underway.unseen_nodup.erase node
      finished_nodup := underway.finished_nodup
      finished_seen := fun other finished found =>
        underway.finished_seen other finished (mem_unseen.mp found).2
      finished_nodes := underway.finished_nodes
      stack_nodes := ?_
      loop_free := ?_
      ordered := underway.ordered
      open_mem := ?_
      waits_for_upper := ?_
      leads_to_upper := ?_ }
  · intro other other_mem
    rcases List.mem_append.mp other_mem with found | found
    · exact (closed node other (mem_pushed.mp found).1).2
    · exact underway.stack_nodes other found
  · intro other other_node seen
    by_cases same : other = node
    · exact same ▸ no_loop
    · exact underway.loop_free other other_node fun found => seen (mem_unseen.mpr ⟨same, found⟩)
  · intro other other_node other_open
    apply List.mem_append_right
    by_cases same : other = node
    · exact same ▸ List.mem_cons_self
    · exact underway.open_mem other other_node (open_before same other_open)
  · intro above other below split other_open next edge
    obtain ⟨rest, rfl, lower⟩ := split_behind split (not_pushed other_open)
    by_cases same : other = node
    · subst same
      exact (node_ready next edge).imp_right (Or.imp_left (List.mem_append_left _))
    · exact (underway.waits_for_upper rest other below lower (open_before same other_open) next
        edge).imp_right (Or.imp_left (List.mem_append_right _))
  · intro above other below split other_open first upper upper_mem
    obtain ⟨rest, rfl, lower⟩ := split_behind split (not_pushed other_open)
    rw [List.mem_append, not_or] at first
    cases rest with
    | nil =>
      obtain ⟨rfl, _⟩ := List.cons_eq_cons.mp lower
      rw [List.append_nil] at upper_mem
      exact .single (mem_pushed.mp upper_mem).1
    | cons top rest =>
      obtain ⟨rfl, _⟩ := List.cons_eq_cons.mp lower
      have differs : other ≠ node := by
        rintro rfl
        exact first.2 List.mem_cons_self
      have chain := underway.leads_to_upper _ other below lower (open_before differs other_open)
        first.2
      rcases List.mem_append.mp upper_mem with found | found
      · exact (chain node List.mem_cons_self).tail (mem_pushed.mp found).1
      · exact chain upper found

/-- An open node on top is ready to be finished. -/
theorem Underway.finish (underway : Underway graph traversal (node :: stack))
    (seen : node ∉ traversal.unseen) (unfinished : node ∉ traversal.finished) :
    Underway graph { traversal with finished := traversal.finished ++ [node] } stack := by
  have node_open : traversal.IsOpen node := ⟨seen, unfinished⟩
  have node_mem := underway.stack_nodes node List.mem_cons_self
  have ready : ∀ next, graph.Leads node next →
      next ∈ traversal.finished ∨ Relation.TransGen graph.Leads next node := by
    intro next edge
    simpa using underway.waits_for_upper [] node stack rfl node_open next edge
  have open_before {other : ProjectId}
      (other_open : IsOpen { traversal with finished := traversal.finished ++ [node] } other) :
      traversal.IsOpen other ∧ other ≠ node := by
    simpa [IsOpen, and_assoc] using other_open
  refine
    { unseen_nodup := underway.unseen_nodup
      finished_nodup := ?_
      finished_seen := ?_
      finished_nodes := ?_
      stack_nodes := fun other found => underway.stack_nodes other (List.mem_cons_of_mem _ found)
      loop_free := underway.loop_free
      ordered := underway.ordered.snoc ready
      open_mem := ?_
      waits_for_upper := ?_
      leads_to_upper := ?_ }
  · rw [List.nodup_append]
    refine ⟨underway.finished_nodup, by simp, ?_⟩
    intro old old_mem added added_mem same
    rw [List.mem_singleton] at added_mem
    exact unfinished (added_mem ▸ same ▸ old_mem)
  · intro other other_mem
    rcases List.mem_append.mp other_mem with old | added
    · exact underway.finished_seen other old
    · exact List.mem_singleton.mp added ▸ seen
  · intro other other_mem
    rcases List.mem_append.mp other_mem with old | added
    · exact underway.finished_nodes other old
    · exact List.mem_singleton.mp added ▸ node_mem
  · intro other other_node other_open
    obtain ⟨was_open, differs⟩ := open_before other_open
    exact (List.mem_cons.mp (underway.open_mem other other_node was_open)).resolve_left differs
  · intro above other below split other_open next edge
    rcases underway.waits_for_upper (node :: above) other below (by rw [split]; rfl)
      (open_before other_open).1 next edge with finished | found | back
    · exact Or.inl (List.mem_append_left _ finished)
    · rcases List.mem_cons.mp found with rfl | found
      · exact Or.inl (by simp)
      · exact Or.inr (Or.inl found)
    · exact Or.inr (Or.inr back)
  · intro above other below split other_open first upper upper_mem
    obtain ⟨was_open, differs⟩ := open_before other_open
    exact underway.leads_to_upper (node :: above) other below (by rw [split]; rfl) was_open
      (by simp [differs, first]) upper (List.mem_cons_of_mem _ upper_mem)

/-- A node on top that is finished already is passed over. -/
theorem Underway.skip (underway : Underway graph traversal (node :: stack))
    (finished : node ∈ traversal.finished) : Underway graph traversal stack := by
  have open_ne {other : ProjectId} (other_open : traversal.IsOpen other) : other ≠ node := by
    rintro rfl
    exact other_open.2 finished
  refine
    { underway with
      stack_nodes := fun other found => underway.stack_nodes other (List.mem_cons_of_mem _ found)
      open_mem := ?_
      waits_for_upper := ?_
      leads_to_upper := ?_ }
  · intro other other_node other_open
    exact (List.mem_cons.mp (underway.open_mem other other_node other_open)).resolve_left
      (open_ne other_open)
  · intro above other below split other_open next edge
    rcases underway.waits_for_upper (node :: above) other below (by rw [split]; rfl) other_open
      next edge with next_finished | found | back
    · exact Or.inl next_finished
    · rcases List.mem_cons.mp found with rfl | found
      · exact Or.inl finished
      · exact Or.inr (Or.inl found)
    · exact Or.inr (Or.inr back)
  · intro above other below split other_open first upper upper_mem
    exact underway.leads_to_upper (node :: above) other below (by rw [split]; rfl) other_open
      (by simp [open_ne other_open, first]) upper (List.mem_cons_of_mem _ upper_mem)

/-- What going on with some nodes comes to: nothing is left under way, and each of these nodes was
met; or else a node has an edge to itself. -/
def Exhausted (graph : DependencyGraph) (traversal : Traversal) (nodes : List ProjectId) :
    Except Fault Traversal → Prop
  | .ok final => Underway graph final [] ∧
      ∀ other ∈ final.unseen, other ∈ traversal.unseen ∧ other ∉ nodes
  | .error fault => ∃ loop, fault = .cycleDetected loop loop ∧ graph.Leads loop loop

theorem Exhausted.weaken {later : Traversal} {nodes others : List ProjectId}
    {result : Except Fault Traversal} (exhausted : Exhausted graph later others result)
    (left : ∀ other ∈ later.unseen, other ∉ others → other ∈ traversal.unseen ∧ other ∉ nodes) :
    Exhausted graph traversal nodes result := by
  cases result with
  | ok final =>
    refine ⟨exhausted.1, fun other other_mem => ?_⟩
    obtain ⟨unseen, absent⟩ := exhausted.2 other other_mem
    exact left other unseen absent
  | error fault => exact exhausted

/-- Working off the stack finishes all that stands on it, or meets a node with an edge to
itself. -/
theorem exhausted_exhaust (closed : graph.Closed) (underway : Underway graph traversal stack) :
    Exhausted graph traversal stack (traversal.exhaust graph stack) := by
  fun_induction exhaust graph traversal stack with
  | case1 traversal => exact ⟨underway, by simp⟩
  | case2 traversal node stack node_mem loop => exact ⟨node, rfl, mem_successors.mp loop⟩
  | case3 traversal node stack node_mem loop_free unseen pushed ih =>
    have no_loop : ¬ graph.Leads node node := fun loop => loop_free (mem_successors.mpr loop)
    refine (ih (underway.push closed node_mem no_loop)).weaken fun other unseen absent => ?_
    exact ⟨List.mem_of_mem_erase unseen, fun found => absent (List.mem_append_right _ found)⟩
  | case4 traversal node stack seen finished ih =>
    refine (ih (underway.skip finished)).weaken fun other unseen absent => ⟨unseen, ?_⟩
    rw [List.mem_cons, not_or]
    exact ⟨fun same => seen (same ▸ unseen), absent⟩
  | case5 traversal node stack seen unfinished ih =>
    refine (ih (underway.finish seen unfinished)).weaken fun other unseen absent => ⟨unseen, ?_⟩
    rw [List.mem_cons, not_or]
    exact ⟨fun same => seen (same ▸ unseen), absent⟩

/-- Nothing is open before a start, so the start alone may be put on the stack. -/
theorem Underway.start (underway : Underway graph traversal [])
    (node_mem : node ∈ graph.nodes) (node_unseen : node ∈ traversal.unseen) :
    Underway graph traversal [node] := by
  have none_open {other : ProjectId} (other_node : other ∈ graph.nodes)
      (other_open : traversal.IsOpen other) : False := by
    cases underway.open_mem other other_node other_open
  have open_ne {above below : List ProjectId} {other : ProjectId}
      (split : [node] = above ++ other :: below) (other_open : traversal.IsOpen other) : False := by
    have other_mem : other ∈ [node] := split ▸ by simp
    rw [List.mem_singleton] at other_mem
    exact other_open.1 (other_mem ▸ node_unseen)
  exact
    { underway with
      stack_nodes := fun other found => List.mem_singleton.mp found ▸ node_mem
      open_mem := fun other other_node other_open => (none_open other_node other_open).elim
      waits_for_upper := fun _ _ _ split other_open => (open_ne split other_open).elim
      leads_to_upper := fun _ _ _ split other_open => (open_ne split other_open).elim }

end Traversal

open Traversal

variable {graph : DependencyGraph}

/-- Starting at several nodes finishes all of them, or meets a node with an edge to itself. -/
theorem exhausted_traverse (closed : graph.Closed) {traversal : Traversal}
    (starts : List ProjectId) (starts_nodes : ∀ start ∈ starts, start ∈ graph.nodes)
    (underway : Underway graph traversal []) :
    Exhausted graph traversal starts (graph.traverse traversal starts) := by
  induction starts generalizing traversal with
  | nil => exact ⟨underway, by simp⟩
  | cons start rest ih =>
    have start_node := starts_nodes start List.mem_cons_self
    have rest_nodes : ∀ other ∈ rest, other ∈ graph.nodes := fun other found =>
      starts_nodes other (List.mem_cons_of_mem start found)
    rw [traverse]
    by_cases start_unseen : start ∈ traversal.unseen
    · have exhausted := exhausted_exhaust closed (underway.start start_node start_unseen)
      rw [if_pos start_unseen]
      cases reached_eq : traversal.exhaust graph [start] with
      | error fault =>
        rw [reached_eq] at exhausted
        exact exhausted
      | ok reached =>
        rw [reached_eq] at exhausted
        refine (ih rest_nodes exhausted.1).weaken fun other reached_unseen absent => ?_
        obtain ⟨unseen, differs⟩ := exhausted.2 other reached_unseen
        rw [List.mem_singleton] at differs
        rw [List.mem_cons, not_or]
        exact ⟨unseen, differs, absent⟩
    · rw [if_neg start_unseen]
      refine (ih rest_nodes underway).weaken fun other unseen absent => ⟨unseen, ?_⟩
      rw [List.mem_cons, not_or]
      exact ⟨fun same => start_unseen (same ▸ unseen), absent⟩

/-- An edge leads to a node of a list from one that stands neither in front of it nor among those
that were checked before. -/
def Early (graph : DependencyGraph) (checked rest : List ProjectId)
    (source node : ProjectId) : Prop :=
  ∃ front back, rest = front ++ node :: back ∧ graph.Leads source node ∧ source ≠ node ∧
    source ∉ front ∧ source ∉ checked

/-- The check reports the source of an early edge, if there is any. -/
theorem checkFinished_cases (graph : DependencyGraph) (checked rest : List ProjectId) :
    (graph.checkFinished checked rest = .ok () ∧
      ∀ source node, ¬ graph.Early checked rest source node) ∨
    ∃ source node, graph.checkFinished checked rest = .error (.cycleDetected source source) ∧
      graph.Early checked rest source node := by
  induction rest generalizing checked with
  | nil =>
    refine Or.inl ⟨rfl, ?_⟩
    rintro source node ⟨front, back, split, -⟩
    cases front <;> cases split
  | cons head rest ih =>
    have mem_early {source : ProjectId} :
        source ∈ (graph.predecessors head).filter (fun source =>
          source ∉ checked ∧ source ≠ head) ↔
        graph.Leads source head ∧ source ∉ checked ∧ source ≠ head := by
      simp [mem_predecessors]
    rw [checkFinished]
    cases last : ((graph.predecessors head).filter fun source =>
        source ∉ checked ∧ source ≠ head).getLast? with
    | some source =>
      obtain ⟨edge, unchecked, differs⟩ := mem_early.mp (List.mem_of_getLast? last)
      exact Or.inr ⟨source, head, rfl, [], rest, rfl, edge, differs, List.not_mem_nil, unchecked⟩
    | none =>
      have none_early := List.getLast?_eq_none_iff.mp last
      refine (ih (head :: checked)).imp ?_ ?_
      · rintro ⟨passed, none_later⟩
        refine ⟨passed, ?_⟩
        rintro source node ⟨front, back, split, edge, differs, behind, unchecked⟩
        cases front with
        | nil =>
          obtain ⟨rfl, _⟩ := List.cons_eq_cons.mp split
          exact List.not_mem_nil (none_early ▸ mem_early.mpr ⟨edge, unchecked, differs⟩)
        | cons top front =>
          obtain ⟨rfl, rest_eq⟩ := List.cons_eq_cons.mp split
          rw [List.mem_cons, not_or] at behind
          exact none_later source node ⟨front, back, rest_eq, edge, differs, behind.2,
            by simp [behind.1, unchecked]⟩
      · rintro ⟨source, node, failed, front, back, split, edge, differs, behind, unchecked⟩
        rw [List.mem_cons, not_or] at unchecked
        exact ⟨source, node, failed, head :: front, back, by rw [split]; rfl, edge, differs,
          by simp [behind, unchecked.1], unchecked.2⟩

theorem Ordered.idxOf_lt {order : List ProjectId} {source target : ProjectId}
    (ordered : graph.Ordered order) (distinct : order.Nodup) (source_mem : source ∈ order)
    (edge : graph.Leads source target) : order.idxOf target < order.idxOf source := by
  obtain ⟨front, back, split⟩ := List.append_of_mem source_mem
  have target_front := ordered front source back split target edge
  have source_not_front : source ∉ front := by
    intro source_front
    rw [split, List.nodup_append] at distinct
    exact distinct.2.2 source source_front source List.mem_cons_self rfl
  rw [split, List.idxOf_append_of_mem target_front, List.idxOf_append_of_notMem source_not_front]
  exact Nat.lt_of_lt_of_le (List.idxOf_lt_length_of_mem target_front) (Nat.le_add_right _ _)

/-- A graph with an order in which each node stands behind its successors has no cycle. -/
theorem Ordered.acyclic {order : List ProjectId} (ordered : graph.Ordered order)
    (closed : graph.Closed) (distinct : order.Nodup)
    (complete : ∀ node ∈ graph.nodes, node ∈ order) : graph.Acyclic := by
  have descends {source target : ProjectId} (chain : Relation.TransGen graph.Leads source target) :
      order.idxOf target < order.idxOf source := by
    have along_edge {source target : ProjectId} (edge : graph.Leads source target) :
        order.idxOf target < order.idxOf source :=
      ordered.idxOf_lt distinct (complete source (closed source target edge).1) edge
    induction chain with
    | single edge => exact along_edge edge
    | tail _ edge ih => exact Nat.lt_trans (along_edge edge) ih
  exact fun node cycle => Nat.lt_irrefl _ (descends cycle)

namespace Traversal

variable {traversal : Traversal}

/-- If no edge of a finished traversal is early, each node was finished behind its successors. -/
theorem Underway.ordered_of_none_early (settled : Underway graph traversal [])
    (closed : graph.Closed) (complete : ∀ node ∈ graph.nodes, node ∈ traversal.finished)
    (none_early : ∀ source node, ¬ graph.Early [] traversal.finished.reverse source node) :
    graph.Ordered traversal.finished := by
  intro front node back split next edge
  have next_mem := complete next (closed node next edge).2
  have node_mem := (closed node next edge).1
  have distinct := settled.finished_nodup
  have no_loop := settled.loop_free node node_mem (settled.finished_seen node (by rw [split]; simp))
  rw [split, List.mem_append, List.mem_cons] at next_mem
  rcases next_mem with found | rfl | found
  · exact found
  · exact absurd edge no_loop
  · obtain ⟨between, behind, back_eq⟩ := List.append_of_mem found
    have differs : node ≠ next := by
      rintro rfl
      exact no_loop edge
    refine absurd ⟨behind.reverse, (front ++ node :: between).reverse, ?_, edge, differs, ?_,
      List.not_mem_nil⟩ (none_early node next)
    · rw [split, back_eq]
      simp
    · intro node_behind
      rw [split, List.nodup_append, List.nodup_cons, back_eq] at distinct
      exact distinct.2.1.1 (by simp [List.mem_reverse.mp node_behind])

/-- An early edge of a finished traversal lies on a cycle. -/
theorem Underway.cycle_of_early (settled : Underway graph traversal [])
    (closed : graph.Closed) (complete : ∀ node ∈ graph.nodes, node ∈ traversal.finished)
    {source node : ProjectId} (early : graph.Early [] traversal.finished.reverse source node) :
    Relation.TransGen graph.Leads source source := by
  obtain ⟨front, back, split, edge, differs, behind, -⟩ := early
  have finished_eq : traversal.finished = back.reverse ++ node :: front.reverse := by
    rw [← List.reverse_reverse traversal.finished, split]
    simp
  have source_mem := complete source (closed source node edge).1
  have source_first : source ∈ back.reverse := by
    simpa [finished_eq, differs, behind] using source_mem
  obtain ⟨first, between, back_eq⟩ := List.append_of_mem source_first
  rcases settled.ordered first source (between ++ node :: front.reverse)
    (by rw [finished_eq, back_eq]; simp) node edge with found | back
  · have distinct := settled.finished_nodup
    rw [finished_eq, List.nodup_append] at distinct
    exact absurd rfl (distinct.2.2 node (by rw [back_eq]; simp [found]) node List.mem_cons_self)
  · exact back.head edge

end Traversal

/-- A graph has a build order, with every node once and behind all that edges lead to from it, or
else a node on a cycle is reported. -/
theorem buildOrder_cases (closed : graph.Closed) :
    (∃ order, graph.buildOrder = .ok order ∧ order.Nodup ∧
      (∀ node, node ∈ order ↔ node ∈ graph.nodes) ∧ graph.Ordered order) ∨
    ∃ node, graph.buildOrder = .error (.cycleDetected node node) ∧
      Relation.TransGen graph.Leads node node := by
  have initial : Underway graph { unseen := graph.nodes.elements } [] :=
    { unseen_nodup := graph.nodes.nodup
      finished_nodup := List.nodup_nil
      finished_seen := by simp
      finished_nodes := by simp
      stack_nodes := by simp
      loop_free := fun node node_mem seen => absurd node_mem seen
      ordered := by simp [OrderedButForCycles]
      open_mem := fun node node_mem node_open => absurd node_mem node_open.1
      waits_for_upper := by simp
      leads_to_upper := by simp }
  have exhausted := exhausted_traverse closed graph.nodes.elements (fun _ found => found) initial
  rw [buildOrder]
  cases traversed : graph.traverse { unseen := graph.nodes.elements } graph.nodes.elements with
  | error fault =>
    rw [traversed] at exhausted
    obtain ⟨loop, rfl, edge⟩ := exhausted
    exact Or.inr ⟨loop, rfl, .single edge⟩
  | ok final =>
    rw [traversed] at exhausted
    obtain ⟨settled, left⟩ := exhausted
    have complete : ∀ node ∈ graph.nodes, node ∈ final.finished := by
      intro node node_mem
      by_contra unfinished
      have seen : node ∉ final.unseen := fun found => (left node found).2 node_mem
      cases settled.open_mem node node_mem ⟨seen, unfinished⟩
    simp only [bind, Except.bind]
    refine (checkFinished_cases graph [] final.finished.reverse).imp ?_ ?_
    · rintro ⟨passed, none_early⟩
      exact ⟨final.finished, by rw [passed]; rfl, settled.finished_nodup,
        fun node => ⟨settled.finished_nodes node, complete node⟩,
        settled.ordered_of_none_early closed complete none_early⟩
    · rintro ⟨source, node, failed, early⟩
      exact ⟨source, by rw [failed], settled.cycle_of_early closed complete early⟩

/-- An acyclic graph has a build order: every node once, behind all that edges lead to from it. -/
theorem buildOrder_ok (acyclic : graph.Acyclic) (closed : graph.Closed) :
    ∃ order, graph.buildOrder = .ok order ∧ order.Nodup ∧
      (∀ node, node ∈ order ↔ node ∈ graph.nodes) ∧ graph.Ordered order := by
  rcases buildOrder_cases closed with ordered | ⟨node, -, cycle⟩
  · exact ordered
  · exact absurd cycle (acyclic node)

end DependencyGraph

end CodeWorkspace
