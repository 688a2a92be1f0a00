import CodeWorkspace.Dependency.Graph

/-!
# Paths in the dependency graph

`DependencyGraph.Reaches` says that a chain of edges, perhaps an empty one, leads from one node to
another.  `DependencyGraph.reachable` finds the nodes that a node reaches: it takes nodes from a
stack, passes over those it has seen, and puts the successors of the others on the stack.
-/

namespace CodeWorkspace

namespace DependencyGraph

/-- A chain of edges leads from one node to another. -/
inductive Reaches (graph : DependencyGraph) : ProjectId → ProjectId → Prop where
  | refl (node : ProjectId) : Reaches graph node node
  | step {source next target : ProjectId} (edge : (source, next) ∈ graph.edges)
      (rest : Reaches graph next target) : Reaches graph source target

/-- The nodes met from a stack of nodes, each once, as far as they were not seen before. -/
def search (graph : DependencyGraph) (unseen : List ProjectId) :
    List ProjectId → List ProjectId
  | [] => []
  | node :: stack =>
    if node ∈ unseen then
      node :: search graph (unseen.erase node) (graph.successors node ++ stack)
    else search graph unseen stack
termination_by stack => (unseen.length, stack.length)
decreasing_by
  · rename_i node_mem
    have shorter := List.length_erase_of_mem node_mem
    have positive := List.length_pos_of_mem node_mem
    apply Prod.Lex.left
    omega
  · exact Prod.Lex.right _ (by simp)

/-- The nodes that a node reaches, itself included. -/
def reachable (graph : DependencyGraph) (start : ProjectId) : List ProjectId :=
  graph.search graph.nodes.elements [start]

/-- Whether a path leads from one node of the graph to another. -/
def hasPath (graph : DependencyGraph) (source target : ProjectId) : Bool :=
  target ∈ graph.reachable source

/-- Whether an edge from one project to another would close a cycle. -/
def wouldCreateCycle (graph : DependencyGraph) (source target : ProjectId) : Bool :=
  source = target ||
    (source ∈ graph.nodes && target ∈ graph.nodes && graph.hasPath target source)

end DependencyGraph

end CodeWorkspace
