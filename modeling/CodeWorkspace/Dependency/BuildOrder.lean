import CodeWorkspace.Dependency.Graph

/-!
# Build order

An order of the projects in which each one comes after those it refers to.  A depth-first
traversal finishes a project when all that it reaches is finished; the order in which projects
finish is the build order, unless there is a cycle.  A check of the finished order then looks for
a project that refers to one before which it was finished.
-/

namespace CodeWorkspace

namespace DependencyGraph

/-- The traversal under way: nodes not met yet, nodes finished, and the nodes to look at. -/
structure Traversal where
  unseen : List ProjectId
  /-- The finished nodes, first to last. -/
  finished : List ProjectId := []

/-- Goes on until the stack is empty.  A node on top that was not met yet puts its successors on
the stack and stays; one that was met is finished. -/
def Traversal.exhaust (graph : DependencyGraph) (traversal : Traversal) :
    List ProjectId → Except Fault Traversal
  | [] => .ok traversal
  | node :: stack =>
    if node ∈ traversal.unseen then
      if node ∈ graph.successors node then .error (.cycleDetected node node)
      else
        let unseen := traversal.unseen.erase node
        let pushed := (graph.successors node).filter fun next => next ∈ unseen
        exhaust graph { traversal with unseen := unseen } (pushed.reverse ++ node :: stack)
    else if node ∈ traversal.finished then exhaust graph traversal stack
    else exhaust graph { traversal with finished := traversal.finished ++ [node] } stack
termination_by stack => (traversal.unseen.length, stack.length)
decreasing_by
  · rename_i node_mem _
    have shorter := List.length_erase_of_mem node_mem
    have positive := List.length_pos_of_mem node_mem
    apply Prod.Lex.left
    omega
  · exact Prod.Lex.right _ (by simp)
  · exact Prod.Lex.right _ (by simp)

/-- Starts the traversal at each node in turn. -/
def traverse (graph : DependencyGraph) (traversal : Traversal) :
    List ProjectId → Except Fault Traversal
  | [] => .ok traversal
  | start :: rest => do
    let reached ← if start ∈ traversal.unseen then traversal.exhaust graph [start]
      else .ok traversal
    traverse graph reached rest

/-- Looks, last finished node first, for a node that is referred to by one finished before it. -/
def checkFinished (graph : DependencyGraph) (checked : List ProjectId) :
    List ProjectId → Except Fault Unit
  | [] => .ok ()
  | node :: rest =>
    let early := (graph.predecessors node).filter fun source =>
      source ∉ checked ∧ source ≠ node
    match early.getLast? with
    | some source => .error (.cycleDetected source source)
    | none => checkFinished graph (node :: checked) rest

/-- The nodes in an order in which each comes after its successors. -/
def buildOrder (graph : DependencyGraph) : Except Fault (List ProjectId) := do
  let traversal ← graph.traverse { unseen := graph.nodes.elements } graph.nodes.elements
  graph.checkFinished [] traversal.finished.reverse
  return traversal.finished

end DependencyGraph

end CodeWorkspace
