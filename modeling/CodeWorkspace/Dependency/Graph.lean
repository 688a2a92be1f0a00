import CodeWorkspace.Container.OrderedSet
import CodeWorkspace.Snapshot.Basic

/-!
# The dependency graph

Its nodes are the projects of a snapshot and whatever they refer to; an edge leads from a project
to each project that it refers to.  Nodes and edges are listed in the order in which they are met
when the projects are read one after another.
-/

namespace CodeWorkspace

/-- Which project refers to which. -/
structure DependencyGraph where
  nodes : OrderedSet ProjectId := .empty
  /-- Pairs of a project and one that it refers to. -/
  edges : OrderedSet (ProjectId × ProjectId) := .empty

namespace DependencyGraph

/-- Adds a node. -/
def addNode (graph : DependencyGraph) (node : ProjectId) : DependencyGraph :=
  { graph with nodes := graph.nodes.insert node }

/-- Adds an edge with its ends. -/
def addEdge (graph : DependencyGraph) (source target : ProjectId) : DependencyGraph :=
  { nodes := (graph.nodes.insert source).insert target
    edges := graph.edges.insert (source, target) }

/-- Adds a project and its references. -/
def addProject (graph : DependencyGraph) (project : Project) : DependencyGraph :=
  project.projectReferences.foldl
    (fun reached reference => reached.addEdge project.id reference.target)
    (graph.addNode project.id)

/-- The graph of some projects. -/
def ofProjects (projects : List Project) : DependencyGraph :=
  projects.foldl addProject {}

/-- The graph of a snapshot. -/
def ofSnapshot (snapshot : Snapshot) : DependencyGraph := ofProjects snapshot.projects

/-- The nodes that edges lead to from a node. -/
def successors (graph : DependencyGraph) (node : ProjectId) : List ProjectId :=
  (graph.edges.elements.filter fun edge => edge.1 = node).map Prod.snd

/-- The nodes from which edges lead to a node. -/
def predecessors (graph : DependencyGraph) (node : ProjectId) : List ProjectId :=
  (graph.edges.elements.filter fun edge => edge.2 = node).map Prod.fst

/-- The projects that a project refers to, by identity. -/
def dependencies (graph : DependencyGraph) (id : ProjectId) : List ProjectId :=
  ProjectId.sorted (graph.successors id)

/-- The projects that refer to a project, by identity. -/
def dependents (graph : DependencyGraph) (id : ProjectId) : List ProjectId :=
  ProjectId.sorted (graph.predecessors id)

end DependencyGraph

end CodeWorkspace
