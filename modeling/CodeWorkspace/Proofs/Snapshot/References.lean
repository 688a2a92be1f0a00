import CodeWorkspace.Proofs.Dependency.BuildOrder
import CodeWorkspace.Proofs.Snapshot.Replacing

/-!
# References between the projects of a snapshot

`Snapshot.Refers` says that a project of a snapshot has a reference to another one, which may be
missing.  When every project stands under its own identity, these are the edges of the dependency
graph, and the check for cycles answers whether a chain of references leads back.
-/

namespace CodeWorkspace

namespace DependencyGraph

theorem leads_addProject {graph : DependencyGraph} {project : Project} {source target : ProjectId} :
    (graph.addProject project).Leads source target ↔
      graph.Leads source target ∨ source = project.id ∧ project.refersTo target = true := by
  have along (references : List ProjectReference) (reached : DependencyGraph) :
      (references.foldl (fun reached reference => reached.addEdge project.id reference.target)
        reached).Leads source target ↔
          reached.Leads source target ∨
            source = project.id ∧ ∃ reference ∈ references, reference.target = target := by
    induction references generalizing reached with
    | nil => simp
    | cons reference rest ih =>
      rw [List.foldl_cons, ih]
      simp only [Leads, addEdge, OrderedSet.mem_insert, Prod.mk.injEq, List.exists_mem_cons_iff,
        or_assoc, and_or_left, eq_comm (a := target)]
  rw [addProject, along, Project.refersTo, List.any_eq_true]
  simp [Leads, addNode]

theorem mem_nodes_addProject {graph : DependencyGraph} {project : Project} {node : ProjectId} :
    node ∈ (graph.addProject project).nodes ↔
      node ∈ graph.nodes ∨ node = project.id ∨ project.refersTo node = true := by
  have along (references : List ProjectReference) (reached : DependencyGraph)
      (known : project.id ∈ reached.nodes) :
      node ∈ (references.foldl (fun reached reference =>
        reached.addEdge project.id reference.target) reached).nodes ↔
          node ∈ reached.nodes ∨ ∃ reference ∈ references, reference.target = node := by
    induction references generalizing reached with
    | nil => simp
    | cons reference rest ih =>
      rw [List.foldl_cons, ih _ (by simp [addEdge])]
      simp only [addEdge, OrderedSet.insert_of_mem known, OrderedSet.mem_insert,
        List.exists_mem_cons_iff, or_assoc, eq_comm (a := node)]
  rw [addProject, along _ _ (by simp [addNode]), Project.refersTo, List.any_eq_true]
  simp [addNode, or_assoc]

theorem leads_ofProjects {projects : List Project} {source target : ProjectId} :
    (ofProjects projects).Leads source target ↔
      ∃ project ∈ projects, source = project.id ∧ project.refersTo target = true := by
  have along (graph : DependencyGraph) :
      (projects.foldl addProject graph).Leads source target ↔ graph.Leads source target ∨
        ∃ project ∈ projects, source = project.id ∧ project.refersTo target = true := by
    induction projects generalizing graph with
    | nil => simp
    | cons project rest ih => rw [List.foldl_cons, ih, leads_addProject, or_assoc,
        List.exists_mem_cons_iff]
  rw [ofProjects, along]
  simp [Leads]

theorem mem_nodes_ofProjects {projects : List Project} {node : ProjectId} :
    node ∈ (ofProjects projects).nodes ↔
      ∃ project ∈ projects, node = project.id ∨ project.refersTo node = true := by
  have along (graph : DependencyGraph) :
      node ∈ (projects.foldl addProject graph).nodes ↔ node ∈ graph.nodes ∨
        ∃ project ∈ projects, node = project.id ∨ project.refersTo node = true := by
    induction projects generalizing graph with
    | nil => simp
    | cons project rest ih => rw [List.foldl_cons, ih, mem_nodes_addProject, or_assoc,
        List.exists_mem_cons_iff]
  rw [ofProjects, along]
  simp

theorem closed_ofProjects (projects : List Project) : (ofProjects projects).Closed := by
  intro source target edge
  obtain ⟨project, project_mem, rfl, refers⟩ := leads_ofProjects.mp edge
  exact ⟨mem_nodes_ofProjects.mpr ⟨project, project_mem, Or.inl rfl⟩,
    mem_nodes_ofProjects.mpr ⟨project, project_mem, Or.inr refers⟩⟩

theorem closed_ofSnapshot (snapshot : Snapshot) : (ofSnapshot snapshot).Closed :=
  closed_ofProjects snapshot.projects

end DependencyGraph

namespace Snapshot

variable {snapshot : Snapshot} {source target id : ProjectId}

/-- A project of the snapshot has a reference to another project. -/
def Refers (snapshot : Snapshot) (source target : ProjectId) : Prop :=
  ∃ project, snapshot.project? source = some project ∧ project.refersTo target = true

/-- A reference from one project to another would close a cycle. -/
def Closes (snapshot : Snapshot) (source target : ProjectId) : Prop :=
  source = target ∨ Relation.TransGen snapshot.Refers target source

/-- No chain of references leads from a project back to it. -/
def Acyclic (snapshot : Snapshot) : Prop :=
  ∀ id, ¬ Relation.TransGen snapshot.Refers id id

/-- A chain that leads to a project may be cut where it first meets the project, so it only uses
references of others. -/
theorem chain_of_others {first second : ProjectId → ProjectId → Prop} {last : ProjectId}
    (others : ∀ source target, source ≠ last → first source target → second source target)
    {start : ProjectId} (chain : Relation.ReflTransGen first start last) :
    Relation.ReflTransGen second start last := by
  induction chain using Relation.ReflTransGen.head_induction_on with
  | refl => exact .refl
  | @head source _ edge _ ih =>
    by_cases here : source = last
    · exact here ▸ .refl
    · exact .head (others source _ here edge) ih

/-- Every project stands under its own identity. -/
def Keyed (snapshot : Snapshot) : Prop :=
  ∀ id project, snapshot.project? id = some project → project.id = id

theorem leads_ofSnapshot (keyed : snapshot.Keyed) :
    (DependencyGraph.ofSnapshot snapshot).Leads source target ↔ snapshot.Refers source target := by
  simp only [DependencyGraph.ofSnapshot, DependencyGraph.leads_ofProjects, mem_projects_iff]
  constructor
  · rintro ⟨project, ⟨id, found⟩, rfl, refers⟩
    exact ⟨project, keyed id project found ▸ found, refers⟩
  · rintro ⟨project, found, refers⟩
    exact ⟨project, ⟨source, found⟩, (keyed source project found).symm, refers⟩

theorem mem_nodes_ofSnapshot (keyed : snapshot.Keyed) :
    id ∈ (DependencyGraph.ofSnapshot snapshot).nodes ↔
      snapshot.contains id = true ∨ ∃ source, snapshot.Refers source id := by
  simp only [DependencyGraph.ofSnapshot, DependencyGraph.mem_nodes_ofProjects, mem_projects_iff,
    contains_iff]
  constructor
  · rintro ⟨project, ⟨key, found⟩, rfl | refers⟩
    · exact Or.inl ⟨project, keyed key project found ▸ found⟩
    · exact Or.inr ⟨key, project, found, refers⟩
  · rintro (⟨project, found⟩ | ⟨source, project, found, refers⟩)
    · exact ⟨project, ⟨id, found⟩, Or.inl (keyed id project found).symm⟩
    · exact ⟨project, ⟨source, found⟩, Or.inr refers⟩

theorem leads_ofSnapshot_eq (keyed : snapshot.Keyed) :
    (DependencyGraph.ofSnapshot snapshot).Leads = snapshot.Refers := by
  funext source target
  exact propext (leads_ofSnapshot keyed)

/-- The check for cycles finds out whether a chain of references leads back. -/
theorem wouldCreateCycle_ofSnapshot (keyed : snapshot.Keyed) :
    (DependencyGraph.ofSnapshot snapshot).wouldCreateCycle source target = true ↔
      snapshot.Closes source target := by
  rw [DependencyGraph.wouldCreateCycle_iff (DependencyGraph.closed_ofSnapshot _),
    leads_ofSnapshot_eq keyed, Closes]

/-- Without cycles there is a build order: every project and every project that is referred to
stands in it once, behind all that it refers to. -/
theorem buildOrder_ofSnapshot (keyed : snapshot.Keyed) (acyclic : snapshot.Acyclic) :
    ∃ order, (DependencyGraph.ofSnapshot snapshot).buildOrder = .ok order ∧ order.Nodup ∧
      (∀ id, id ∈ order ↔ snapshot.contains id = true ∨ ∃ source, snapshot.Refers source id) ∧
      ∀ source target, snapshot.Refers source target →
        order.idxOf target < order.idxOf source := by
  have graph_acyclic : (DependencyGraph.ofSnapshot snapshot).Acyclic := by
    intro id
    rw [leads_ofSnapshot_eq keyed]
    exact acyclic id
  obtain ⟨order, order_eq, distinct, complete, ordered⟩ :=
    DependencyGraph.buildOrder_ok graph_acyclic (DependencyGraph.closed_ofSnapshot _)
  refine ⟨order, order_eq, distinct,
    fun id => (complete id).trans (mem_nodes_ofSnapshot keyed), ?_⟩
  intro source target refers
  have edge := (leads_ofSnapshot keyed).mpr refers
  exact ordered.idxOf_lt distinct
    ((complete source).mpr (DependencyGraph.closed_ofSnapshot _ _ _ edge).1) edge

end Snapshot

end CodeWorkspace
