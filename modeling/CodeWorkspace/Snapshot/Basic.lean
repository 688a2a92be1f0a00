import CodeWorkspace.Project

/-!
# Snapshots

A snapshot holds all projects of a workspace at one moment.  Each project that is written into it
gets a revision that no project in the same line of snapshots had before; a project that two
snapshots hold at the same revision was not touched between them.  The version is stamped from
outside and says nothing about the contents.
-/

namespace CodeWorkspace

/-- A project in a snapshot. -/
structure Revision where
  project : Project
  /-- The moment at which the project was last written. -/
  stamp : Nat
  deriving Inhabited

/-- All projects of a workspace at one moment. -/
structure Snapshot where
  version : UInt64
  /-- The first stamp that no project has. -/
  clock : Nat
  /-- The projects by identity, in the order in which they were added. -/
  revisions : OrderedMap ProjectId Revision
  /-- Every stamp lies in the past. -/
  stamp_lt : ∀ entry ∈ revisions.entries, entry.2.stamp < clock

namespace Snapshot

/-- The snapshot without projects, at version zero. -/
def empty : Snapshot where
  version := 0
  clock := 0
  revisions := .empty
  stamp_lt := by simp [OrderedMap.empty]

instance : Inhabited Snapshot := ⟨empty⟩

/-- The snapshot at another version. -/
def withVersion (snapshot : Snapshot) (version : UInt64) : Snapshot :=
  { snapshot with version := version }

/-! ## Reading -/

/-- The project with an identity. -/
def project? (snapshot : Snapshot) (id : ProjectId) : Option Project :=
  (snapshot.revisions.get? id).map Revision.project

/-- Whether there is a project with an identity. -/
def contains (snapshot : Snapshot) (id : ProjectId) : Bool := snapshot.revisions.contains id

/-- The identities of the projects, in the order in which they were added. -/
def ids (snapshot : Snapshot) : List ProjectId := snapshot.revisions.keys

/-- The projects in the order in which they were added. -/
def projects (snapshot : Snapshot) : List Project :=
  snapshot.revisions.values.map Revision.project

/-- The projects with the identities under which they are found. -/
def contents (snapshot : Snapshot) : List (ProjectId × Project) :=
  snapshot.revisions.entries.map fun entry => (entry.1, entry.2.project)

/-- The number of projects. -/
def size (snapshot : Snapshot) : Nat := snapshot.revisions.size

/-- Whether two snapshots of one line hold a project that was not written between them. -/
def sharesProject (first second : Snapshot) (id : ProjectId) : Bool :=
  match first.revisions.get? id, second.revisions.get? id with
  | some one, some other => one.stamp == other.stamp
  | _, _ => false

/-! ## Writing -/

/-- Puts a project in its place, or behind the others if it is new. -/
def write (snapshot : Snapshot) (id : ProjectId) (project : Project) : Snapshot where
  version := snapshot.version
  clock := snapshot.clock + 1
  revisions := snapshot.revisions.insert id { project, stamp := snapshot.clock }
  stamp_lt := by
    intro entry entry_mem
    rcases OrderedMap.mem_entries_insert entry_mem with rfl | old
    · exact Nat.lt_succ_self _
    · exact Nat.lt_succ_of_lt (snapshot.stamp_lt entry old)

/-- Takes a project out. -/
def erase (snapshot : Snapshot) (id : ProjectId) : Snapshot where
  version := snapshot.version
  clock := snapshot.clock
  revisions := snapshot.revisions.erase id
  stamp_lt := fun entry entry_mem =>
    snapshot.stamp_lt entry (OrderedMap.mem_entries_erase entry_mem)

/-- The snapshot that holds some projects at a version. -/
def ofContents (version : UInt64) (contents : List (ProjectId × Project)) : Snapshot :=
  contents.foldl (fun snapshot entry => snapshot.write entry.1 entry.2)
    (empty.withVersion version)

end Snapshot

end CodeWorkspace
