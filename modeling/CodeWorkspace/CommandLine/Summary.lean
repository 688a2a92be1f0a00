import CodeWorkspace.Digest.Content
import CodeWorkspace.Snapshot.Diff

/-!
# Summaries

What a snapshot holds, in numbers: how many transitions led to it, how many projects it has, and
how many documents and references each of them has.
-/

namespace CodeWorkspace

namespace CommandLine

open Json (Tree)

/-- What a project holds. -/
def projectSummary (project : Project) : Tree :=
  .record [("name", .text project.properties.name), ("id", project.id.tree),
    ("sources", .natural project.sources.size),
    ("additional", .natural project.additional.size),
    ("metadata_references", .natural project.metadataReferences.length),
    ("project_references", .natural project.projectReferences.length),
    ("analyzer_references", .natural project.analyzerReferences.length)]

/-- What a snapshot holds. -/
def summary (snapshot : Snapshot) (transitions : Nat) : Tree :=
  .record [("version", .natural snapshot.version.toNat), ("transitions", .natural transitions),
    ("projects_added", .natural (SnapshotDiff.between .empty snapshot).added.size),
    ("projects", .array (snapshot.projects.map projectSummary))]

end CommandLine

end CodeWorkspace
