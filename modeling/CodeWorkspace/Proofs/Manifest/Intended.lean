import CodeWorkspace.Proofs.Manifest.Load
import Mathlib.Data.List.Nodup
import Mathlib.Logic.Relation

/-!
# The intended graph of a manifest

The entries of a manifest say which projects are to refer to which: an entry names some of them, and
means others by the paths of their outputs.  A path means a project if that one alone publishes
there.  All this depends neither on the order of the entries nor on the identities that are drawn
for them, and once all projects have been created the index of outputs answers accordingly.
-/

namespace CodeWorkspace

/-! ## The index of outputs -/

theorem OutputIndex.owner?_eq_some_iff {index : OutputIndex} {path : String} {id : ProjectId} :
    index.owner? path = some id ↔ ∀ other, other ∈ index.ownersOf path ↔ other = id := by
  have distinct := (index.ownersOf path).nodup
  simp only [owner?, OrderedSet.mem_def]
  generalize (index.ownersOf path).elements = owners at distinct
  constructor
  · intro alone other
    split at alone <;> cases alone
    exact List.mem_singleton
  · intro only
    have known : id ∈ owners := (only id).mpr rfl
    have alone : owners = [id] := List.perm_singleton.mp
      ((List.perm_ext_iff_of_nodup distinct (List.nodup_singleton id)).mpr fun other =>
        (only other).trans List.mem_singleton.symm)
    rw [alone]

/-- How a metadata reference is represented if no cycle is in the way: as a reference to the only
project that publishes there, if it is another one. -/
def settle (index : OutputIndex) (owner : ProjectId) (reference : MetadataReference) :
    Representation :=
  let published := (index.owner? reference.path).filter fun target =>
    reference.properties.kind = .assembly && target ≠ owner
  (published.map fun target => .structural (.converted target reference.properties)).getD
    (.content reference)

theorem eq_of_settle_content {index : OutputIndex} {owner : ProjectId}
    {reference kept : MetadataReference} (content : settle index owner reference = .content kept) :
    reference = kept := by
  simp only [settle] at content
  generalize (index.owner? reference.path).filter _ = published at content
  cases published <;> cases content
  rfl

/-- A metadata reference is settled if the project that it means is there and closes no cycle. -/
theorem reconcile_eq_settle {index : OutputIndex} {owner : ProjectId}
    {reference : MetadataReference} {snapshot : Snapshot}
    (open_to : ∀ line, settle index owner reference = .structural line →
      snapshot.contains line.target = true ∧ snapshot.closes owner line.target = false) :
    reconcile owner reference index snapshot = settle index owner reference := by
  have target_eq : conversionTarget? owner reference index snapshot =
      (index.owner? reference.path).filter fun target =>
        reference.properties.kind = .assembly && target ≠ owner := by
    rw [settle] at open_to
    rw [conversionTarget?]
    cases published : index.owner? reference.path with
    | none => simp
    | some target =>
      rw [published] at open_to
      by_cases assembly : reference.properties.kind = .assembly
      · by_cases own : target = owner
        · simp [Option.filter, own]
        · simp only [Option.filter, assembly, own, decide_true, ne_eq, not_false_eq_true,
            Bool.and_true, if_true] at open_to ⊢
          obtain ⟨present, passed⟩ := open_to _ rfl
          simp only [Snapshot.closes, ProjectReference.converted] at present passed
          simp [present, passed]
      · simp [Option.filter, assembly]
  rw [reconcile, target_eq, settle]
  cases (index.owner? reference.path).filter fun target =>
    reference.properties.kind = .assembly && target ≠ owner with
  | none => rfl
  | some target => rfl

/-! ## What the entries intend -/

namespace ProjectManifest

/-- An entry publishes the output of its project at a path. -/
def Publishes (comparison : PathComparison) (entry : ProjectManifest) (path : String) : Prop :=
  ∃ output ∈ entry.outputPath?.toList ++ entry.outputReferencePath?.toList,
    comparison.key path = comparison.key output

end ProjectManifest

namespace Manifest

/-- The names of the projects. -/
def names (manifest : Manifest) : List String := manifest.projects.map ProjectManifest.name

/-- Exactly one project publishes at a path. -/
def PublishedBy (manifest : Manifest) (comparison : PathComparison) (path : String)
    (publisher : ProjectManifest) : Prop :=
  publisher ∈ manifest.projects ∧ publisher.Publishes comparison path ∧
    ∀ other ∈ manifest.projects, other.Publishes comparison path → other = publisher

/-- A metadata reference of an entry means another project: it is a reference to an assembly, and
that project alone publishes at its path. -/
def Means (manifest : Manifest) (comparison : PathComparison) (entry : ProjectManifest)
    (reference : ReferenceManifest) (publisher : ProjectManifest) : Prop :=
  reference.kind = .assembly ∧ manifest.PublishedBy comparison reference.path publisher ∧
    publisher ≠ entry

/-- A project is to refer to another one, because it names it or means it by a path. -/
def Intends (manifest : Manifest) (comparison : PathComparison) (source target : String) : Prop :=
  ∃ entry ∈ manifest.projects, entry.name = source ∧
    (target ∈ entry.projectReferences ∨
      ∃ reference ∈ entry.metadataReferences, ∃ publisher,
        manifest.Means comparison entry reference publisher ∧ publisher.name = target)

/-- No project is to refer to itself, be it by way of others. -/
def Acyclic (manifest : Manifest) (comparison : PathComparison) : Prop :=
  ∀ name, ¬ Relation.TransGen (manifest.Intends comparison) name name

variable {manifest other : Manifest} {comparison : PathComparison} {draws : Draws}
  {entry publisher : ProjectManifest} {reference : ReferenceManifest}

theorem mem_names (entry_mem : entry ∈ manifest.projects) : entry.name ∈ manifest.names :=
  List.mem_map_of_mem entry_mem

theorem Means.unique {another : ProjectManifest}
    (means : manifest.Means comparison entry reference publisher)
    (also : manifest.Means comparison entry reference another) : another = publisher :=
  means.2.1.2.2 another also.2.1.1 also.2.1.2.1

theorem means_of_perm (reordered : other.projects.Perm manifest.projects) :
    other.Means comparison entry reference publisher ↔
      manifest.Means comparison entry reference publisher := by
  simp only [Means, PublishedBy, reordered.mem_iff]

theorem acyclic_of_perm (reordered : other.projects.Perm manifest.projects)
    (acyclic : manifest.Acyclic comparison) : other.Acyclic comparison := by
  have intends_eq : other.Intends comparison = manifest.Intends comparison := by
    funext source target
    simp only [Intends, reordered.mem_iff, means_of_perm reordered]
  rwa [Acyclic, intends_eq]

/-- There are no cycles if every project stands higher than those that it is to refer to. -/
theorem acyclic_of_height {height : String → Nat} (falls : ∀ source target,
    manifest.Intends comparison source target → height target < height source) :
    manifest.Acyclic comparison := by
  have lower {source target : String}
      (chain : Relation.TransGen (manifest.Intends comparison) source target) :
      height target < height source := by
    induction chain with
    | single edge => exact falls _ _ edge
    | tail _ edge ih => exact Nat.lt_trans (falls _ _ edge) ih
  exact fun name cycle => Nat.lt_irrefl _ (lower cycle)

/-! ## Names and identities -/

/-- The identities drawn for a manifest are all different. -/
structure Fresh (manifest : Manifest) (draws : Draws) : Prop where
  projects : ((List.range manifest.projects.length).map draws.project).Nodup
  documents : (manifest.documentIds draws).Nodup

/-- The place at which a name stands. -/
def placeOf (manifest : Manifest) (name : String) : Nat := manifest.names.idxOf name

/-- The identity drawn for the project of a name. -/
def idOf (manifest : Manifest) (draws : Draws) (name : String) : ProjectId :=
  draws.project (manifest.placeOf name)

theorem placeOf_eq (distinct : manifest.names.Nodup) {place : Nat}
    (listed : manifest.projects[place]? = some entry) : manifest.placeOf entry.name = place := by
  obtain ⟨within, rfl⟩ := List.getElem?_eq_some_iff.mp listed
  have within_names : place < manifest.names.length := by rwa [names, List.length_map]
  have found := distinct.idxOf_getElem place within_names
  simp only [names, List.getElem_map] at found
  exact found

theorem idOf_injective (fresh : manifest.Fresh draws) {first second : String}
    (first_mem : first ∈ manifest.names) (second_mem : second ∈ manifest.names)
    (same : manifest.idOf draws first = manifest.idOf draws second) : first = second := by
  have within {name : String} (name_mem : name ∈ manifest.names) :
      manifest.placeOf name ∈ List.range manifest.projects.length := by
    have bound := List.idxOf_lt_length_of_mem name_mem
    rwa [names, List.length_map, ← names, ← List.mem_range] at bound
  have places_eq := List.inj_on_of_nodup_map fresh.projects (within first_mem)
    (within second_mem) same
  exact (List.idxOf_inj first_mem).mp places_eq

/-- What stands at each place stands there by its name. -/
theorem mapIdx_eq_map (distinct : manifest.names.Nodup) {α : Type}
    (form : Nat → ProjectManifest → α) :
    manifest.projects.mapIdx form =
      manifest.projects.map fun entry => form (manifest.placeOf entry.name) entry := by
  apply List.ext_getElem?
  intro place
  rw [List.getElem?_mapIdx, List.getElem?_map]
  cases listed : manifest.projects[place]? with
  | none => rfl
  | some entry => rw [Option.map_some, Option.map_some, placeOf_eq distinct listed]

theorem infosFrom_eq_map (distinct : manifest.names.Nodup) (draws : Draws) :
    infosFrom draws 0 manifest.projects =
      manifest.projects.map fun entry => entry.info (manifest.idOf draws entry.name) := by
  simp only [infosFrom, Nat.zero_add, mapIdx_eq_map distinct, idOf]

/-- A name stands for the project that has it. -/
theorem named?_eq (distinct : manifest.names.Nodup) (draws : Draws) (name : String) :
    manifest.named? draws name =
      if name ∈ manifest.names then some (manifest.idOf draws name) else none := by
  rw [named?, mapIdx_eq_map distinct, ← List.map_reverse, List.find?_map]
  simp only [Function.comp_def, Option.map_map]
  cases found : manifest.projects.reverse.find? fun entry => entry.name = name with
  | none =>
    have unknown : name ∉ manifest.names := by
      rintro known
      obtain ⟨entry, entry_mem, rfl⟩ := List.mem_map.mp known
      simpa using List.find?_eq_none.mp found entry (List.mem_reverse.mpr entry_mem)
    rw [if_neg unknown, Option.map_none]
  | some entry =>
    have name_eq : entry.name = name := by simpa using List.find?_some found
    have known : name ∈ manifest.names :=
      name_eq ▸ mem_names (List.mem_reverse.mp (List.mem_of_find?_eq_some found))
    rw [if_pos known, Option.map_some, name_eq, idOf]

/-- The projects that an entry refers to are found by name unless there is no such project. -/
theorem targets_eq (distinct : manifest.names.Nodup) (draws : Draws) (entry : ProjectManifest) :
    (entry.projectReferences ⊆ manifest.names ∧ manifest.targets draws entry =
      .ok (entry.projectReferences.map (manifest.idOf draws))) ∨
    (¬ entry.projectReferences ⊆ manifest.names ∧
      ∃ error, manifest.targets draws entry = .error error) := by
  rw [targets]
  induction entry.projectReferences with
  | nil => exact .inl ⟨List.nil_subset _, rfl⟩
  | cons name rest ih =>
    rw [List.mapM_cons, named?_eq distinct]
    by_cases known : name ∈ manifest.names
    · rw [if_pos known]
      rcases ih with ⟨all_known, found⟩ | ⟨some_unknown, error, missing⟩
      · refine .inl ⟨List.cons_subset.mpr ⟨known, all_known⟩, ?_⟩
        simp only [found, List.map_cons]
        rfl
      · refine .inr ⟨fun all_known => some_unknown (List.cons_subset.mp all_known).2, error, ?_⟩
        simp only [missing]
        rfl
    · rw [if_neg known]
      exact .inr ⟨fun all_known => known (List.cons_subset.mp all_known).1, _, rfl⟩

/-! ## Metadata references that mean projects -/

/-- The index of what all projects publish. -/
def outputs (manifest : Manifest) (comparison : PathComparison) (draws : Draws) : OutputIndex :=
  Workspace.outputsOf comparison (infosFrom draws 0 manifest.projects)

/-- A path belongs to a project if and only if that one alone publishes there. -/
theorem owner?_outputs (distinct : manifest.names.Nodup) (fresh : manifest.Fresh draws)
    {path : String} {id : ProjectId} :
    (manifest.outputs comparison draws).owner? path = some id ↔
      ∃ publisher, manifest.PublishedBy comparison path publisher ∧
        id = manifest.idOf draws publisher.name := by
  have owner_iff (owner : ProjectId) :
      owner ∈ (manifest.outputs comparison draws).ownersOf path ↔
        ∃ entry ∈ manifest.projects, owner = manifest.idOf draws entry.name ∧
          entry.Publishes comparison path := by
    rw [OutputIndex.mem_ownersOf, outputs, Workspace.publishes_outputsOf,
      Workspace.comparison_outputsOf, infosFrom_eq_map distinct]
    simp only [List.mem_map, exists_exists_and_eq_and]
    rfl
  rw [OutputIndex.owner?_eq_some_iff]
  simp only [owner_iff]
  constructor
  · intro only
    obtain ⟨publisher, publisher_mem, rfl, publishes⟩ := (only id).mpr rfl
    refine ⟨publisher, ⟨publisher_mem, publishes, fun other other_mem also => ?_⟩, rfl⟩
    have same := (only _).mp ⟨other, other_mem, rfl, also⟩
    exact List.inj_on_of_nodup_map distinct other_mem publisher_mem
      (idOf_injective fresh (mem_names other_mem) (mem_names publisher_mem) same)
  · rintro ⟨publisher, ⟨publisher_mem, publishes, alone⟩, rfl⟩ owner
    constructor
    · rintro ⟨other, other_mem, rfl, also⟩
      rw [alone other other_mem also]
    · rintro rfl
      exact ⟨publisher, publisher_mem, rfl, publishes⟩

/-- How the metadata references of an entry are represented if no cycle is in the way. -/
def settleIn (manifest : Manifest) (comparison : PathComparison) (draws : Draws)
    (entry : ProjectManifest) : MetadataReference → Representation :=
  settle (manifest.outputs comparison draws) (manifest.idOf draws entry.name)

/-- A metadata reference is settled as the reference to the project that it means, or as itself. -/
theorem settle_cases (distinct : manifest.names.Nodup) (fresh : manifest.Fresh draws)
    (comparison : PathComparison) (entry_mem : entry ∈ manifest.projects)
    (reference : ReferenceManifest) :
    (∃ publisher, manifest.Means comparison entry reference publisher ∧
      manifest.settleIn comparison draws entry reference.reference = .structural
        (.converted (manifest.idOf draws publisher.name) reference.reference.properties)) ∨
    ((∀ publisher, ¬ manifest.Means comparison entry reference publisher) ∧
      manifest.settleIn comparison draws entry reference.reference =
        .content reference.reference) := by
  have kind_eq : reference.reference.properties.kind = reference.kind := rfl
  have path_eq : reference.reference.path = reference.path := rfl
  rw [settleIn, settle, kind_eq, path_eq]
  cases published : (manifest.outputs comparison draws).owner? reference.path with
  | none =>
    refine .inr ⟨fun publisher means => ?_, by simp [Option.filter]⟩
    rw [(owner?_outputs distinct fresh).mpr ⟨publisher, means.2.1, rfl⟩] at published
    cases published
  | some target =>
    obtain ⟨publisher, alone, rfl⟩ := (owner?_outputs distinct fresh).mp published
    have own_iff : manifest.idOf draws publisher.name = manifest.idOf draws entry.name ↔
        publisher = entry := by
      refine ⟨fun same => ?_, fun same => same ▸ rfl⟩
      exact List.inj_on_of_nodup_map distinct alone.1 entry_mem
        (idOf_injective fresh (mem_names alone.1) (mem_names entry_mem) same)
    by_cases means : reference.kind = .assembly ∧ publisher ≠ entry
    · exact .inl ⟨publisher, ⟨means.1, alone, means.2⟩, by simp [Option.filter, own_iff, means]⟩
    · refine .inr ⟨fun other also => ?_, ?_⟩
      · have same : other = publisher := alone.2.2 other also.2.1.1 also.2.1.2.1
        exact means ⟨also.1, same ▸ also.2.2⟩
      · have rejected : (decide (reference.kind = .assembly) &&
            decide (manifest.idOf draws publisher.name ≠ manifest.idOf draws entry.name)) =
              false := by
          simp only [ne_eq, own_iff, Bool.and_eq_false_iff, decide_eq_false_iff_not, not_not]
          tauto
        simp only [Option.filter, rejected, Bool.false_eq_true, if_false, Option.map_none,
          Option.getD_none]

end Manifest

end CodeWorkspace
