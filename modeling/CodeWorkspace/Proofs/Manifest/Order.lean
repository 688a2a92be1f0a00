import CodeWorkspace.Proofs.FlushPlan.References
import CodeWorkspace.Proofs.Manifest.Acyclic
import CodeWorkspace.Proofs.Project.Renaming

/-!
# The order of projects in a manifest

If the intended graph of a manifest has no cycles, the order of its projects does not matter: it is
loaded in any order or in none, and what it is loaded as differs only in the order of the projects
and in the identities that were drawn.  Metadata references that mean a project have then become
references to it, and all others are kept as they are.
-/

namespace CodeWorkspace

/-! ## References of a filled project -/

namespace Addition

/-- The references of a project that was empty are told by what was added to it. -/
theorem lists_effects {closes : ProjectId → Bool} {represent : MetadataReference → Representation}
    {additions : List Addition} {info : ProjectInfo} {project : Project}
    (grouped : additions.Pairwise fun first second => first.group ≤ second.group)
    (completed : Transition.effects closes (.ofInfo info) (additions.map (transition represent)) =
      .ok project) :
    project.Lists
      ((referencesIn additions).filterMap fun reference => (represent reference).content?)
      fun line =>
        { direct := line ∈ linesIn additions
          converted := (referencesIn additions).countP fun reference =>
            represent reference = .structural line } := by
  rw [map_transition_of_grouped represent grouped] at completed
  obtain ⟨fourth, completed, analyzers_added⟩ := Transition.effects_append_ok.mp completed
  obtain ⟨third, completed, lines_added⟩ := Transition.effects_append_ok.mp completed
  obtain ⟨second, documents_added, references_added⟩ := Transition.effects_append_ok.mp completed
  obtain ⟨first, sources_added, additional_added⟩ :=
    Transition.effects_append_ok.mp documents_added
  have same {α : Type} {form : α → Transition} {items : List α} {before after : Project}
      (other : ∀ item, (form item).part ≠ .references)
      (added : Transition.effects closes before (items.map form) = .ok after) :
      before.SameReferences after := by
    refine Transition.references_effects (fun transition transition_mem => ?_) added
    obtain ⟨item, -, rfl⟩ := List.mem_map.mp transition_mem
    exact other item
  have blank := (Project.booked_ofInfo info).lists
  have documents := (blank.of_same (same (by simp [Transition.part]) sources_added)).of_same
    (same (by simp [Transition.part]) additional_added)
  have references := Transition.lists_addProjectReferences
    (Transition.lists_addReferences documents references_added) lines_added
  have lists := references.of_same (same (by simp [Transition.part]) analyzers_added)
  refine ⟨lists.booked, lists.metadata_eq, fun line => (lists.holding_eq line).trans ?_⟩
  simp [Transition.gain, Project.holding, Project.ofInfo, Holders.nobody]

end Addition

/-! ## New names for what is drawn -/

/-- What an entry adds is renamed if the identities drawn for it are. -/
theorem ProjectManifest.map_rename_additions {names : Renaming} {entry : ProjectManifest}
    {targets : List ProjectId} {document other : Nat → DocumentId}
    (same : (entry.documentIds document).map names.document = entry.documentIds other) :
    (entry.additions targets document).map (Addition.rename names) =
      entry.additions (targets.map names.project) other := by
  have files_eq : (entry.documents.mapIdx fun place (file : _ × _ × _) =>
        Addition.file file.1 file.2.2 file.2.1 (document place)).map (Addition.rename names) =
      entry.documents.mapIdx fun place (file : _ × _ × _) =>
        Addition.file file.1 file.2.2 file.2.1 (other place) := by
    rw [documentIds, documentIds, List.map_map, List.map_inj_left] at same
    apply List.ext_getElem (by simp)
    intro place within _
    rw [List.length_map, List.length_mapIdx] at within
    simp only [List.getElem_map, List.getElem_mapIdx, Addition.rename, Addition.file.injEq,
      true_and]
    exact same place (List.mem_range.mpr within)
  simp only [additions, List.map_append]
  rw [files_eq]
  simp only [List.map_map]
  rfl

namespace Manifest

variable {first second : Manifest} {comparison : PathComparison} {draws others : Draws}
  {entry : ProjectManifest} {names : Renaming}

/-- New names carry the identities drawn for a manifest over to those drawn for another order of its
projects. -/
structure Carries (names : Renaming) (first second : Manifest) (draws others : Draws) : Prop where
  reordered : second.projects.Perm first.projects
  project : ∀ entry ∈ first.projects,
    names.project (first.idOf draws entry.name) = second.idOf others entry.name
  documents : ∀ entry ∈ first.projects,
    (entry.documentIds (draws.document (first.placeOf entry.name))).map names.document =
      entry.documentIds (others.document (second.placeOf entry.name))

private theorem map_eq_of_flatMap {α β : Type} {items : List α} {before after : α → List β}
    {rename : β → β} (same_length : ∀ item, (before item).length = (after item).length)
    (same : (items.flatMap before).map rename = items.flatMap after) :
    ∀ item ∈ items, (before item).map rename = after item := by
  induction items with
  | nil => exact nofun
  | cons head rest ih =>
    rw [List.flatMap_cons, List.flatMap_cons, List.map_append] at same
    obtain ⟨head_same, rest_same⟩ :=
      List.append_inj same (by rw [List.length_map, same_length])
    exact List.forall_mem_cons.mpr ⟨head_same, ih rest_same⟩

theorem Proper.of_perm (proper : first.Proper comparison draws)
    (reordered : second.projects.Perm first.projects) (others_fresh : second.Fresh others) :
    second.Proper comparison others where
  distinct := (reordered.map ProjectManifest.name).nodup_iff.mpr proper.distinct
  acyclic := acyclic_of_perm reordered proper.acyclic
  fresh := others_fresh

theorem Proper.nodup_map_idOf (proper : first.Proper comparison draws) :
    (first.projects.map fun entry => first.idOf draws entry.name).Nodup := by
  have ids_eq : (first.projects.map fun entry => first.idOf draws entry.name) =
      first.names.map (first.idOf draws) := by
    rw [Manifest.names, List.map_map]
    rfl
  rw [ids_eq]
  exact proper.distinct.map_on fun name name_mem other other_mem =>
    idOf_injective proper.fresh name_mem other_mem

theorem Proper.nodup_documents (proper : first.Proper comparison draws) :
    (first.projects.flatMap fun entry =>
      entry.documentIds (draws.document (first.placeOf entry.name))).Nodup := by
  have drawn := proper.fresh.documents
  rwa [documentIds, mapIdx_eq_map proper.distinct, ← List.flatMap_def] at drawn

/-- What is drawn for a manifest can be renamed to what is drawn for another order of it. -/
theorem exists_carries (reordered : second.projects.Perm first.projects)
    (proper : first.Proper comparison draws) (others_proper : second.Proper comparison others) :
    ∃ names, Carries names first second draws others := by
  obtain ⟨project, project_eq⟩ := exists_perm_map_eq proper.nodup_map_idOf
    ((reordered.map fun entry => second.idOf others entry.name).nodup_iff.mp
      others_proper.nodup_map_idOf) (by simp)
  obtain ⟨document, document_eq⟩ := exists_perm_map_eq proper.nodup_documents
    ((reordered.flatMap_right _).nodup_iff.mp others_proper.nodup_documents)
    (by simp [List.length_flatMap, ProjectManifest.documentIds])
  rw [List.map_map] at project_eq
  exact ⟨⟨project, document⟩, reordered, List.map_inj_left.mp project_eq,
    map_eq_of_flatMap (by simp [ProjectManifest.documentIds]) document_eq⟩

/-- What an entry adds is the same under new names. -/
theorem Carries.additionsOf_eq (carries : Carries names first second draws others)
    (entry_mem : entry ∈ first.projects) (known : entry.projectReferences ⊆ first.names) :
    (first.additionsOf draws entry).map (Addition.rename names) =
      second.additionsOf others entry := by
  have targets_eq : (entry.projectReferences.map (first.idOf draws)).map names.project =
      entry.projectReferences.map (second.idOf others) := by
    rw [List.map_map]
    refine List.map_congr_left fun name name_mem => ?_
    obtain ⟨target, target_mem, rfl⟩ := List.mem_map.mp (known name_mem)
    exact carries.project target target_mem
  rw [additionsOf, additionsOf, ← targets_eq]
  exact ProjectManifest.map_rename_additions (carries.documents entry entry_mem)

/-- A metadata reference is settled in the same way under new names. -/
theorem Carries.settle_eq (carries : Carries names first second draws others)
    (proper : first.Proper comparison draws) (others_proper : second.Proper comparison others)
    (entry_mem : entry ∈ first.projects) (reference : ReferenceManifest) :
    second.settleIn comparison others entry reference.reference =
      (first.settleIn comparison draws entry reference.reference).rename names := by
  have reordered := carries.reordered
  rcases settle_cases proper.distinct proper.fresh comparison entry_mem reference with
    ⟨publisher, means, structural⟩ | ⟨nothing, content⟩ <;>
  rcases settle_cases others_proper.distinct others_proper.fresh comparison
      (reordered.mem_iff.mpr entry_mem) reference with
    ⟨other, other_means, other_structural⟩ | ⟨other_nothing, other_content⟩
  · obtain rfl := means.unique ((means_of_perm reordered).mp other_means)
    rw [structural, other_structural, ← carries.project other means.2.1.1]
    rfl
  · exact absurd ((means_of_perm reordered).mpr means) (other_nothing publisher)
  · exact absurd ((means_of_perm reordered).mp other_means) (nothing other)
  · rw [content, other_content]
    rfl

/-- An entry loads in one order if it does in another. -/
theorem Carries.loads (carries : Carries names first second draws others)
    (entry_mem : entry ∈ first.projects) (loads : first.Loads comparison draws entry) :
    second.Loads comparison others entry := by
  have names_perm := carries.reordered.map ProjectManifest.name
  refine ⟨fun name name_mem => names_perm.mem_iff.mpr (loads.1 name_mem), ?_⟩
  rw [← carries.additionsOf_eq entry_mem loads.1, ← carries.project entry entry_mem]
  exact (Addition.accept_rename_ok_iff names comparison (first.idOf draws entry.name) []
    (first.additionsOf draws entry)).mpr loads.2

/-- An entry comes to the same project under new names. -/
theorem Carries.fills (carries : Carries names first second draws others)
    (proper : first.Proper comparison draws) (others_proper : second.Proper comparison others)
    (entry_mem : entry ∈ first.projects) (known : entry.projectReferences ⊆ first.names)
    {project other : Project} (fills : first.Fills comparison draws entry project)
    (other_fills : second.Fills comparison others entry other) :
    project.RenamedAs names other := by
  have empty_renamed := Project.renamedAs_ofInfo names
    (entry.info (first.idOf draws entry.name))
  obtain ⟨last, completed, renamed⟩ := Addition.effects_rename empty_renamed
    (fun reference added => by
      obtain ⟨listed, -, rfl⟩ := ProjectManifest.metadata_mem_additions.mp added
      exact carries.settle_eq proper others_proper entry_mem listed) fills
  rw [carries.additionsOf_eq entry_mem known] at completed
  have info_eq : { entry.info (first.idOf draws entry.name) with
      id := names.project (first.idOf draws entry.name) } =
        entry.info (second.idOf others entry.name) := by
    rw [← carries.project entry entry_mem]
    rfl
  rw [Fills, ← info_eq] at other_fills
  cases completed.symm.trans other_fills
  exact renamed

/-! ## What metadata references have become -/

/-- In the project of each entry, a metadata reference that means another project has become a
reference to it, and every other one is kept as it is. -/
def Resolves (manifest : Manifest) (comparison : PathComparison)
    (loaded : List (String × ProjectId)) (snapshot : Snapshot) : Prop :=
  ∀ entry ∈ manifest.projects, ∃ id project,
    (entry.name, id) ∈ loaded ∧ snapshot.project? id = some project ∧
    ∀ reference ∈ entry.metadataReferences,
      (∀ publisher, manifest.Means comparison entry reference publisher →
        reference.reference ∉ project.metadataReferences ∧
        ∃ target, (publisher.name, target) ∈ loaded ∧
          project.isHeldBy (.converted target reference.reference.properties) .converted =
            true) ∧
      ((∀ publisher, ¬ manifest.Means comparison entry reference publisher) →
        reference.reference ∈ project.metadataReferences)

theorem mem_referencesIn_additionsOf {reference : ReferenceManifest}
    (reference_mem : reference ∈ entry.metadataReferences) :
    reference.reference ∈ Addition.referencesIn (first.additionsOf draws entry) :=
  List.mem_filterMap.mpr ⟨.metadata reference.reference,
    ProjectManifest.metadata_mem_additions.mpr ⟨reference, reference_mem, rfl⟩, rfl⟩

theorem Fills.mem_metadataReferences_iff {project : Project}
    (fills : first.Fills comparison draws entry project) {reference : ReferenceManifest}
    (reference_mem : reference ∈ entry.metadataReferences) :
    reference.reference ∈ project.metadataReferences ↔
      first.settleIn comparison draws entry reference.reference =
        .content reference.reference := by
  have lists := Addition.lists_effects (entry.grouped_additions _ _) fills
  rw [lists.metadata_eq, List.mem_filterMap]
  constructor
  · rintro ⟨other, -, kept⟩
    cases settled : first.settleIn comparison draws entry other with
    | structural line =>
      rw [settled] at kept
      cases kept
    | content same =>
      rw [settled] at kept
      cases kept
      rwa [eq_of_settle_content settled] at settled ⊢
  · intro content
    exact ⟨reference.reference, mem_referencesIn_additionsOf reference_mem,
      by rw [content, Representation.content?]⟩

theorem Fills.isHeldBy {project : Project} (fills : first.Fills comparison draws entry project)
    {reference : ReferenceManifest} (reference_mem : reference ∈ entry.metadataReferences)
    {line : ProjectReference} (structural : first.settleIn comparison draws entry
      reference.reference = .structural line) :
    project.isHeldBy line .converted = true := by
  have lists := Addition.lists_effects (entry.grouped_additions _ _) fills
  rw [Project.isHeldBy_eq, lists.holding_eq, Holders.includes, decide_eq_true_iff,
    List.countP_pos_iff]
  exact ⟨reference.reference, mem_referencesIn_additionsOf reference_mem,
    decide_eq_true structural⟩

theorem Settled.resolves {workspace : Workspace} (proper : first.Proper comparison draws)
    (settled : first.Settled comparison draws first.projects workspace) :
    first.Resolves comparison (first.answer draws) workspace.snapshot := by
  intro entry entry_mem
  obtain ⟨-, project, found, fills⟩ := settled.filled entry entry_mem
  refine ⟨first.idOf draws entry.name, project, List.mem_map_of_mem entry_mem, found,
    fun reference reference_mem => ?_⟩
  have kept_iff := fills.mem_metadataReferences_iff reference_mem
  rcases settle_cases proper.distinct proper.fresh comparison entry_mem reference with
    ⟨publisher, means, structural⟩ | ⟨nothing, content⟩
  · refine ⟨fun other also => ?_, fun nothing => absurd means (nothing publisher)⟩
    obtain rfl := means.unique also
    refine ⟨fun kept => ?_, first.idOf draws other.name, List.mem_map_of_mem means.2.1.1,
      fills.isHeldBy reference_mem structural⟩
    cases structural.symm.trans (kept_iff.mp kept)
  · exact ⟨fun publisher means => absurd means (nothing publisher), fun _ => kept_iff.mpr content⟩

/-! ## Any order -/

theorem Carries.perm_answer (carries : Carries names first second draws others) :
    (second.answer others).Perm
      ((first.answer draws).map fun entry => (entry.1, names.project entry.2)) := by
  have answer_eq : (first.answer draws).map (fun entry => (entry.1, names.project entry.2)) =
      first.projects.map fun entry => (entry.name, second.idOf others entry.name) := by
    rw [answer, List.map_map]
    refine List.map_congr_left fun entry entry_mem => ?_
    simp only [Function.comp, carries.project entry entry_mem]
  rw [answer_eq]
  exact carries.reordered.map _

/-- The snapshots in which two orders of a manifest end hold the same projects under new names. -/
theorem Carries.renamedAs (carries : Carries names first second draws others)
    (proper : first.Proper comparison draws) (others_proper : second.Proper comparison others)
    {last other : Workspace}
    (settled : first.Settled comparison draws first.projects last)
    (other_settled : second.Settled comparison others second.projects other) :
    last.snapshot.RenamedAs names other.snapshot := by
  refine ⟨?_, fun id project found => ?_⟩
  · have ids_eq : last.snapshot.ids.map names.project =
        first.projects.map fun entry => second.idOf others entry.name := by
      rw [settled.ids_eq proper, List.map_map]
      exact List.map_congr_left carries.project
    rw [ids_eq, other_settled.ids_eq others_proper]
    exact carries.reordered.map _
  · have id_mem : id ∈ last.snapshot.ids :=
      Snapshot.mem_ids_iff.mpr (Snapshot.contains_iff.mpr ⟨project, found⟩)
    rw [settled.ids_eq proper] at id_mem
    obtain ⟨entry, entry_mem, rfl⟩ := List.mem_map.mp id_mem
    obtain ⟨loads, same, same_found, fills⟩ := settled.filled entry entry_mem
    obtain ⟨-, renamed, renamed_found, other_fills⟩ :=
      other_settled.filled entry (carries.reordered.mem_iff.mpr entry_mem)
    cases same_found.symm.trans found
    rw [carries.project entry entry_mem]
    exact ⟨renamed, renamed_found,
      carries.fills proper others_proper entry_mem loads.1 fills other_fills⟩

/-- If the intended graph of a manifest has no cycles and the manifest is loaded, then it is loaded
in every order of its projects, with the same outcome up to the order of the projects and the
identities that were drawn. -/
theorem load_perm (first second : Manifest) (comparison : PathComparison) (draws others : Draws)
    (batched again : Bool) (reordered : second.projects.Perm first.projects)
    (distinct : first.names.Nodup) (acyclic : first.Acyclic comparison)
    (fresh : first.Fresh draws) (others_fresh : second.Fresh others)
    (loaded : List (String × ProjectId))
    (loads : (first.load draws batched (.inMemory comparison)).1 = .ok loaded) :
    ∃ reloaded, (second.load others again (.inMemory comparison)).1 = .ok reloaded ∧
      (∃ names : Renaming,
        reloaded.Perm (loaded.map fun entry => (entry.1, names.project entry.2)) ∧
        (first.load draws batched (.inMemory comparison)).2.snapshot.RenamedAs names
          (second.load others again (.inMemory comparison)).2.snapshot) ∧
      first.Resolves comparison loaded
        (first.load draws batched (.inMemory comparison)).2.snapshot ∧
      second.Resolves comparison reloaded
        (second.load others again (.inMemory comparison)).2.snapshot := by
  have proper : first.Proper comparison draws := ⟨distinct, acyclic, fresh⟩
  have others_proper := proper.of_perm reordered others_fresh
  obtain ⟨names, carries⟩ := exists_carries reordered proper others_proper
  rcases load_cases proper batched with
    ⟨last, first_loads, named, settled⟩ | ⟨⟨error, last, fails⟩, -⟩
  · rcases load_cases others_proper again with
      ⟨other, second_loads, -, other_settled⟩ | ⟨-, entry, entry_mem, wrong⟩
    · rw [first_loads] at loads ⊢
      cases loads
      rw [second_loads]
      exact ⟨second.answer others, rfl,
        ⟨names, carries.perm_answer,
          carries.renamedAs proper others_proper settled other_settled⟩,
        settled.resolves proper, other_settled.resolves others_proper⟩
    · have there := reordered.mem_iff.mp entry_mem
      rcases wrong with blank | refused
      · exact absurd (named entry there) blank
      · exact absurd (carries.loads there (settled.filled entry there).1) refused
  · rw [fails] at loads
    cases loads

/-- The same projects, last to first. -/
def reversed (manifest : Manifest) : Manifest := { projects := manifest.projects.reverse }

/-- Two layers of references: the first project means the second one by a path and names it as well,
and its other metadata references stay, for one is to a module and one to a path at which two
projects publish. -/
def layered : Manifest where
  projects := [
    { name := "App", outputPath? := some "/app.dll", sources := ["Main.cs"],
      metadataReferences := [
        { path := "/base.dll" }, { path := "/base.dll", kind := .module },
        { path := "/shared.dll" }],
      projectReferences := ["Base"] },
    { name := "Base", outputPath? := some "/base.dll", outputReferencePath? := some "/shared.dll",
      metadataReferences := [{ path := "/base.dll" }], projectReferences := ["Tool"] },
    { name := "Tool", outputPath? := some "/shared.dll", sources := ["Tool.cs"] }]

theorem acyclic_layered : layered.Acyclic .ordinal := by
  let height (name : String) : Nat := if name = "App" then 2 else if name = "Base" then 1 else 0
  have falls (source target : String) (intends : layered.Intends .ordinal source target) :
      height target < height source := by
    obtain ⟨entry, entry_mem, rfl, named | ⟨reference, reference_mem, publisher, means, rfl⟩⟩ :=
      intends
    · simp only [layered, List.mem_cons, List.not_mem_nil, or_false] at entry_mem
      rcases entry_mem with rfl | rfl | rfl <;> simp at named <;> subst named <;> decide
    · obtain ⟨-, ⟨publisher_mem, ⟨output, output_mem, same⟩, -⟩, other⟩ := means
      simp only [layered, List.mem_cons, List.not_mem_nil, or_false] at entry_mem publisher_mem
      rcases entry_mem with rfl | rfl | rfl <;> rcases publisher_mem with rfl | rfl | rfl <;>
        first
        | decide
        | simp_all [PathComparison.key]
  exact acyclic_of_height falls

theorem load_perm_layered :
    ∃ reloaded, (layered.reversed.load counting true (.inMemory .ordinal)).1 = .ok reloaded ∧
      (∃ names : Renaming,
        reloaded.Perm
          ((layered.answer counting).map fun entry => (entry.1, names.project entry.2)) ∧
        (layered.load counting false (.inMemory .ordinal)).2.snapshot.RenamedAs names
          (layered.reversed.load counting true (.inMemory .ordinal)).2.snapshot) ∧
      layered.Resolves .ordinal (layered.answer counting)
        (layered.load counting false (.inMemory .ordinal)).2.snapshot ∧
      layered.reversed.Resolves .ordinal reloaded
        (layered.reversed.load counting true (.inMemory .ordinal)).2.snapshot := by
  have distinct : layered.names.Nodup := by decide
  have fresh : layered.Fresh counting := ⟨by decide, by decide⟩
  have loads : (layered.load counting false (.inMemory .ordinal)).1 =
      .ok (layered.answer counting) :=
    (load_ok_iff ⟨distinct, acyclic_layered, fresh⟩ false).mpr (by decide)
  exact load_perm layered layered.reversed .ordinal counting counting false true
    (List.reverse_perm _) distinct acyclic_layered fresh ⟨by decide, by decide⟩ _ loads

end Manifest

end CodeWorkspace
