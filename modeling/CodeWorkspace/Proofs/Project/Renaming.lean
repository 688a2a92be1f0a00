import CodeWorkspace.Container.OrderedMap.Lemmas
import CodeWorkspace.Proofs.Manifest.Addition
import Mathlib.GroupTheory.GroupAction.MultipleTransitivity

/-!
# Renaming identities

Projects and documents are known by identities that mean nothing in themselves.  Additions mean the
same to a project whatever the identities are: if they are renamed in the project and in the
additions, they are renamed in the outcome.
-/

namespace CodeWorkspace

/-! ## Maps -/

namespace OrderedMap

variable {κ α : Type} [DecidableEq κ] {rename : κ → κ} {change : α → α}
  {first second : OrderedMap κ α}

/-- A map that has the entries of another one under other keys, in the same order. -/
def RenamedBy (rename : κ → κ) (change : α → α) (first second : OrderedMap κ α) : Prop :=
  second.entries = first.entries.map fun entry => (rename entry.1, change entry.2)

theorem RenamedBy.get? (renamed : RenamedBy rename change first second)
    (injective : Function.Injective rename) (key : κ) :
    second.get? (rename key) = (first.get? key).map change := by
  rw [OrderedMap.get?, OrderedMap.get?, renamed, List.find?_map]
  have tests : ((fun entry : κ × α => decide (entry.1 = rename key)) ∘
      fun entry : κ × α => (rename entry.1, change entry.2)) =
        fun entry : κ × α => decide (entry.1 = key) := by
    funext entry
    simp [injective.eq_iff]
  rw [tests, Option.map_map, Option.map_map]
  rfl

theorem RenamedBy.contains (renamed : RenamedBy rename change first second)
    (injective : Function.Injective rename) (key : κ) :
    second.contains (rename key) = first.contains key := by
  rw [← isSome_get?, ← isSome_get?, renamed.get? injective, Option.isSome_map]

theorem RenamedBy.insert (renamed : RenamedBy rename change first second)
    (injective : Function.Injective rename) (key : κ) (value : α) :
    RenamedBy rename change (first.insert key value)
      (second.insert (rename key) (change value)) := by
  have contains_eq := renamed.contains injective key
  rw [RenamedBy, OrderedMap.insert, OrderedMap.insert]
  by_cases present : first.contains key = true
  · rw [dif_pos present, dif_pos (contains_eq.trans present), entries_adjust, entries_adjust,
      renamed, List.map_map, List.map_map]
    refine List.map_congr_left fun entry _ => ?_
    simp only [Function.comp, injective.eq_iff]
    split <;> rfl
  · rw [dif_neg present, dif_neg (contains_eq ▸ present)]
    show second.entries ++ _ = (first.entries ++ _).map _
    rw [renamed, List.map_append]
    rfl

theorem RenamedBy.erase (renamed : RenamedBy rename change first second)
    (injective : Function.Injective rename) (key : κ) :
    RenamedBy rename change (first.erase key) (second.erase (rename key)) := by
  rw [RenamedBy, entries_erase, entries_erase, renamed, List.filter_map]
  refine congrArg (List.map _) (List.filter_congr fun entry _ => ?_)
  simp [injective.eq_iff]

end OrderedMap

/-! ## Projects -/

/-- New names for the identities of projects and documents. -/
structure Renaming where
  project : Equiv.Perm ProjectId
  document : Equiv.Perm DocumentId

/-- Different identities can be given any new names that are different. -/
theorem exists_perm_map_eq {α : Type} {first second : List α} (distinct : first.Nodup)
    (second_distinct : second.Nodup) (same_length : first.length = second.length) :
    ∃ rename : Equiv.Perm α, first.map rename = second := by
  have transitive := Equiv.Perm.isMultiplyPretransitive α first.length
  let old : Fin first.length ↪ α :=
    ⟨fun place => first[place], fun place other same =>
      Fin.ext (distinct.getElem_inj_iff.mp same)⟩
  let new : Fin first.length ↪ α :=
    ⟨fun place => second[place], fun place other same =>
      Fin.ext (second_distinct.getElem_inj_iff.mp same)⟩
  obtain ⟨rename, moved⟩ := MulAction.exists_smul_eq (Equiv.Perm α) old new
  refine ⟨rename, List.ext_getElem (by simpa using same_length) fun place within _ => ?_⟩
  rw [List.length_map] at within
  rw [List.getElem_map]
  exact DFunLike.congr_fun moved ⟨place, within⟩

/-- The reference to a project under its new name. -/
def ProjectReference.rename (names : Renaming) (reference : ProjectReference) :
    ProjectReference :=
  { reference with target := names.project reference.target }

theorem ProjectReference.rename_injective (names : Renaming) :
    Function.Injective (rename names) := by
  rintro ⟨target, aliases, embed⟩ ⟨other, other_aliases, other_embed⟩ same
  simp only [rename, ProjectReference.mk.injEq, names.project.injective.eq_iff] at same
  obtain ⟨rfl, rfl, rfl⟩ := same
  rfl

/-- The document under its new name. -/
def Document.rename (names : Renaming) (document : Document) : Document :=
  { document with id := names.document document.id }

/-- The representation with references to projects under their new names. -/
def Representation.rename (names : Renaming) : Representation → Representation
  | .structural reference => .structural (reference.rename names)
  | .content reference => .content reference

namespace Project

variable {names : Renaming} {first second changed : Project}

/-- A project that is another one under new names. -/
structure RenamedAs (names : Renaming) (first second : Project) : Prop where
  id_eq : second.id = names.project first.id
  language_eq : second.language = first.language
  properties_eq : second.properties = first.properties
  documents : ∀ collection, OrderedMap.RenamedBy names.document (Document.rename names)
    (first.documents collection) (second.documents collection)
  metadata_eq : second.metadataReferences = first.metadataReferences
  projects_eq : second.projectReferences =
    first.projectReferences.map (ProjectReference.rename names)
  analyzers_eq : second.analyzerReferences = first.analyzerReferences
  holders : OrderedMap.RenamedBy (ProjectReference.rename names) (fun holders => holders)
    first.holders second.holders

theorem RenamedAs.mem_projectReferences (renamed : first.RenamedAs names second)
    (reference : ProjectReference) :
    reference.rename names ∈ second.projectReferences ↔
      reference ∈ first.projectReferences := by
  rw [renamed.projects_eq,
    List.mem_map_of_injective (ProjectReference.rename_injective names)]

theorem RenamedAs.holdersOf (renamed : first.RenamedAs names second)
    (reference : ProjectReference) :
    second.holdersOf (reference.rename names) = first.holdersOf reference := by
  rw [Project.holdersOf, renamed.holders.get? (ProjectReference.rename_injective names),
    Option.map_id', Project.holdersOf]

theorem RenamedAs.setHolders (renamed : first.RenamedAs names second)
    (reference : ProjectReference) (holders : Holders) :
    (first.setHolders reference holders).RenamedAs names
      (second.setHolders (reference.rename names) holders) := by
  have injective := ProjectReference.rename_injective names
  rw [Project.setHolders, Project.setHolders]
  split
  · exact { renamed with holders := renamed.holders.erase injective reference }
  · exact { renamed with holders := renamed.holders.insert injective reference holders }

/-- Holding a reference means the same under new names if no cycle is in the way. -/
theorem RenamedAs.hold (renamed : first.RenamedAs names second) {reference : ProjectReference}
    {holder : ReferenceHolder}
    (completed : first.hold (fun _ => false) reference holder = .ok changed) :
    ∃ other, second.hold (fun _ => false) (reference.rename names) holder = .ok other ∧
      changed.RenamedAs names other := by
  have added : ({ first with
      projectReferences := first.projectReferences ++ [reference] } : Project).RenamedAs names
        { second with
          projectReferences := second.projectReferences ++ [reference.rename names] } :=
    { renamed with
      projects_eq := by
        simp only [renamed.projects_eq, List.map_append, List.map_cons, List.map_nil] }
  rw [Project.hold] at completed ⊢
  rw [renamed.holdersOf]
  simp only [renamed.mem_projectReferences]
  by_cases present : reference ∈ first.projectReferences
  · rw [if_pos present] at completed ⊢
    by_cases twice : holder = .direct ∧ (first.holdersOf reference).direct
    · rw [if_pos twice] at completed
      cases completed
    · rw [if_neg twice] at completed ⊢
      cases completed
      exact ⟨_, rfl, renamed.setHolders reference _⟩
  · rw [if_neg present] at completed ⊢
    cases holder with
    | direct =>
      cases completed
      exact ⟨_, rfl, added⟩
    | converted =>
      cases completed
      exact ⟨_, rfl, added.setHolders reference _⟩

theorem RenamedAs.withDocuments (renamed : first.RenamedAs names second)
    {documents others : Documents} (same : OrderedMap.RenamedBy names.document
      (Document.rename names) documents others) (collection : DocumentCollection) :
    (first.withDocuments documents collection).RenamedAs names
      (second.withDocuments others collection) where
  id_eq := by cases collection <;> exact renamed.id_eq
  language_eq := by cases collection <;> exact renamed.language_eq
  properties_eq := by cases collection <;> exact renamed.properties_eq
  documents there := by
    by_cases here : there = collection
    · subst here
      rwa [documents_withDocuments_self, documents_withDocuments_self]
    · rw [documents_withDocuments_of_ne here, documents_withDocuments_of_ne here]
      exact renamed.documents there
  metadata_eq := by cases collection <;> exact renamed.metadata_eq
  projects_eq := by cases collection <;> exact renamed.projects_eq
  analyzers_eq := by cases collection <;> exact renamed.analyzers_eq
  holders := by cases collection <;> exact renamed.holders

/-- Adding a document means the same under new names. -/
theorem RenamedAs.addDocument (renamed : first.RenamedAs names second)
    {collection : DocumentCollection} {document : Document}
    (completed : (first.addDocuments collection [document]).toExcept = .ok changed) :
    ∃ other, (second.addDocuments collection [document.rename names]).toExcept = .ok other ∧
      changed.RenamedAs names other := by
  obtain ⟨reached, added, rfl⟩ := addDocuments_ok_iff.mp completed
  rw [addEach] at added
  split at added
  · cases added
  · rename_i absent
    cases added
    have injective := names.document.injective
    refine ⟨second.withDocuments ((second.documents collection).insert
      (names.document document.id) (document.rename names)) collection,
      addDocuments_ok_iff.mpr ⟨_, ?_, rfl⟩, ?_⟩
    · have still_absent : ¬ (second.documents collection).contains
          (names.document document.id) = true := by
        rwa [(renamed.documents collection).contains injective]
      exact congrArg Attempt.toExcept (if_neg still_absent)
    · exact renamed.withDocuments
        ((renamed.documents collection).insert injective document.id document) collection

theorem RenamedAs.addMetadataReference (renamed : first.RenamedAs names second)
    {reference : MetadataReference}
    (completed : first.addMetadataReference reference = .ok changed) :
    ∃ other, second.addMetadataReference reference = .ok other ∧ changed.RenamedAs names other := by
  rw [Project.addMetadataReference] at completed ⊢
  rw [renamed.metadata_eq]
  split at completed
  · cases completed
  · rename_i absent
    cases completed
    exact ⟨_, if_neg absent, { renamed with metadata_eq := rfl }⟩

theorem RenamedAs.addAnalyzerReference (renamed : first.RenamedAs names second)
    {reference : AnalyzerReference}
    (completed : first.addAnalyzerReference reference = .ok changed) :
    ∃ other, second.addAnalyzerReference reference = .ok other ∧ changed.RenamedAs names other := by
  rw [Project.addAnalyzerReference] at completed ⊢
  rw [renamed.analyzers_eq]
  split at completed
  · cases completed
  · rename_i absent
    cases completed
    exact ⟨_, if_neg absent, { renamed with analyzers_eq := rfl }⟩

end Project

/-- A snapshot that holds the projects of another one under new names, in any order. -/
structure Snapshot.RenamedAs (names : Renaming) (first second : Snapshot) : Prop where
  ids_perm : second.ids.Perm (first.ids.map names.project)
  projects : ∀ id project, first.project? id = some project →
    ∃ other, second.project? (names.project id) = some other ∧ project.RenamedAs names other

theorem Project.renamedAs_ofInfo (names : Renaming) (info : ProjectInfo) :
    (ofInfo info).RenamedAs names (ofInfo { info with id := names.project info.id }) where
  id_eq := rfl
  language_eq := rfl
  properties_eq := rfl
  documents collection := by cases collection <;> rfl
  metadata_eq := rfl
  projects_eq := rfl
  analyzers_eq := rfl
  holders := rfl

/-! ## Additions -/

namespace Addition

variable {names : Renaming} {first second changed : Project}
  {represent other : MetadataReference → Representation}

/-- The addition under new names. -/
def rename (names : Renaming) : Addition → Addition
  | .file collection path kind id => .file collection path kind (names.document id)
  | .metadata reference => .metadata reference
  | .project target => .project (names.project target)
  | .analyzer path => .analyzer path

/-- Additions mean the same under new names. -/
theorem effects_rename (renamed : first.RenamedAs names second) {additions : List Addition}
    (represents : ∀ reference, .metadata reference ∈ additions →
      other reference = (represent reference).rename names)
    (completed : Transition.effects (fun _ => false) first (additions.map (transition represent)) =
      .ok changed) :
    ∃ last, Transition.effects (fun _ => false) second
        ((additions.map (rename names)).map (transition other)) = .ok last ∧
      changed.RenamedAs names last := by
  induction additions generalizing first second with
  | nil =>
    cases completed
    exact ⟨second, rfl, renamed⟩
  | cons addition rest ih =>
    obtain ⟨middle, made, rest_made⟩ := Transition.effects_cons_ok.mp completed
    have head_made : ∃ reached, ((addition.rename names).transition other).effect (fun _ => false)
        second = .ok reached ∧ middle.RenamedAs names reached := by
      cases addition with
      | file collection path kind id => exact renamed.addDocument made
      | metadata reference =>
        have represented := represents reference List.mem_cons_self
        simp only [rename, transition, represented] at made ⊢
        cases kept : represent reference with
        | structural line =>
          rw [kept] at made
          exact renamed.hold made
        | content reference =>
          rw [kept] at made
          exact renamed.addMetadataReference made
      | project target => exact renamed.hold made
      | analyzer path => exact renamed.addAnalyzerReference made
    obtain ⟨reached, head_made, middle_renamed⟩ := head_made
    obtain ⟨last, rest_made, last_renamed⟩ := ih middle_renamed
      (fun reference known => represents reference (List.mem_cons_of_mem _ known)) rest_made
    exact ⟨last, Transition.effects_cons_ok.mpr ⟨reached, head_made, rest_made⟩, last_renamed⟩

theorem documentsIn_rename (names : Renaming) (collection : DocumentCollection)
    (done : List Addition) : documentsIn collection (done.map (rename names)) =
      (documentsIn collection done).map (Document.rename names) := by
  rw [documentsIn, documentsIn, List.filterMap_map, List.map_filterMap]
  refine List.filterMap_congr fun addition _ => ?_
  cases addition with
  | file there path kind id =>
    simp only [Function.comp, rename, document?]
    split <;> rfl
  | _ => rfl

theorem linesIn_rename (names : Renaming) (done : List Addition) :
    linesIn (done.map (rename names)) = (linesIn done).map (ProjectReference.rename names) := by
  rw [linesIn, linesIn, List.filterMap_map, List.map_filterMap]
  refine List.filterMap_congr fun addition _ => ?_
  cases addition <;> rfl

theorem referencesIn_rename (names : Renaming) (done : List Addition) :
    referencesIn (done.map (rename names)) = referencesIn done := by
  rw [referencesIn, referencesIn, List.filterMap_map]
  refine List.filterMap_congr fun addition _ => ?_
  cases addition <;> rfl

theorem analyzersIn_rename (names : Renaming) (done : List Addition) :
    analyzersIn (done.map (rename names)) = analyzersIn done := by
  rw [analyzersIn, analyzersIn, List.filterMap_map]
  refine List.filterMap_congr fun addition _ => ?_
  cases addition <;> rfl

/-- Whether an addition is turned down does not depend on names if no cycle is in the way. -/
theorem refusal?_rename_eq_none_iff (names : Renaming) (comparison : PathComparison)
    (owner : ProjectId) (done : List Addition) (addition : Addition) :
    (addition.rename names).refusal? comparison (names.project owner) (fun _ => false)
        (done.map (rename names)) = none ↔
      addition.refusal? comparison owner (fun _ => false) done = none := by
  cases addition with
  | file collection path kind id =>
    simp [refusal?, rename, clash?, edit, Edit.objection?, documentsIn_rename, Document.rename]
  | metadata reference =>
    simp [refusal?, rename, clash?, edit, Edit.objection?, referencesIn_rename]
  | project target =>
    simp [refusal?, rename, clash?, edit, Edit.objection?, linesIn_rename, ProjectReference.rename,
      names.project.injective.eq_iff]
  | analyzer path =>
    simp [refusal?, rename, clash?, edit, Edit.objection?, analyzersIn_rename]

/-- Whether all additions are made does not depend on names if no cycle is in the way. -/
theorem accept_rename_ok_iff (names : Renaming) (comparison : PathComparison) (owner : ProjectId)
    (done rest : List Addition) :
    (accept comparison (names.project owner) (fun _ => false) (done.map (rename names))
        (rest.map (rename names))).1 = .ok () ↔
      (accept comparison owner (fun _ => false) done rest).1 = .ok () := by
  induction rest generalizing done with
  | nil => exact iff_of_true rfl rfl
  | cons addition rest ih =>
    have same := refusal?_rename_eq_none_iff names comparison owner done addition
    rw [List.map_cons, accept, accept]
    cases refused : addition.refusal? comparison owner (fun _ => false) done with
    | none =>
      simp only [same.mpr refused]
      have later := ih (done ++ [addition])
      rwa [List.map_append, List.map_singleton] at later
    | some failure =>
      cases still_refused : (addition.rename names).refusal? comparison (names.project owner)
        (fun _ => false) (done.map (rename names)) with
      | none => cases refused.symm.trans (same.mp still_refused)
      | some other => exact iff_of_false (fun made => by cases made) fun made => by cases made

end Addition

end CodeWorkspace
