import CodeWorkspace.Container.OrderedMap.Lemmas
import CodeWorkspace.Container.OrderedSet.Lemmas
import CodeWorkspace.Proofs.Schema.ReadBack
import CodeWorkspace.Snapshot.Diff

/-!
# Differences between versions of a project

The difference between two versions of a project lists, over both collections, the documents that
came, those that went and those that are another now, together with the references by which the
two versions differ.  It can be read in either direction, and nothing is listed exactly if the
versions agree except for the order in which they list their parts.
-/

namespace CodeWorkspace

/-! ## Comparing options -/

theorem Double.same_comm (first second : Double) : first.same second = second.same first := by
  rw [same, same, Bool.beq_comm, Bool.and_comm]

namespace Json.Value

mutual

theorem same_comm : ∀ first second : Value, first.same second = second.same first
  | .null, second => by cases second <;> rfl
  | .bool _, second => by cases second <;> simp [same, Bool.beq_comm]
  | .integer _, second => by cases second <;> simp [same, Bool.beq_comm]
  | .double _, second => by cases second <;> simp [same, Double.same_comm]
  | .string _, second => by cases second <;> simp [same, Bool.beq_comm]
  | .array items, second => by
    cases second <;> simp [same, sameItems_comm items]
  | .object members, second => by
    cases second <;> simp [same, sameMembers_comm members]

theorem sameItems_comm : ∀ first second : List Value,
    sameItems first second = sameItems second first
  | [], second => by cases second <;> rfl
  | item :: rest, second => by
    cases second with
    | nil => rfl
    | cons other others => rw [sameItems, sameItems, same_comm item, sameItems_comm rest]

theorem sameMembers_comm : ∀ first second : List (String × Value),
    sameMembers first second = sameMembers second first
  | [], second => by cases second <;> rfl
  | (key, value) :: rest, second => by
    cases second with
    | nil => rfl
    | cons other others =>
      rw [sameMembers, sameMembers, Bool.beq_comm, same_comm value, sameMembers_comm rest]

end

end Json.Value

theorem Options.same_comm (first second : Options) : first.same second = second.same first :=
  Json.Value.same_comm first.value second.value

theorem Properties.same_comm (first second : Properties) :
    first.same second = second.same first := by
  rw [same, same, Options.same_comm first.compilationOptions,
    Options.same_comm first.parseOptions]
  simp only [Bool.beq_comm]

/-! ## Documents told apart -/

/-- A document is determined by its text. -/
theorem Document.text_injective : Function.Injective Document.text := by
  intro first second same
  have same_tree : first.tree = second.tree := by
    have read := Json.Tree.parse?_compact first.tree
    rw [← text, same, text, Json.Tree.parse?_compact] at read
    exact (Option.some.inj read).symm
  have shallow (document : Document) : document.tree.depth ≤ Json.depthLimit := by
    rw [depth_tree]
    decide
  have read_first := first.reads.decode? (shallow first)
  rw [same_tree, second.reads.decode? (shallow second)] at read_first
  exact (Option.some.inj read_first).symm

/-- Whenever both versions have a document with different texts, the digests are different, too. -/
def Project.DocumentsToldApart (old new : Project) : Prop :=
  ∀ collection id previous document, old.document? collection id = some previous →
    new.document? collection id = some document → previous.text ≠ document.text →
      previous.digest ≠ document.digest

namespace ProjectDiff

variable {old new : Project} {id : DocumentId}

/-! ## Documents that came, went and changed -/

theorem mem_newDocuments {old new : Documents} :
    id ∈ newDocuments old new ↔ id ∈ new.keys ∧ id ∉ old.keys := by
  rw [newDocuments, List.mem_filter, Bool.not_eq_true', Bool.eq_false_iff, ne_eq,
    OrderedMap.contains_iff_mem_keys]

theorem mem_alteredDocuments {old new : Documents} :
    id ∈ alteredDocuments old new ↔ ∃ previous document, old.get? id = some previous ∧
      new.get? id = some document ∧ previous ≠ document ∧ previous.digest ≠ document.digest := by
  simp only [alteredDocuments, List.mem_filterMap, Prod.exists, ← OrderedMap.get?_eq_some_iff]
  constructor
  · rintro ⟨other, document, found, listed⟩
    split at listed
    · rename_i previous found_before
      split at listed
      · rename_i differs
        cases listed
        exact ⟨previous, document, found_before, found, differs⟩
      · cases listed
    · cases listed
  · rintro ⟨previous, document, found_before, found, differs⟩
    exact ⟨id, document, found, by simp only [found_before, if_pos differs]⟩

theorem mem_inCollections {choose : Documents → Documents → List DocumentId} :
    id ∈ inCollections choose old new ↔
      ∃ collection, id ∈ choose (old.documents collection) (new.documents collection) := by
  have listed (collection : DocumentCollection) : collection ∈ DocumentCollection.all := by
    cases collection <;> decide
  simp only [inCollections, OrderedSet.mem_ofList, List.mem_flatMap, listed, true_and]

theorem mem_addedDocuments : id ∈ (between old new).addedDocuments ↔ ∃ collection,
    id ∈ (new.documents collection).keys ∧ id ∉ (old.documents collection).keys := by
  simp only [between, mem_inCollections, mem_newDocuments]

theorem mem_removedDocuments : id ∈ (between old new).removedDocuments ↔ ∃ collection,
    id ∈ (old.documents collection).keys ∧ id ∉ (new.documents collection).keys :=
  mem_addedDocuments

/-- Unless digests collide, documents count as changed if they are different. -/
theorem mem_changedDocuments (told : old.DocumentsToldApart new) :
    id ∈ (between old new).changedDocuments ↔ ∃ collection previous document,
      old.document? collection id = some previous ∧ new.document? collection id = some document ∧
        previous ≠ document := by
  simp only [between, mem_inCollections, mem_alteredDocuments]
  constructor
  · rintro ⟨collection, previous, document, found_before, found, differ, -⟩
    exact ⟨collection, previous, document, found_before, found, differ⟩
  · rintro ⟨collection, previous, document, found_before, found, differ⟩
    exact ⟨collection, previous, document, found_before, found, differ,
      told collection id previous document found_before found
        (Document.text_injective.ne differ)⟩

/-- A document that changed one way changed the other way, too. -/
theorem mem_changedDocuments_comm :
    id ∈ (between new old).changedDocuments ↔ id ∈ (between old new).changedDocuments := by
  have turned {old new : Documents} (listed : id ∈ alteredDocuments old new) :
      id ∈ alteredDocuments new old := by
    obtain ⟨previous, document, found_before, found, differ, digests_differ⟩ :=
      mem_alteredDocuments.mp listed
    exact mem_alteredDocuments.mpr
      ⟨document, previous, found, found_before, differ.symm, digests_differ.symm⟩
  simp only [between, mem_inCollections]
  -- even if digests collide, both ways compare the same two
  exact exists_congr fun _ => ⟨turned, turned⟩

/-! ## References that came and went -/

section References

variable {α : Type} [DecidableEq α] {before after : List α} {item : α}

theorem mem_missingFrom {items others : List α} :
    item ∈ missingFrom items others ↔ item ∈ items ∧ item ∉ others := by
  simp [missingFrom]

/-- Some items were there and went, others came, and these lead from one list to another. -/
structure Carries (removed added before after : List α) : Prop where
  mem_iff : ∀ item, item ∈ after ↔ (item ∈ before ∧ item ∉ removed) ∨ item ∈ added
  removed_there : ∀ item ∈ removed, item ∈ before
  added_new : ∀ item ∈ added, item ∉ before

theorem carries_missingFrom (before after : List α) :
    Carries (missingFrom before after) (missingFrom after before) before after where
  mem_iff item := by
    simp only [mem_missingFrom]
    constructor
    · intro present
      by_cases known : item ∈ before
      · exact Or.inl ⟨known, fun gone => gone.2 present⟩
      · exact Or.inr ⟨present, known⟩
    · rintro (⟨known, stays⟩ | ⟨present, -⟩)
      · exact Decidable.byContradiction fun absent => stays ⟨known, absent⟩
      · exact present
  removed_there item gone := (mem_missingFrom.mp gone).1
  added_new item came := (mem_missingFrom.mp came).2

/-- Nothing came and nothing went exactly if the lists are the same up to order. -/
theorem missingFrom_nil_iff (before_nodup : before.Nodup) (after_nodup : after.Nodup) :
    missingFrom after before = [] ∧ missingFrom before after = [] ↔ before.Perm after := by
  simp only [List.eq_nil_iff_forall_not_mem, mem_missingFrom, not_and,
    Decidable.not_not, List.perm_ext_iff_of_nodup before_nodup after_nodup]
  exact ⟨fun kept item => ⟨kept.2 item, kept.1 item⟩,
    fun same => ⟨fun item => (same item).mpr, fun item => (same item).mp⟩⟩

end References

/-! ## Both ways -/

/-- The difference read the other way. -/
def reversed (difference : ProjectDiff) : ProjectDiff :=
  { difference with
    addedDocuments := difference.removedDocuments
    removedDocuments := difference.addedDocuments
    addedMetadataReferences := difference.removedMetadataReferences
    removedMetadataReferences := difference.addedMetadataReferences
    addedProjectReferences := difference.removedProjectReferences
    removedProjectReferences := difference.addedProjectReferences }

/-- The way back lists what the way there lists, though perhaps the documents that changed in
another order. -/
theorem between_comm (old new : Project) : between new old =
    { (between old new).reversed with
      changedDocuments := (between new old).changedDocuments } := by
  have analyzers : decide (new.analyzerReferences ≠ old.analyzerReferences) =
      decide (old.analyzerReferences ≠ new.analyzerReferences) :=
    decide_eq_decide.mpr ne_comm
  have properties : (!new.properties.same old.properties) =
      !old.properties.same new.properties := by
    rw [Properties.same_comm]
  simp only [between, reversed, analyzers, properties]

/-! ## Nothing listed -/

theorem documents_perm_iff {old new : Documents} : old.entries.Perm new.entries ↔
    (∀ id, id ∈ old.keys ↔ id ∈ new.keys) ∧ ∀ id previous document,
      old.get? id = some previous → new.get? id = some document → previous = document := by
  have distinct (documents : Documents) : documents.entries.Nodup :=
    (List.pairwise_map.mp documents.keys_nodup).imp fun differ same =>
      differ (congrArg Prod.fst same)
  -- with no entry twice, the order is all that may differ between lists with the same members
  rw [List.perm_ext_iff_of_nodup (distinct old) (distinct new)]
  simp only [Prod.forall, ← OrderedMap.get?_eq_some_iff, OrderedMap.mem_keys_iff]
  constructor
  · intro same
    refine ⟨fun id => exists_congr (same id), fun id previous document found_before found => ?_⟩
    rw [same id previous, found] at found_before
    exact (Option.some.inj found_before).symm
  · rintro ⟨same_keys, same_found⟩ id document
    constructor
    · intro found_before
      obtain ⟨other, found⟩ := (same_keys id).mp ⟨document, found_before⟩
      rw [found, same_found id document other found_before found]
    · intro found
      obtain ⟨previous, found_before⟩ := (same_keys id).mpr ⟨document, found⟩
      rw [found_before, same_found id previous document found_before found]

/-- No documents are listed exactly if each collection has the same ones. -/
theorem documents_clean_iff (told : old.DocumentsToldApart new) :
    ((∀ id, id ∉ (between old new).addedDocuments) ∧
      (∀ id, id ∉ (between old new).removedDocuments) ∧
      ∀ id, id ∉ (between old new).changedDocuments) ↔
    ∀ collection, (old.documents collection).entries.Perm (new.documents collection).entries := by
  simp only [mem_addedDocuments, mem_removedDocuments, mem_changedDocuments told,
    documents_perm_iff]
  constructor
  · rintro ⟨none_came, none_went, none_changed⟩ collection
    refine ⟨fun id => ⟨fun known => ?_, fun known => ?_⟩, ?_⟩
    · exact Decidable.byContradiction fun gone => none_went id ⟨collection, known, gone⟩
    · exact Decidable.byContradiction fun new_there => none_came id ⟨collection, known, new_there⟩
    · intro id previous document found_before found
      exact Decidable.byContradiction fun differ =>
        none_changed id ⟨collection, previous, document, found_before, found, differ⟩
  · intro same
    refine ⟨?_, ?_, ?_⟩
    · rintro id ⟨collection, known, absent⟩
      exact absent (((same collection).1 id).mpr known)
    · rintro id ⟨collection, known, absent⟩
      exact absent (((same collection).1 id).mp known)
    · rintro id ⟨collection, previous, document, found_before, found, differ⟩
      exact differ ((same collection).2 id previous document found_before found)

theorem isClean_iff {difference : ProjectDiff} : difference.isClean = true ↔
    ((∀ id, id ∉ difference.addedDocuments) ∧ (∀ id, id ∉ difference.removedDocuments) ∧
      ∀ id, id ∉ difference.changedDocuments) ∧
    (difference.addedMetadataReferences = [] ∧ difference.removedMetadataReferences = []) ∧
    (difference.addedProjectReferences = [] ∧ difference.removedProjectReferences = []) ∧
    difference.analyzersChanged = false ∧ difference.propertiesChanged = false := by
  simp only [isClean, Bool.and_eq_true, OrderedSet.isEmpty_iff_forall_not_mem, List.isEmpty_iff,
    Bool.not_eq_true', and_assoc]

/-- Unless digests of different documents collide, the difference between two versions of a
project lists exactly the documents that came, went and changed, and the references by which one
becomes the other; it is the same difference when it is read the other way; and it is clean exactly
if the versions agree up to the order of documents, metadata references and project references. -/
theorem between_carries_and_reverses (old new : Project)
    (old_metadata : old.metadataReferences.Nodup) (new_metadata : new.metadataReferences.Nodup)
    (old_projects : old.projectReferences.Nodup) (new_projects : new.projectReferences.Nodup)
    (told : old.DocumentsToldApart new) :
    let difference := between old new
    (∀ id, id ∈ difference.addedDocuments ↔ ∃ collection,
      id ∈ (new.documents collection).keys ∧ id ∉ (old.documents collection).keys) ∧
    (∀ id, id ∈ difference.removedDocuments ↔ ∃ collection,
      id ∈ (old.documents collection).keys ∧ id ∉ (new.documents collection).keys) ∧
    (∀ id, id ∈ difference.changedDocuments ↔ ∃ collection previous document,
      old.document? collection id = some previous ∧ new.document? collection id = some document ∧
        previous ≠ document) ∧
    Carries difference.removedMetadataReferences difference.addedMetadataReferences
      old.metadataReferences new.metadataReferences ∧
    Carries difference.removedProjectReferences difference.addedProjectReferences
      old.projectReferences new.projectReferences ∧
    (between new old =
      { difference.reversed with changedDocuments := (between new old).changedDocuments } ∧
      ∀ id, id ∈ (between new old).changedDocuments ↔ id ∈ difference.changedDocuments) ∧
    (difference.isClean = true ↔
      (∀ collection,
        (old.documents collection).entries.Perm (new.documents collection).entries) ∧
      old.metadataReferences.Perm new.metadataReferences ∧
      old.projectReferences.Perm new.projectReferences ∧
      old.analyzerReferences = new.analyzerReferences ∧
      old.properties.name = new.properties.name ∧
      old.properties.assemblyName = new.properties.assemblyName ∧
      old.properties.filePath? = new.properties.filePath? ∧
      old.properties.outputPath? = new.properties.outputPath? ∧
      old.properties.outputReferencePath? = new.properties.outputReferencePath? ∧
      old.properties.compilationOptions.same new.properties.compilationOptions = true ∧
      old.properties.parseOptions.same new.properties.parseOptions = true) := by
  intro difference
  refine ⟨fun _ => mem_addedDocuments, fun _ => mem_removedDocuments,
    fun _ => mem_changedDocuments told, carries_missingFrom _ _, carries_missingFrom _ _,
    ⟨between_comm old new, fun _ => mem_changedDocuments_comm⟩, ?_⟩
  have metadata : difference.addedMetadataReferences = [] ∧
      difference.removedMetadataReferences = [] ↔
        old.metadataReferences.Perm new.metadataReferences :=
    missingFrom_nil_iff old_metadata new_metadata
  have projects : difference.addedProjectReferences = [] ∧
      difference.removedProjectReferences = [] ↔
        old.projectReferences.Perm new.projectReferences :=
    missingFrom_nil_iff old_projects new_projects
  have analyzers : difference.analyzersChanged = false ↔
      old.analyzerReferences = new.analyzerReferences := by
    simp [difference, between]
  have properties : difference.propertiesChanged = false ↔
      old.properties.same new.properties = true := by
    simp [difference, between]
  rw [isClean_iff, documents_clean_iff told, metadata, projects, analyzers, properties]
  simp only [Properties.same, Bool.and_eq_true, beq_iff_eq, and_assoc]

/-- A file before and after it was loaded anew. -/
def loadedTwice (generation : UInt32) : Document :=
  { Document.ofFile ⟨.ofNat 1⟩ "/a" .regular [] with loader := .file "/a" generation }

theorem digest_loadedTwice_ne : (loadedTwice 0).digest ≠ (loadedTwice 1).digest := by
  rw [Document.digest_eq, Document.digest_eq]
  decide +kernel

/-- A project with two source documents. -/
def beforeMove : Project :=
  { Project.ofInfo ⟨⟨.ofNat 9⟩, "C#", { name := "P", assemblyName := "P" }⟩ with
    sources := .ofList [(⟨.ofNat 1⟩, loadedTwice 0),
      (⟨.ofNat 2⟩, .ofFile ⟨.ofNat 2⟩ "/b" .regular [])]
    metadataReferences := [{ path := "/x.dll" }, { path := "/y.dll" }] }

/-- One of the documents was loaded anew, and the other has moved to the additional ones. -/
def afterMove : Project :=
  { beforeMove with
    sources := .ofList [(⟨.ofNat 1⟩, loadedTwice 1)]
    additional := .ofList [(⟨.ofNat 2⟩, .ofFile ⟨.ofNat 2⟩ "/b" .regular [])]
    metadataReferences := [{ path := "/y.dll" }, { path := "/z.dll" }] }

theorem documentsToldApart_move : beforeMove.DocumentsToldApart afterMove := by
  intro collection id previous document found_before found _
  cases collection with
  | additional => cases found_before
  | source =>
    have here : (id, document) ∈ afterMove.sources.entries := OrderedMap.get?_eq_some_iff.mp found
    obtain ⟨rfl, rfl⟩ := Prod.mk.inj (List.mem_singleton.mp here)
    obtain rfl : loadedTwice 0 = previous := Option.some.inj found_before
    exact digest_loadedTwice_ne

theorem between_beforeMove_afterMove :
    beforeMove.DocumentsToldApart afterMove ∧
    ⟨.ofNat 1⟩ ∈ (between beforeMove afterMove).changedDocuments ∧
    ⟨.ofNat 2⟩ ∈ (between beforeMove afterMove).addedDocuments ∧
    ⟨.ofNat 2⟩ ∈ (between beforeMove afterMove).removedDocuments ∧
    ⟨.ofNat 1⟩ ∈ (between afterMove beforeMove).changedDocuments ∧
    (between beforeMove afterMove).isClean = false := by
  obtain ⟨added_iff, removed_iff, changed_iff, -, -, ⟨-, both_ways⟩, clean_iff⟩ :=
    between_carries_and_reverses beforeMove afterMove (by decide) (by decide) (by decide)
      (by decide) documentsToldApart_move
  have changed : ⟨.ofNat 1⟩ ∈ (between beforeMove afterMove).changedDocuments :=
    (changed_iff _).mpr ⟨.source, loadedTwice 0, loadedTwice 1, rfl, rfl, by decide⟩
  refine ⟨documentsToldApart_move, changed, (added_iff _).mpr ⟨.additional, by decide⟩,
    (removed_iff _).mpr ⟨.source, by decide⟩, (both_ways _).mpr changed, ?_⟩
  rw [Bool.eq_false_iff, ne_eq, clean_iff]
  intro same
  exact absurd (same.1 .source).length_eq (by decide)

end ProjectDiff

end CodeWorkspace
