import CodeWorkspace.Proofs.Json.Reading
import CodeWorkspace.Proofs.Schema.Decoding
import CodeWorkspace.Proofs.Snapshot.Replacing
import CodeWorkspace.Schema.Snapshot
import CodeWorkspace.Snapshot.Operation
import Mathlib

/-!
# What is written in JSON reads back

Every description of a project, document, reference and property reads back from its JSON form, and
a snapshot reads back with all its projects, whose references are then held directly.  Only options
may be too deep to be read, or hold a double, which need not come back as it was.
-/

namespace CodeWorkspace

open Json (Tree Decoder Record)

/-! ## Identities, words and texts -/

theorem ProjectId.parse?_text (id : ProjectId) : parse? id.text = some id := by
  rw [parse?, text, Uuid.parse?_text]
  rfl

theorem DocumentId.parse?_text (id : DocumentId) : parse? id.text = some id := by
  rw [parse?, text, Uuid.parse?_text]
  rfl

theorem ProjectId.reads (id : ProjectId) : decoder.Reads id.tree id :=
  (Decoder.reads_text id.text).andThen id.parse?_text

theorem DocumentId.reads (id : DocumentId) : decoder.Reads id.tree id :=
  (Decoder.reads_text id.text).andThen id.parse?_text

theorem BufferId.reads (buffer : BufferId) : decoder.Reads buffer.tree buffer := by
  have read := (Decoder.reads_natural buffer.number.toNat_lt_size).map fun number =>
    (⟨UInt64.ofNat number⟩ : BufferId)
  rwa [UInt64.ofNat_toNat] at read

theorem SourceKind.reads (kind : SourceKind) : decoder.Reads kind.tree kind :=
  Decoder.reads_oneOf (by cases kind <;> decide)

theorem ReferenceKind.reads (kind : ReferenceKind) : decoder.Reads kind.tree kind :=
  Decoder.reads_oneOf (by cases kind <;> decide)

theorem reads_texts (texts : List String) :
    (Decoder.list Decoder.text).Reads (textsTree texts) texts :=
  .list fun text _ => Decoder.reads_text text

theorem depth_textsTree (texts : List String) : (textsTree texts).depth = 1 := by
  have flat : Tree.itemDepth (texts.map Tree.text) = 0 := by
    induction texts with
    | nil => rfl
    | cons text rest ih => simp [Tree.itemDepth, Tree.text, Tree.depth, ih]
  rw [textsTree, Tree.depth, flat]

/-! ## References -/

theorem ReferenceProperties.reads (properties : ReferenceProperties) :
    decoder.Reads properties.tree properties := by
  refine Decoder.reads_record rfl (by decide) fun record _ holds => ?_
  simp only [List.forall_mem_cons] at holds
  obtain ⟨kind, aliases, embed, -⟩ := holds
  rw [ofRecord, kind.required (ReferenceKind.reads _), aliases.required (reads_texts _),
    embed.required (Decoder.reads_bool _)]
  rfl

theorem MetadataReference.reads (reference : MetadataReference) :
    decoder.Reads reference.tree reference := by
  refine Decoder.reads_record rfl (by decide) fun record _ holds => ?_
  simp only [List.forall_mem_cons] at holds
  obtain ⟨path, properties, -⟩ := holds
  rw [ofRecord, path.required (Decoder.reads_text _),
    properties.required (ReferenceProperties.reads _)]
  rfl

theorem ProjectReference.reads (reference : ProjectReference) :
    decoder.Reads reference.tree reference := by
  refine Decoder.reads_record rfl (by decide) fun record _ holds => ?_
  simp only [List.forall_mem_cons] at holds
  obtain ⟨target, aliases, embed, -⟩ := holds
  rw [ofRecord, target.required (ProjectId.reads _), aliases.required (reads_texts _),
    embed.required (Decoder.reads_bool _)]
  rfl

theorem AnalyzerReference.reads (reference : AnalyzerReference) :
    decoder.Reads reference.tree reference := by
  refine Decoder.reads_record rfl (by decide) fun record _ holds => ?_
  simp only [List.forall_mem_cons] at holds
  obtain ⟨path, -⟩ := holds
  rw [ofRecord, path.required (Decoder.reads_text _)]
  rfl

theorem MetadataReference.depth_tree (reference : MetadataReference) :
    reference.tree.depth = 3 := by
  simp [tree, ReferenceProperties.tree, ReferenceKind.tree, Tree.record, Tree.text, Tree.depth,
    Tree.memberDepth, depth_textsTree]

theorem ProjectReference.depth_tree (reference : ProjectReference) : reference.tree.depth = 2 := by
  simp [tree, ProjectId.tree, Tree.record, Tree.text, Tree.depth, Tree.memberDepth,
    depth_textsTree]

theorem AnalyzerReference.depth_tree (reference : AnalyzerReference) :
    reference.tree.depth = 1 := rfl

/-! ## Documents -/

namespace Loader

/-- A loader is read if the members behind its kind are, since all of them are values. -/
theorem reads_tagged {source : Source} {word : String} {fields : List (String × Tree)}
    {loader : Loader} (tagged : Decoder.word sources 0 (.text word) = some source)
    (others : ∀ field ∈ fields, field.1 ≠ "source")
    (values : ∀ depth, ∀ field ∈ fields, ∃ value, Json.Value.read? depth field.2 = some value)
    (reads : (Decoder.record .ignored source.fieldNames (ofRecord source)).Reads (.record fields)
      loader) :
    decoder.Reads (.record (("source", .text word) :: fields)) loader := by
  intro depth shallow
  match depth, shallow with
  | depth + 1, shallow =>
    have readable : ∀ field ∈ ("source", Tree.text word) :: fields,
        ∃ value, Json.Value.read? depth field.2 = some value :=
      List.forall_mem_cons.mpr ⟨⟨.string word, rfl⟩, values depth⟩
    obtain ⟨read, read_eq⟩ := Json.Value.exists_readMembers? readable
    have apart : ∀ member ∈ fields.map fun field => (some field.1, field.2),
        ¬ member.1 = some "source" := by
      intro member member_mem
      obtain ⟨field, field_mem, rfl⟩ := List.mem_map.mp member_mem
      exact fun same => others field field_mem (Option.some.inj same)
    have divided : ((("source", Tree.text word) :: fields).map fun field =>
        (some field.1, field.2)).partition (fun member => member.1 = some "source") =
          ([(some "source", .text word)], fields.map fun field => (some field.1, field.2)) := by
      rw [List.partition_eq_filter_filter, List.map_cons, List.filter_cons_of_pos (by simp),
        List.filter_cons_of_neg (by simp),
        List.filter_eq_nil_iff.mpr fun member member_mem => by simpa using apart member member_mem,
        List.filter_eq_self.mpr fun member member_mem => by simpa using apart member member_mem]
    have fields_shallow : (Tree.record fields).depth ≤ depth + 1 :=
      Nat.le_trans (Nat.succ_le_succ (Nat.le_max_right _ _)) shallow
    simp only [decoder, Tree.record, read_eq, divided, bind, Option.bind_some]
    rw [show Decoder.word sources depth (.text word) = some source from tagged]
    exact reads (depth + 1) fields_shallow

theorem reads_fileFields (path : String) (generation : UInt32) :
    (Decoder.record .ignored Source.file.fieldNames (ofRecord .file)).Reads
      (.record [("path", .text path), ("generation", .natural generation.toNat)])
      (.file path generation) := by
  refine Decoder.reads_record rfl (by decide) fun record _ holds => ?_
  simp only [List.forall_mem_cons] at holds
  obtain ⟨path_holds, generation_holds, -⟩ := holds
  rw [ofRecord, path_holds.required (Decoder.reads_text _),
    generation_holds.required (Decoder.reads_natural generation.toNat_lt_size)]
  simp only [bind, Option.bind_some, UInt32.ofNat_toNat]
  rfl

theorem reads_bufferFields (held : BufferId) :
    (Decoder.record .ignored Source.buffer.fieldNames (ofRecord .buffer)).Reads
      (.record [("buffer", held.tree)]) (.buffer held) := by
  refine Decoder.reads_record rfl (by decide) fun record _ holds => ?_
  simp only [List.forall_mem_cons] at holds
  obtain ⟨holds, -⟩ := holds
  rw [ofRecord, holds.required held.reads]
  rfl

theorem reads (loader : Loader) : decoder.Reads loader.tree loader := by
  cases loader with
  | file path generation =>
    have small : generation.toNat < 0x10000000000000000 :=
      Nat.lt_trans generation.toNat_lt_size (by decide)
    refine reads_tagged rfl (by simp) (fun depth => ?_) (reads_fileFields path generation)
    simp only [List.forall_mem_cons]
    exact ⟨⟨.string path, rfl⟩, ⟨_, Json.Value.read?_natural depth small⟩, by simp⟩
  | buffer held =>
    refine reads_tagged rfl (by simp) (fun depth => ?_) (reads_bufferFields held)
    simp only [List.forall_mem_cons]
    exact ⟨⟨_, Json.Value.read?_natural depth held.number.toNat_lt_size⟩, by simp⟩

end Loader

theorem Document.reads (document : Document) : decoder.Reads document.tree document := by
  refine Decoder.reads_record rfl (by decide) fun record _ holds => ?_
  simp only [List.forall_mem_cons] at holds
  obtain ⟨id, name, path, folders, kind, loader, -⟩ := holds
  rw [ofRecord, id.required (DocumentId.reads _), name.required (Decoder.reads_text _),
    path.optional (Decoder.reads_nullable_text _), folders.required (reads_texts _),
    kind.required (SourceKind.reads _), loader.required (Loader.reads _)]
  rfl

theorem Document.depth_tree (document : Document) : document.tree.depth = 2 := by
  have loader_depth : document.loader.tree.depth = 1 := by cases document.loader <;> rfl
  have path_depth : (pathTree document.path?).depth = 0 := by cases document.path? <;> rfl
  simp [tree, DocumentId.tree, SourceKind.tree, Tree.record, Tree.text, Tree.depth,
    Tree.memberDepth, depth_textsTree, loader_depth, path_depth]

/-! ## Options and properties -/

/-- Whether options have no double in them. -/
def Options.doubleFree (options : Options) : Bool := options.value.doubleFree

/-- Whether the value of a property has no double in it. -/
def Property.doubleFree (property : Property) : Bool :=
  property.options?.all Options.doubleFree

/-- Whether no property has a double in its value. -/
def Properties.doubleFree (properties : Properties) : Bool :=
  properties.compilationOptions.doubleFree && properties.parseOptions.doubleFree

theorem Options.reads {options : Options} (free : options.doubleFree = true) :
    decoder.Reads options.tree options := by
  intro depth shallow
  have read := Json.Value.read?_tree options.canonical free shallow
  simp only [decoder, tree]
  split
  · rename_i failed
    rw [failed] at read
    cases read
  · rename_i value found
    rw [read] at found
    cases found
    rfl

/-- The word for a property leads to a reader that reads the value of the property. -/
theorem Property.exists_reader {property : Property} (free : property.doubleFree = true) :
    ∃ read, (readers.find? fun entry => entry.1 = property.word).map Prod.snd = some read ∧
      ∀ record : Record, record.Holds "value" property.valueTree → read record = some property := by
  cases property with
  | assemblyName name | displayName name =>
    refine ⟨_, rfl, fun record value => ?_⟩
    simp only [value.required (Decoder.reads_text name), Option.map_some]
  | filePath path? | outputPath path? | outputReferencePath path? =>
    refine ⟨_, rfl, fun record value => ?_⟩
    simp only [value.optional (Decoder.reads_nullable_text path?), Option.map_some]
  | compilationOptions options | parseOptions options =>
    refine ⟨_, rfl, fun record value => ?_⟩
    simp only [value.required (Options.reads free), Option.map_some]

theorem Property.reads {property : Property} (free : property.doubleFree = true) :
    decoder.Reads property.tree property := by
  obtain ⟨read, read_eq, reads⟩ := exists_reader free
  refine Decoder.reads_record rfl (by decide) fun record named holds => ?_
  simp only [List.forall_mem_cons] at holds
  obtain ⟨word, value, -⟩ := holds
  rw [ofRecord, named]
  simp only [if_true, word.required (Decoder.reads_oneOf read_eq), bind, Option.bind_some]
  exact reads record value

namespace ProjectInfo

theorem ofRecord_of_holds {info : ProjectInfo} (free : info.properties.doubleFree = true)
    {record : Record} (holds : ∀ field ∈ info.members, record.Holds field.1 field.2) :
    ofRecord record = some info := by
  simp only [Properties.doubleFree, Bool.and_eq_true] at free
  simp only [members, List.forall_mem_cons] at holds
  obtain ⟨id, language, name, assemblyName, filePath, outputPath, outputReferencePath,
    compilationOptions, parseOptions, -⟩ := holds
  rw [ofRecord, id.required (ProjectId.reads _), language.required (Decoder.reads_text _),
    name.required (Decoder.reads_text _), assemblyName.required (Decoder.reads_text _),
    filePath.optional (Decoder.reads_nullable_text _),
    outputPath.optional (Decoder.reads_nullable_text _),
    outputReferencePath.optional (Decoder.reads_nullable_text _),
    compilationOptions.required (Options.reads free.1),
    parseOptions.required (Options.reads free.2)]
  rfl

theorem reads {info : ProjectInfo} (free : info.properties.doubleFree = true) :
    decoder.Reads info.tree info :=
  Decoder.reads_record rfl (by decide) fun _ _ holds => ofRecord_of_holds free holds

end ProjectInfo

/-! ## Projects and snapshots -/

theorem Documents.reads (documents : Documents) : decoder.Reads documents.tree documents := by
  have entries_read : (Decoder.pairs DocumentId.parse? Document.decoder).Reads documents.tree
      (documents.entries.map fun entry => (entry.1, id entry.2)) :=
    .pairs DocumentId.parse?_text fun entry _ => entry.2.reads
  have read := entries_read.map OrderedMap.ofList
  simp only [id, List.map_id', OrderedMap.ofList_entries] at read
  exact read

namespace Project

/-- A project as it reads back: what was recorded of the holders of its references is lost. -/
def unrecorded (project : Project) : Project := { project with holders := .empty }

theorem reads {project : Project} (free : project.properties.doubleFree = true) :
    decoder.Reads project.tree project.unrecorded := by
  refine Decoder.reads_record rfl (by decide) fun record _ holds => ?_
  rw [List.forall_mem_append] at holds
  obtain ⟨described, holds⟩ := holds
  simp only [List.forall_mem_cons] at holds
  obtain ⟨sources, additional, metadata, projects, analyzers, -⟩ := holds
  rw [ofRecord, ProjectInfo.ofRecord_of_holds free described,
    sources.required (Documents.reads _), additional.required (Documents.reads _),
    metadata.required (.list fun reference _ => reference.reads),
    projects.required (.list fun reference _ => reference.reads),
    analyzers.required (.list fun reference _ => reference.reads)]
  rfl

end Project

namespace Snapshot

/-- Whether no options of any project have a double in them. -/
def doubleFree (snapshot : Snapshot) : Bool :=
  snapshot.projects.all fun project => project.properties.doubleFree

theorem contents_ofContents (version : UInt64) {contents : List (ProjectId × Project)}
    (distinct : (contents.map Prod.fst).Nodup) :
    (ofContents version contents).contents = contents ∧
      (ofContents version contents).version = version := by
  have along (start : Snapshot)
      (distinct : (start.ids ++ contents.map Prod.fst).Nodup) :
      let reached := contents.foldl (fun snapshot entry => snapshot.write entry.1 entry.2) start
      reached.contents = start.contents ++ contents ∧ reached.version = start.version := by
    induction contents generalizing start with
    | nil => exact ⟨(List.append_nil _).symm, rfl⟩
    | cons entry rest ih =>
      rw [List.map_cons] at distinct
      have fresh : start.contains entry.1 = false := by
        rw [List.nodup_append] at distinct
        refine Bool.eq_false_iff.mpr fun known => ?_
        exact distinct.2.2 _ (mem_ids_iff.mpr known) _ List.mem_cons_self rfl
      have written := contents_write_of_absent fresh entry.2
      have distinct_then : ((start.write entry.1 entry.2).ids ++ rest.map Prod.fst).Nodup := by
        rw [← keys_contents, written, List.map_append, keys_contents, List.append_assoc]
        exact distinct
      obtain ⟨contents_eq, version_eq⟩ :=
        ih (List.nodup_cons.mp (List.nodup_append.mp distinct).2.1).2 _ distinct_then
      rw [written, List.append_assoc] at contents_eq
      exact ⟨contents_eq, version_eq⟩
  exact along (empty.withVersion version) distinct

theorem reads {snapshot : Snapshot} (free : snapshot.doubleFree = true) :
    decoder.Reads snapshot.tree (ofContents snapshot.version
      (snapshot.contents.map fun entry => (entry.1, entry.2.unrecorded))) := by
  have projects_read : (Decoder.pairs ProjectId.parse? Project.decoder).Reads
      (.record (snapshot.contents.map fun entry => (entry.1.text, entry.2.tree)))
      (snapshot.contents.map fun entry => (entry.1, entry.2.unrecorded)) := by
    refine .pairs ProjectId.parse?_text fun entry entry_mem => Project.reads ?_
    rw [doubleFree, List.all_eq_true, projects_eq_contents] at free
    exact free entry.2 (List.mem_map_of_mem entry_mem)
  refine Decoder.reads_record rfl (by decide) fun record _ holds => ?_
  simp only [List.forall_mem_cons] at holds
  obtain ⟨version, projects, -⟩ := holds
  rw [ofRecord, version.required (Decoder.reads_natural snapshot.version.toNat_lt_size),
    projects.required projects_read]
  simp only [bind, Option.bind_some, UInt64.ofNat_toNat]
  rfl

theorem contents_read (snapshot : Snapshot) :
    let read := ofContents snapshot.version
      (snapshot.contents.map fun entry => (entry.1, entry.2.unrecorded))
    read.contents = snapshot.contents.map (fun entry => (entry.1, entry.2.unrecorded)) ∧
      read.version = snapshot.version := by
  apply contents_ofContents
  have same_keys : (snapshot.contents.map fun entry => (entry.1, entry.2.unrecorded)).map Prod.fst =
      snapshot.contents.map Prod.fst := by
    rw [List.map_map]
    rfl
  rw [same_keys, keys_contents]
  exact snapshot.ids_nodup

/-- A snapshot with the same projects, but for the holders of their references, is written in the
same way. -/
theorem tree_of_unrecorded {snapshot read : Snapshot} (version_eq : read.version = snapshot.version)
    (contents_eq : read.contents =
      snapshot.contents.map fun entry => (entry.1, entry.2.unrecorded)) :
    read.tree = snapshot.tree := by
  rw [tree, tree, version_eq, contents_eq, List.map_map]
  rfl

theorem isHeldBy_unrecorded {project : Project} {reference : ProjectReference}
    (present : reference ∈ project.projectReferences) :
    project.unrecorded.isHeldBy reference .direct = true ∧
      project.unrecorded.isHeldBy reference .converted = false := by
  have holders_eq : project.unrecorded.holdersOf reference = {} := rfl
  have still_there : reference ∈ project.unrecorded.projectReferences := present
  simp [Project.isHeldBy, holders_eq, still_there, Holders.includes]

end Snapshot

/-- The compact JSON text of any snapshot that operations lead to, with options that hold no
doubles and are not too deep, reads back as a snapshot with the same version and the same projects
in the same order, each with the same properties, documents and references; every reference is then
held directly and not otherwise, and the text of what was read is the same again.  Likewise every
description of a project, every document, every reference and every property reads back as it
was. -/
theorem reads_back_from_text :
    (∀ operations, let snapshot := Snapshot.empty.performAll operations
      snapshot.doubleFree = true → snapshot.tree.depth ≤ Json.depthLimit →
      ∃ read, (Tree.parse? snapshot.tree.compact).bind Snapshot.decoder.decode? = some read ∧
        read.version = snapshot.version ∧
        read.contents =
          snapshot.contents.map (fun entry => (entry.1, { entry.2 with holders := .empty })) ∧
        (∀ id project, read.project? id = some project →
          ∀ reference ∈ project.projectReferences, project.isHeldBy reference .direct = true ∧
            project.isHeldBy reference .converted = false) ∧
        read.tree.compact = snapshot.tree.compact) ∧
    (∀ info : ProjectInfo, info.properties.doubleFree = true → info.tree.depth ≤ Json.depthLimit →
      (Tree.parse? info.tree.compact).bind ProjectInfo.decoder.decode? = some info) ∧
    (∀ document : Document,
      (Tree.parse? document.tree.compact).bind Document.decoder.decode? = some document) ∧
    (∀ reference : MetadataReference,
      (Tree.parse? reference.tree.compact).bind MetadataReference.decoder.decode? =
        some reference) ∧
    (∀ reference : ProjectReference,
      (Tree.parse? reference.tree.compact).bind ProjectReference.decoder.decode? =
        some reference) ∧
    (∀ reference : AnalyzerReference,
      (Tree.parse? reference.tree.compact).bind AnalyzerReference.decoder.decode? =
        some reference) ∧
    ∀ property : Property, property.doubleFree = true → property.tree.depth ≤ Json.depthLimit →
      (Tree.parse? property.tree.compact).bind Property.decoder.decode? = some property := by
  have of_reads {α : Type} {decoder : Decoder α} {tree : Tree} {value : α}
      (reads : decoder.Reads tree value) (shallow : tree.depth ≤ Json.depthLimit) :
      (Tree.parse? tree.compact).bind decoder.decode? = some value := by
    rw [Tree.parse?_compact]
    exact reads.decode? shallow
  refine ⟨fun operations => ?_, fun info free => of_reads (ProjectInfo.reads free),
    fun document => of_reads document.reads ?_, fun reference => of_reads reference.reads ?_,
    fun reference => of_reads reference.reads ?_, fun reference => of_reads reference.reads ?_,
    fun property free => of_reads (Property.reads free)⟩
  · intro snapshot free shallow
    obtain ⟨contents_eq, version_eq⟩ := snapshot.contents_read
    refine ⟨_, of_reads (Snapshot.reads free) shallow, version_eq, contents_eq, ?_,
      congrArg Tree.compact (Snapshot.tree_of_unrecorded version_eq contents_eq)⟩
    intro id project found reference present
    rw [← Snapshot.mem_contents_iff, contents_eq] at found
    obtain ⟨entry, _, entry_eq⟩ := List.mem_map.mp found
    cases entry_eq
    exact Snapshot.isHeldBy_unrecorded present
  · rw [document.depth_tree]
    decide
  · rw [reference.depth_tree]
    decide
  · rw [reference.depth_tree]
    decide
  · rw [reference.depth_tree]
    decide

/-- Options with a list in them. -/
def nestedOptions : Options where
  value := .object [("strict", .bool true), ("warnings", .array [.integer (-3), .null])]
  canonical := by
    have fitting : Json.Value.fits (-3) = true := rfl
    have ordered : "strict" < "warnings" := by decide
    exact ⟨trivial, List.forall_mem_singleton.mpr ordered, ⟨fitting, trivial, trivial⟩,
      List.forall_mem_nil _, trivial⟩

/-- A reference to a project under another name. -/
def aliasedReference : ProjectReference := { target := ⟨.ofNat 2⟩, aliases := ["lib"] }

/-- A project with options, a file, a buffer and a converted reference to another one, which has a
reference to a file. -/
def twoProjects : List Snapshot.Operation :=
  [.addProject ⟨⟨.ofNat 1⟩, "C#", { name := "App \"1\"", assemblyName := "App\n" }⟩,
    .addProject ⟨⟨.ofNat 2⟩, "C#", { name := "Lib", assemblyName := "Lib" }⟩,
    .setProperty ⟨.ofNat 1⟩ (.compilationOptions nestedOptions),
    .addDocuments ⟨.ofNat 1⟩ .source
      [⟨⟨.ofNat 3⟩, "Main.cs", some "src/Main.cs", ["src"], .regular, .file "src/Main.cs" 0⟩],
    .addDocuments ⟨.ofNat 1⟩ .additional [.ofBuffer ⟨.ofNat 4⟩ ⟨7⟩ none .script []],
    .holdProjectReference ⟨.ofNat 1⟩ aliasedReference .converted,
    .addMetadataReference ⟨.ofNat 2⟩ { path := "lib/a.dll" }]

/-- A reference that was only converted is held directly when it is read back. -/
theorem reads_back_twoProjects :
    let snapshot := Snapshot.empty.performAll twoProjects
    snapshot.doubleFree = true ∧ snapshot.tree.depth ≤ Json.depthLimit ∧
      ∃ read, (Tree.parse? snapshot.tree.compact).bind Snapshot.decoder.decode? = some read ∧
        read.contents =
          snapshot.contents.map (fun entry => (entry.1, { entry.2 with holders := .empty })) ∧
        ∃ written found, snapshot.project? ⟨.ofNat 1⟩ = some written ∧
          read.project? ⟨.ofNat 1⟩ = some found ∧ aliasedReference ∈ found.projectReferences ∧
          written.isHeldBy aliasedReference .direct = false ∧
          written.isHeldBy aliasedReference .converted = true ∧
          found.isHeldBy aliasedReference .direct = true ∧
          found.isHeldBy aliasedReference .converted = false := by
  have free : (Snapshot.empty.performAll twoProjects).doubleFree = true := by decide_cbv
  have shallow : (Snapshot.empty.performAll twoProjects).tree.depth ≤ Json.depthLimit := by
    decide_cbv
  have held : ((Snapshot.empty.performAll twoProjects).project? ⟨.ofNat 1⟩).any (fun project =>
      decide (aliasedReference ∈ project.projectReferences) &&
        !project.isHeldBy aliasedReference .direct &&
        project.isHeldBy aliasedReference .converted) = true := by
    decide_cbv
  obtain ⟨project, found, seen⟩ := (Option.any_eq_true _ _).mp held
  simp only [Bool.and_eq_true, Bool.not_eq_true', decide_eq_true_eq] at seen
  obtain ⟨⟨listed, undirected⟩, converted⟩ := seen
  obtain ⟨read, read_eq, _, contents_eq, directed, _⟩ :=
    reads_back_from_text.1 twoProjects free shallow
  have again_found : read.project? ⟨.ofNat 1⟩ = some { project with holders := .empty } := by
    rw [← Snapshot.mem_contents_iff, contents_eq]
    exact List.mem_map.mpr ⟨_, Snapshot.mem_contents_iff.mpr found, rfl⟩
  obtain ⟨direct, only⟩ := directed _ _ again_found _ listed
  exact ⟨free, shallow, read, read_eq, contents_eq, project, _, found, again_found, listed,
    undirected, converted, direct, only⟩

end CodeWorkspace
