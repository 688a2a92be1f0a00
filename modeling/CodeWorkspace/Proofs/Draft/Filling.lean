import CodeWorkspace.Proofs.Draft.Deferred
import CodeWorkspace.Proofs.Draft.Facade
import CodeWorkspace.Proofs.Manifest.Addition

/-!
# Drafts of empty projects

The draft of a project that was empty at first shows the additions that were made since then.  In a
batch all of them wait, in the order in which they were made.
-/

namespace CodeWorkspace

open Addition (documentsIn referencesIn linesIn analyzersIn)

/-- The action for an addition, with the watch on the file of a document. -/
def Addition.action (watch : WatchToken) : Addition → Draft.Action
  | .file collection path kind id => .insert collection (.ofFile id path kind []) none (some watch)
  | .metadata reference => .addMetadataReference reference
  | .project target => .addProjectReference { target }
  | .analyzer path => .addAnalyzer ⟨path⟩

namespace Draft

variable {comparison : PathComparison} {project : Project} {draft single batched : Draft}
  {done : List Addition} {addition : Addition} {watch : WatchToken}

/-- A draft shows exactly the additions that were made. -/
structure Holds (done : List Addition) (draft : Draft) : Prop where
  documents : ∀ collection, (draft.registry collection).tracked =
    (documentsIn collection done).map fun document => (document.id, document)
  metadata : draft.metadataReferences.elements = referencesIn done
  projects : draft.projectReferences.elements = linesIn done
  analyzers : draft.analyzerReferences.elements = analyzersIn done

theorem holds_ofInfo (comparison : PathComparison) (info : ProjectInfo) :
    Holds [] (.ofInfo comparison info) :=
  ⟨fun collection => by cases collection <;> rfl, rfl, rfl, rfl⟩

theorem Holds.of_sameFacade (holds : single.Holds done) (same : SameFacade single batched) :
    batched.Holds done where
  documents collection := (same.documents collection).tracked_eq.trans (holds.documents collection)
  metadata := by rw [same.metadata_eq, holds.metadata]
  projects := by rw [same.projects_eq, holds.projects]
  analyzers := by rw [same.analyzers_eq, holds.analyzers]

/-- No document of the draft is about to leave. -/
def Stays (draft : Draft) : Prop :=
  ∀ collection id entry, (draft.registry collection).entries.get? id = some entry →
    entry.state ≠ .pendingRemove

theorem stays_of_settled (mirrors : Mirrors comparison project draft)
    (settled : draft.hasPending = false) : draft.Stays := by
  intro collection id entry found leaves
  have waits := ((mirrors collection).mirrors.mem_removes id).mpr ⟨entry, found, leaves⟩
  rw [pendingRemoves_of_settled settled] at waits
  cases waits

/-- All documents of a draft wait to be added if the project has none. -/
theorem waiting_of_blank (mirrors : Mirrors comparison project draft)
    {collection : DocumentCollection} (blank : (project.documents collection).entries = []) :
    (draft.registry collection).waiting = (draft.registry collection).entries.entries := by
  have serves := (mirrors collection).mirrors
  have none_shown : (draft.registry collection).shown = [] := by
    have documents_eq := serves.documents_eq
    rw [blank] at documents_eq
    exact List.map_eq_nil_iff.mp documents_eq.symm
  rw [← serves.waiting_last, none_shown, List.nil_append]

theorem stays_of_blank (mirrors : Mirrors comparison project draft)
    (blank : ∀ collection, (project.documents collection).entries = []) : draft.Stays := by
  intro collection id entry found leaves
  have known := Registry.mem_entries_iff.mpr found
  rw [← waiting_of_blank mirrors (blank collection)] at known
  simp [Registry.waiting, RegistryEntry.isVisible, leaves] at known

theorem Holds.mem_ids (holds : draft.Holds done) (stays : draft.Stays) {id : DocumentId}
    (known : id ∈ draft.ids) : id ∈ done.flatMap fun addition => addition.edit.drawn := by
  obtain ⟨collection, known⟩ := Draft.mem_ids.mp known
  obtain ⟨entry, found⟩ := OrderedMap.mem_keys_iff.mp known
  have tracked : (id, entry.document) ∈ (draft.registry collection).tracked :=
    Registry.mem_tracked_iff.mpr ⟨entry, found, stays collection id entry found, rfl⟩
  rw [holds.documents] at tracked
  obtain ⟨document, added, pair_eq⟩ := List.mem_map.mp tracked
  obtain ⟨addition, addition_mem, adds⟩ := List.mem_filterMap.mp added
  refine List.mem_flatMap.mpr ⟨addition, addition_mem, ?_⟩
  cases addition with
  | file there path kind other =>
    rw [Addition.document?, Option.ite_none_right_eq_some] at adds
    have made : Document.ofFile other path kind [] = document := Option.some.inj adds.2
    subst made
    exact List.mem_singleton.mpr (congrArg Prod.fst pair_eq).symm
  | _ => cases adds

/-- An addition shows as soon as it is accepted. -/
theorem Holds.now (holds : draft.Holds done) (allowed : (addition.action watch).Allowed draft)
    (fresh : ∀ id ∈ addition.edit.drawn, id ∉ draft.ids) :
    ((addition.action watch).now draft).Holds (done ++ [addition]) := by
  obtain ⟨documents, metadata, projects, analyzers⟩ := holds
  refine ⟨fun there => ?_, ?_, ?_, ?_⟩
  · rw [Addition.documentsIn_concat, List.map_append, ← documents]
    cases addition with
    | file collection path kind id =>
      have absent : id ∉ (draft.registry collection).entries.keys := fun known =>
        fresh id (List.mem_singleton_self _) (Draft.mem_ids.mpr ⟨collection, known⟩)
      show ((draft.withRegistry _ collection).registry there).tracked = _
      by_cases same : there = collection
      · subst same
        rw [registry_withRegistry_self, Registry.tracked_insert absent (by decide)]
        simp [Addition.document?]
      · rw [registry_withRegistry_of_ne same]
        simp [Addition.document?, Ne.symm same]
    | _ => cases there <;> exact (List.append_nil _).symm
  · rw [Addition.referencesIn_concat, ← metadata]
    cases addition with
    | file collection _ _ _ => cases collection <;> exact (List.append_nil _).symm
    | metadata reference => exact OrderedSet.elements_insert_of_not_mem allowed
    | _ => exact (List.append_nil _).symm
  · rw [Addition.linesIn_concat, ← projects]
    cases addition with
    | file collection _ _ _ => cases collection <;> exact (List.append_nil _).symm
    | project target =>
      exact OrderedSet.elements_insert_of_not_mem (not_mem_of_referenceTo?_eq_none allowed)
    | _ => exact (List.append_nil _).symm
  · rw [Addition.analyzersIn_concat, ← analyzers]
    cases addition with
    | file collection _ _ _ => cases collection <;> exact (List.append_nil _).symm
    | analyzer path => exact OrderedSet.elements_insert_of_not_mem allowed
    | _ => exact (List.append_nil _).symm

theorem Holds.later (holds : draft.Holds done) (allowed : (addition.action watch).Allowed draft)
    (fresh : ∀ id ∈ addition.edit.drawn, id ∉ draft.ids) :
    ((addition.action watch).later draft).Holds (done ++ [addition]) := by
  refine (holds.now allowed fresh).of_sameFacade
    ((SameFacade.refl draft).act (.same _) allowed fun id drawn => ?_)
  have absent : id ∉ draft.ids := fresh id (by cases addition <;> exact drawn)
  exact ⟨absent, absent⟩

/-- Nothing is submitted while nothing waits. -/
theorem planBy_of_settled (settled : draft.hasPending = false)
    (represent : MetadataReference → Representation) : draft.planBy represent = [] := by
  have adds := pendingAdds_of_settled settled
  have removes := pendingRemoves_of_settled settled
  have nothing (collection : DocumentCollection) :
      FlushPlan.additions (draft.registry collection) = [] ∧
        FlushPlan.removals (draft.registry collection) = [] := by
    simp [FlushPlan.additions, FlushPlan.removals, Registry.pendingDocuments, adds, removes]
  have unchanged : draft.changes.isEmpty = true := by
    simp only [hasPending, Bool.or_eq_false_iff, Bool.not_eq_false'] at settled
    exact settled.2
  have sources := nothing .source
  have additional := nothing .additional
  simp only [registry] at sources additional
  simp only [ChangeSet.isEmpty, PendingSet.isEmpty, Bool.and_eq_true, OrderedSet.isEmpty_iff,
    List.isEmpty_iff] at unchanged
  simp [planBy, FlushPlan.changes, sources, additional, unchanged]

/-- All references of a draft wait to be added, and nothing else about it has changed. -/
def AllWaits (draft : Draft) : Prop :=
  draft.changes =
    { metadataReferences := { added := draft.metadataReferences }
      projectReferences := { added := draft.projectReferences }
      analyzerReferences := { added := draft.analyzerReferences } }

private theorem add_added {α : Type} [DecidableEq α] (set : OrderedSet α) (item : α) :
    PendingSet.add { added := set } item = { added := set.insert item } :=
  if_neg (OrderedSet.not_mem_empty item)

theorem AllWaits.later (waits : draft.AllWaits) (addition : Addition) (watch : WatchToken) :
    ((addition.action watch).later draft).AllWaits := by
  rw [AllWaits] at waits ⊢
  cases addition with
  | file collection path kind id => cases collection <;> exact waits
  | _ => simp only [Addition.action, Action.later, waits, add_added]

/-- What waits in a draft that only adds comes to the additions in the order of their groups. -/
theorem planBy_of_allWaits (waits : draft.AllWaits)
    (mirrors : Mirrors comparison project draft)
    (blank : ∀ collection, (project.documents collection).entries = [])
    (holds : draft.Holds done) (represent : MetadataReference → Representation) :
    draft.planBy represent =
      FlushPlan.additions draft.sources ++ FlushPlan.additions draft.additional ++
        (referencesIn done).map (.addReference ∘ represent) ++
        (linesIn done).map .addProjectReference ++
        (analyzersIn done).map .addAnalyzerReference := by
  have removals (collection : DocumentCollection) :
      FlushPlan.removals (draft.registry collection) = [] := by
    have none_leaves : (draft.registry collection).pendingRemoves = [] := by
      refine List.eq_nil_iff_forall_not_mem.mpr fun id leaves => ?_
      obtain ⟨entry, found, state⟩ := ((mirrors collection).mirrors.mem_removes id).mp leaves
      exact stays_of_blank mirrors blank collection id entry found state
    rw [FlushPlan.removals, none_leaves]
  rw [AllWaits] at waits
  have sources := removals .source
  have additional := removals .additional
  simp only [registry] at sources additional
  simp only [planBy, FlushPlan.changes, waits, sources, additional, holds.metadata, holds.projects,
    holds.analyzers, OrderedSet.empty, List.map_nil, List.append_nil,
    List.append_assoc]

/-- The documents that wait in a draft of a project without documents are those that were added. -/
theorem pendingDocuments_of_blank (mirrors : Mirrors comparison project draft)
    {collection : DocumentCollection} (blank : (project.documents collection).entries = [])
    (stays : draft.Stays) (holds : draft.Holds done) :
    (draft.registry collection).pendingDocuments = documentsIn collection done := by
  have all_tracked : (draft.registry collection).tracked =
      Registry.documentsOf (draft.registry collection).entries.entries := by
    refine congrArg Registry.documentsOf (List.filter_eq_self.mpr ?_)
    rintro ⟨id, entry⟩ entry_mem
    simpa using stays collection id entry (Registry.mem_entries_iff.mp entry_mem)
  rw [Registry.pendingDocuments_eq (mirrors collection).mirrors.toConsistent,
    waiting_of_blank mirrors blank]
  have shown := holds.documents collection
  rw [all_tracked] at shown
  have documents_eq := congrArg (List.map Prod.snd) shown
  simpa [Registry.documentsOf, Function.comp_def] using documents_eq

end Draft

end CodeWorkspace
