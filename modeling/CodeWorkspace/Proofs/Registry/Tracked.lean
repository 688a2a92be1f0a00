import CodeWorkspace.Proofs.Registry.Mirror

/-!
# Tracked documents

The tracked documents of a registry are those that are not about to leave.  They change in the same
way whether a document is added or removed at once or in a batch, committing what waits leaves them
alone, and whatever is looked up is found among them.
-/

namespace CodeWorkspace

namespace Registry

variable {registry first second : Registry} {documents : Documents} {id : DocumentId}
  {document : Document}

/-- The documents that are not about to leave, in the order in which they were added. -/
def tracked (registry : Registry) : List (DocumentId × Document) :=
  documentsOf (registry.entries.entries.filter fun entry => entry.2.state ≠ .pendingRemove)

theorem mem_tracked_iff : (id, document) ∈ registry.tracked ↔
    ∃ entry, registry.entries.get? id = some entry ∧ entry.state ≠ .pendingRemove ∧
      entry.document = document := by
  simp only [tracked, documentsOf, List.mem_map, List.mem_filter, Prod.mk.injEq, decide_eq_true_eq]
  constructor
  · rintro ⟨⟨other, entry⟩, ⟨entry_mem, stays⟩, rfl, rfl⟩
    exact ⟨entry, mem_entries_iff.mp entry_mem, stays, rfl⟩
  · rintro ⟨entry, found, stays, rfl⟩
    exact ⟨(id, entry), ⟨mem_entries_iff.mpr found, stays⟩, rfl, rfl⟩

theorem isTracked_iff : registry.isTracked id = true ↔
    ∃ entry, registry.entries.get? id = some entry ∧ entry.state ≠ .pendingRemove := by
  rw [isTracked, entry?_eq]
  cases registry.entries.get? id with
  | none => simp
  | some entry => simp

theorem documentIds_eq (registry : Registry) :
    registry.documentIds = registry.tracked.map Prod.fst := by
  simp only [documentIds, OrderedMap.keys, OrderedMap.filter, tracked, documentsOf, List.map_map]
  rfl

/-! ## Adding, removing and committing -/

theorem tracked_insert {buffer? : Option BufferId} {watch? : Option WatchToken}
    {state : EntryState} (fresh : document.id ∉ registry.entries.keys)
    (stays : state ≠ .pendingRemove) :
    (registry.insert document buffer? watch? state).tracked =
      registry.tracked ++ [(document.id, document)] := by
  rw [tracked, entries_insert buffer? watch? state fresh, List.filter_append, documentsOf_append]
  refine congrArg (registry.tracked ++ ·) ?_
  simp [entryFor, stays, documentsOf]

theorem tracked_forget (registry : Registry) (id : DocumentId) :
    (registry.forget id).2.tracked = registry.tracked.filter fun known => known.1 ≠ id := by
  rw [tracked, entries_forget, tracked, filter_documentsOf fun other => other ≠ id,
    List.filter_filter, List.filter_filter]
  refine congrArg documentsOf (List.filter_congr fun entry _ => ?_)
  rw [Bool.and_comm]

theorem tracked_removeInBatch (present : registry.isTracked id = true) :
    (registry.removeInBatch id).2.tracked = registry.tracked.filter fun known => known.1 ≠ id := by
  obtain ⟨entry, found, -, removal⟩ | ⟨entry, -, -, removal⟩ | ⟨untracked, -⟩ :=
    registry.removeInBatch_cases id
  · have forgotten := registry.tracked_forget id
    simp only [Registry.forget, entry?_eq, found] at forgotten
    rw [removal]
    exact forgotten
  · rw [removal]
    show documentsOf ((registry.entries.entries.map (adjusted id .leaving)).filter
      fun entry => entry.2.state ≠ .pendingRemove) = _
    rw [List.filter_map, tracked, filter_documentsOf fun other => other ≠ id, List.filter_filter]
    have same_kept : registry.entries.entries.filter
        ((fun entry => decide (entry.2.state ≠ .pendingRemove)) ∘ adjusted id .leaving) =
          registry.entries.entries.filter fun entry =>
            decide (entry.1 ≠ id) && decide (entry.2.state ≠ .pendingRemove) := by
      refine List.filter_congr fun entry _ => ?_
      by_cases here : entry.1 = id <;> simp [adjusted, here]
    rw [same_kept, documentsOf, documentsOf, List.map_map]
    refine List.map_congr_left fun entry entry_mem => ?_
    have kept := (List.mem_filter.mp entry_mem).2
    have elsewhere : entry.1 ≠ id := by
      simp only [Bool.and_eq_true, decide_eq_true_eq] at kept
      exact kept.1
    simp [adjusted, elsewhere]
  · rw [untracked] at present
    cases present

theorem tracked_completeFlush (consistent : registry.Consistent) :
    registry.completeFlush.2.tracked = registry.tracked := by
  have all_kept : registry.completeFlush.2.tracked =
      documentsOf registry.completeFlush.2.entries.entries := by
    refine congrArg documentsOf (List.filter_eq_self.mpr fun entry entry_mem => ?_)
    simp [committed_of_completeFlush consistent.listed entry_mem]
  rw [all_kept, entries_completeFlush, tracked,
    ← filter_documentsOf fun other => other ∉ registry.pendingRemoves]
  have same_documents : documentsOf (registry.entries.entries.map fun entry =>
      if entry.1 ∈ registry.pendingAdds then (entry.1, { entry.2 with state := .committed })
      else entry) = documentsOf registry.entries.entries := by
    rw [documentsOf, documentsOf, List.map_map]
    refine List.map_congr_left fun entry _ => ?_
    simp only [Function.comp]
    split <;> rfl
  rw [same_documents, filter_documentsOf fun other => other ∉ registry.pendingRemoves]
  refine congrArg documentsOf (List.filter_congr ?_)
  rintro ⟨other, entry⟩ entry_mem
  have found := mem_entries_iff.mp entry_mem
  have leaves_iff : other ∈ registry.pendingRemoves ↔ entry.state = .pendingRemove := by
    rw [consistent.mem_removes, found]
    simp
  simp only [leaves_iff]

/-- While nothing waits, the tracked documents are those of the snapshot. -/
theorem Mirrors.documents_eq_tracked (mirrors : registry.Mirrors documents)
    (no_adds : registry.pendingAdds = []) (no_removes : registry.pendingRemoves = []) :
    documents.entries = registry.tracked := by
  rw [mirrors.documents_eq, mirrors.shown_eq_entries no_adds, tracked]
  refine congrArg documentsOf (List.filter_eq_self.mpr ?_).symm
  rintro ⟨other, entry⟩ entry_mem
  have stays : entry.state ≠ .pendingRemove := by
    intro leaves
    have waits := (mirrors.mem_removes other).mpr ⟨entry, mem_entries_iff.mp entry_mem, leaves⟩
    rw [no_removes] at waits
    cases waits
  simpa using stays

/-! ## Looking up -/

section Index

variable {κ : Type} [DecidableEq κ] {index : OrderedMap κ DocumentId}
  {pick : RegistryEntry → Option κ} {key : κ}

theorem Indexes.lookup_iff (indexes : Indexes index registry.entries pick) :
    (index.get? key).filter registry.isTracked = some id ↔
      ∃ entry, registry.entries.get? id = some entry ∧ entry.state ≠ .pendingRemove ∧
        pick entry = some key := by
  rw [Option.filter_eq_some_iff, indexes, isTracked_iff]
  constructor
  · rintro ⟨⟨entry, found, picked⟩, other, other_found, stays⟩
    rw [found] at other_found
    cases other_found
    exact ⟨entry, found, stays, picked⟩
  · rintro ⟨entry, found, stays, picked⟩
    exact ⟨⟨entry, found, picked⟩, entry, found, stays⟩

/-- A key that no leaving document has is known only if it is found. -/
theorem Indexes.contains_eq (indexes : Indexes index registry.entries pick)
    (vacant : ∀ id entry, registry.entries.get? id = some entry →
      entry.state = .pendingRemove → pick entry ≠ some key) :
    index.contains key = ((index.get? key).filter registry.isTracked).isSome := by
  rw [← OrderedMap.isSome_get?]
  cases known : index.get? key with
  | none => rfl
  | some id =>
    obtain ⟨entry, found, picked⟩ := (indexes key id).mp known
    have stays : registry.isTracked id = true :=
      isTracked_iff.mpr ⟨entry, found, fun leaves => vacant id entry found leaves picked⟩
    simp [Option.filter, stays]

end Index

theorem lookupPath?_eq_some_iff (indexed : registry.Indexed) {path : String} :
    registry.lookupPath? path = some id ↔
      ∃ document, (id, document) ∈ registry.tracked ∧
        document.path?.map registry.comparison.key = some (registry.comparison.key path) := by
  rw [lookupPath?, indexed.byPath.lookup_iff]
  simp only [mem_tracked_iff]
  constructor
  · rintro ⟨entry, found, stays, picked⟩
    rw [indexed.pathKey_eq id entry found] at picked
    exact ⟨entry.document, ⟨entry, found, stays, rfl⟩, picked⟩
  · rintro ⟨document, ⟨entry, found, stays, rfl⟩, picked⟩
    refine ⟨entry, found, stays, ?_⟩
    rw [indexed.pathKey_eq id entry found]
    exact picked

theorem lookupBuffer?_eq_some_iff (indexed : registry.Indexed) {buffer : BufferId} :
    registry.lookupBuffer? buffer = some id ↔
      ∃ document, (id, document) ∈ registry.tracked ∧ document.loader.held? = some buffer := by
  rw [lookupBuffer?, indexed.byBuffer.lookup_iff]
  simp only [mem_tracked_iff]
  constructor
  · rintro ⟨entry, found, stays, picked⟩
    rw [indexed.buffer_eq id entry found] at picked
    exact ⟨entry.document, ⟨entry, found, stays, rfl⟩, picked⟩
  · rintro ⟨document, ⟨entry, found, stays, rfl⟩, picked⟩
    refine ⟨entry, found, stays, ?_⟩
    rw [indexed.buffer_eq id entry found]
    exact picked

/-- Two registries of the same collection, with paths compared the same way, that track the same
documents. -/
structure SameTracked (first second : Registry) : Prop where
  collection_eq : second.collection = first.collection
  comparison_eq : second.comparison = first.comparison
  tracked_eq : second.tracked = first.tracked

theorem SameTracked.lookupPath?_eq (same : SameTracked first second)
    (first_indexed : first.Indexed) (second_indexed : second.Indexed) (path : String) :
    second.lookupPath? path = first.lookupPath? path := by
  apply Option.ext
  intro id
  rw [lookupPath?_eq_some_iff first_indexed, lookupPath?_eq_some_iff second_indexed,
    same.comparison_eq, same.tracked_eq]

theorem SameTracked.lookupBuffer?_eq (same : SameTracked first second)
    (first_indexed : first.Indexed) (second_indexed : second.Indexed) (buffer : BufferId) :
    second.lookupBuffer? buffer = first.lookupBuffer? buffer := by
  apply Option.ext
  intro id
  rw [lookupBuffer?_eq_some_iff first_indexed, lookupBuffer?_eq_some_iff second_indexed,
    same.tracked_eq]

/-- No document that is about to leave has the path or the buffer. -/
def Vacant (registry : Registry) (path? : Option String) (buffer? : Option BufferId) : Prop :=
  ∀ id entry, registry.entries.get? id = some entry → entry.state = .pendingRemove →
    (∀ path, path? = some path → entry.pathKey? ≠ some (registry.key path)) ∧
      ∀ buffer, buffer? = some buffer → entry.buffer? ≠ some buffer

/-- What can be added depends on the tracked documents alone if no document that is about to leave
stands in the way. -/
theorem SameTracked.ensureCanAdd_eq (same : SameTracked first second)
    (first_indexed : first.Indexed) (second_indexed : second.Indexed) {path? : Option String}
    {buffer? : Option BufferId} (first_vacant : first.Vacant path? buffer?)
    (second_vacant : second.Vacant path? buffer?) :
    second.ensureCanAdd path? buffer? = first.ensureCanAdd path? buffer? := by
  have paths : path?.filter second.knowsPath = path?.filter first.knowsPath := by
    cases path? with
    | none => rfl
    | some path =>
      have knows_eq : second.knowsPath path = first.knowsPath path := by
        have first_eq := first_indexed.byPath.contains_eq
          fun id entry found leaves => (first_vacant id entry found leaves).1 path rfl
        have second_eq := second_indexed.byPath.contains_eq
          fun id entry found leaves => (second_vacant id entry found leaves).1 path rfl
        have found_eq := congrArg Option.isSome
          (same.lookupPath?_eq first_indexed second_indexed path)
        exact second_eq.trans (found_eq.trans first_eq.symm)
      simp only [Option.filter, knows_eq]
  have buffers : buffer?.filter second.byBuffer.contains =
      buffer?.filter first.byBuffer.contains := by
    cases buffer? with
    | none => rfl
    | some buffer =>
      have contains_eq : second.byBuffer.contains buffer = first.byBuffer.contains buffer := by
        have first_eq := first_indexed.byBuffer.contains_eq
          fun id entry found leaves => (first_vacant id entry found leaves).2 buffer rfl
        have second_eq := second_indexed.byBuffer.contains_eq
          fun id entry found leaves => (second_vacant id entry found leaves).2 buffer rfl
        have found_eq := congrArg Option.isSome
          (same.lookupBuffer?_eq first_indexed second_indexed buffer)
        exact second_eq.trans (found_eq.trans first_eq.symm)
      simp only [Option.filter, contains_eq]
  rw [ensureCanAdd, ensureCanAdd, paths, buffers, same.collection_eq]

end Registry

end CodeWorkspace
