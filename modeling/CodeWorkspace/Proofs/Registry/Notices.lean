import CodeWorkspace.Draft
import CodeWorkspace.Proofs.Host.History
import CodeWorkspace.Proofs.Registry.Custody

/-!
# News of the documents of a registry

The editor is to hear of a document when it comes into the snapshot, and when it leaves if it is in
a buffer.  What the operations on a registry report is exactly that: about each document they say
what follows from whether it was in the snapshot before, and whether it is afterwards.
-/

namespace CodeWorkspace

theorem Draft.document_arrival (document : Document) :
    (arrival document).document = document.id := by
  rw [arrival]
  split <;> rfl

namespace Registry

variable {registry before after : Registry} {id : DocumentId} {document : Document}

/-- The entry of a document that is in the snapshot. -/
def shown? (registry : Registry) (id : DocumentId) : Option RegistryEntry :=
  (registry.entries.get? id).filter RegistryEntry.isVisible

/-- What there is to say about a document, by its entries in the snapshot before and after. -/
def news (id : DocumentId) : Option RegistryEntry → Option RegistryEntry → List Notice
  | none, some entry => [Draft.arrival entry.document]
  | some entry, none => if entry.buffer?.isSome then [.closed id] else []
  | _, _ => []

/-- Some news says about each document what there is to say. -/
def Announces (before : Registry) (notices : List Notice) (after : Registry) : Prop :=
  ∀ id, newsOf id notices = news id (before.shown? id) (after.shown? id)

theorem news_self (id : DocumentId) (shown : Option RegistryEntry) :
    news id shown shown = [] := by
  cases shown <;> rfl

/-- There is nothing to say if the same documents are in the snapshot. -/
theorem announces_nothing
    (same : ∀ id, (after.shown? id).isSome = (before.shown? id).isSome) :
    before.Announces [] after := by
  intro id
  have here := same id
  cases old : before.shown? id <;> cases new : after.shown? id <;> simp [old, new] at here <;> rfl

theorem shown?_insert {buffer? : Option BufferId} {watch? : Option WatchToken}
    {state : EntryState} (id : DocumentId) :
    (registry.insert document buffer? watch? state).shown? id =
      if id = document.id then
        some (registry.entryFor document buffer? watch? state) |>.filter RegistryEntry.isVisible
      else registry.shown? id := by
  rw [shown?, show (registry.insert document buffer? watch? state).entries =
    registry.entries.insert document.id (registry.entryFor document buffer? watch? state) from rfl,
    OrderedMap.get?_insert]
  split <;> rfl

theorem shown?_of_not_mem (absent : id ∉ registry.entries.keys) : registry.shown? id = none := by
  rw [shown?, OrderedMap.get?_eq_none_iff.mpr absent]
  rfl

/-- A document that waits to be added is not in the snapshot yet. -/
theorem announces_insert_pendingAdd {buffer? : Option BufferId} {watch? : Option WatchToken}
    (fresh : document.id ∉ registry.entries.keys) :
    registry.Announces [] (registry.insert document buffer? watch? .pendingAdd) := by
  refine announces_nothing fun id => ?_
  rw [shown?_insert]
  split
  · rename_i same
    rw [same, shown?_of_not_mem fresh]
    rfl
  · rfl

theorem announces_insert_committed {buffer? : Option BufferId} {watch? : Option WatchToken}
    (fresh : document.id ∉ registry.entries.keys) :
    registry.Announces [Draft.arrival document]
      (registry.insert document buffer? watch? .committed) := by
  intro id
  rw [shown?_insert, newsOf]
  by_cases same : id = document.id
  · rw [if_pos same, same, shown?_of_not_mem fresh]
    simp [Draft.document_arrival]
    rfl
  · rw [if_neg same, news_self]
    simp [Draft.document_arrival, Ne.symm same]

/-- In a batch, documents stay in the snapshot until what waits is settled. -/
theorem announces_removeInBatch (registry : Registry) (id : DocumentId) :
    registry.Announces [] (registry.removeInBatch id).2 := by
  refine announces_nothing fun other => ?_
  obtain ⟨entry, found, state, removal⟩ | ⟨entry, found, state, removal⟩ | ⟨-, removal⟩ :=
    registry.removeInBatch_cases id
  · rw [removal, shown?, shown?, entries_cancelled, OrderedMap.get?_erase]
    split
    · rename_i same
      rw [same, found, Option.filter_some, RegistryEntry.isVisible, state]
      rfl
    · rfl
  · rw [removal, shown?, shown?, entries_deferred, OrderedMap.get?_adjust]
    split
    · rename_i same
      rw [same, found, Option.map_some, Option.filter_some, Option.filter_some,
        RegistryEntry.isVisible, RegistryEntry.isVisible, state]
      rfl
    · rfl
  · rw [removal]

/-! ## Documents that are forgotten -/

/-- What there is to say about a document is about that document. -/
theorem document_of_mem_news {old? new? : Option RegistryEntry}
    (own : ∀ entry, new? = some entry → entry.document.id = id) :
    ∀ notice ∈ news id old? new?, notice.document = id := by
  intro notice told
  cases old? with
  | none =>
    cases new? with
    | none => cases told
    | some entry =>
      rw [List.mem_singleton.mp told, Draft.document_arrival]
      exact own entry rfl
  | some entry =>
    cases new? with
    | none =>
      simp only [news] at told
      split at told
      · rw [List.mem_singleton.mp told]
        rfl
      · cases told
    | some _ => cases told

/-- What is left of documents that are forgotten tells which of them were in the snapshot. -/
theorem departures_forgetEach {ids : List DocumentId} (distinct : ids.Nodup) :
    Draft.departures (registry.forgetEach ids).1 =
      ids.flatMap fun id => news id (registry.shown? id) none := by
  rw [forgetEach_fst distinct]
  clear distinct
  induction ids with
  | nil => rfl
  | cons id rest ih =>
    rw [List.flatMap_cons, ← ih, shown?, List.filterMap_cons]
    cases registry.entries.get? id with
    | none => rfl
    | some entry =>
      simp only [Option.map_some, Option.filter_some, Draft.departures, List.filter_cons]
      cases buffer : entry.buffer? <;> cases visible : entry.isVisible <;>
        simp [forgotten, news, buffer, visible]

theorem newsOf_departures (registry : Registry) {ids : List DocumentId} (distinct : ids.Nodup)
    (id : DocumentId) :
    newsOf id (Draft.departures (registry.forgetEach ids).1) =
      if id ∈ ids then news id (registry.shown? id) none else [] := by
  rw [departures_forgetEach distinct]
  exact newsOf_flatMap (fun id => document_of_mem_news fun _ none => by cases none) distinct id

theorem announces_forget (registry : Registry) (id : DocumentId) :
    registry.Announces (Draft.departures (registry.forget id).1.toList)
      (registry.forget id).2 := by
  intro other
  have distinct : [id].Nodup := List.nodup_cons.mpr ⟨List.not_mem_nil, List.nodup_nil⟩
  have departed := newsOf_departures registry distinct other
  rw [show (registry.forgetEach [id]).1 = (registry.forget id).1.toList from List.append_nil _]
    at departed
  rw [departed, shown?, shown?, entries_forget_eq_erase, OrderedMap.get?_erase]
  by_cases same : other = id
  · simp [same]
  · simp [same, news_self]

theorem announces_drainAll (registry : Registry) :
    registry.Announces (Draft.departures registry.drainAll.1) registry.drainAll.2 := by
  intro id
  have distinct : registry.entries.keys.Nodup := registry.entries.keys_nodup
  have gone : registry.drainAll.2.shown? id = none := by
    rw [shown?, show registry.drainAll.2.entries.get? id =
      (registry.forgetEach registry.entries.keys).2.entries.get? id from rfl, get?_forgetEach]
    split
    · rfl
    · rename_i absent
      rw [OrderedMap.get?_eq_none_iff.mpr absent]
      rfl
  rw [gone]
  refine (newsOf_departures registry distinct id).trans ?_
  split
  · rfl
  · rename_i absent
    rw [shown?_of_not_mem absent]
    rfl

/-! ## Settling and loading anew -/

theorem newsOf_arrivals (consistent : registry.Consistent) (id : DocumentId) :
    newsOf id (registry.pendingDocuments.map Draft.arrival) =
      if id ∈ registry.pendingAdds then news id none (registry.entries.get? id) else [] := by
  have distinct : registry.pendingAdds.Nodup := by
    rw [consistent.adds_eq]
    exact registry.entries.keys_nodup.sublist (List.filter_sublist.map Prod.fst)
  have arrivals : registry.pendingDocuments.map Draft.arrival =
      registry.pendingAdds.flatMap fun id => news id none (registry.entries.get? id) := by
    rw [pendingDocuments, List.map_filterMap, List.filterMap_eq_flatMap_toList]
    refine List.flatMap_congr fun id _ => ?_
    rw [entry?_eq]
    cases registry.entries.get? id <;> rfl
  rw [arrivals]
  exact newsOf_flatMap (fun id => document_of_mem_news (consistent.document_id id)) distinct id

/-- Settling reports what comes into the snapshot and what leaves it. -/
theorem announces_completeFlush (consistent : registry.Consistent) :
    registry.Announces (registry.pendingDocuments.map Draft.arrival ++
      Draft.departures registry.completeFlush.1) registry.completeFlush.2 := by
  intro id
  have departed := newsOf_departures (registry.pendingAdds.foldl settle registry)
    consistent.removes_nodup id
  rw [newsOf_append, newsOf_arrivals consistent, show registry.completeFlush.1 =
    ((registry.pendingAdds.foldl settle registry).forgetEach registry.pendingRemoves).1 from rfl,
    departed, shown?, shown?, shown?, get?_completeFlush consistent, get?_settleEach]
  cases found : registry.entries.get? id with
  | none => simp [news, consistent.mem_adds, consistent.mem_removes, found]
  | some entry =>
    cases state : entry.state <;>
      simp [news, consistent.mem_adds, consistent.mem_removes, found, state, Option.filter_some,
        RegistryEntry.isVisible]

theorem announces_setLoader (registry : Registry) (id : DocumentId) (loader : Loader) :
    registry.Announces [] (registry.setLoader id loader) := by
  refine announces_nothing fun other => ?_
  rw [shown?, shown?, setLoader, OrderedMap.get?_adjust]
  split
  · cases registry.entries.get? other with
    | none => rfl
    | some entry =>
      rw [Option.map_some, Option.filter_some, Option.filter_some]
      cases visible : entry.isVisible <;> simp [RegistryEntry.isVisible] at visible ⊢ <;>
        simp [visible]
  · rfl

end Registry

end CodeWorkspace
