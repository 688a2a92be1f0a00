import CodeWorkspace.Proofs.Project.Documents
import CodeWorkspace.Proofs.Registry.Mirror
import CodeWorkspace.Proofs.Session.Action

/-!
# Moves of a draft

A draft and its project in the snapshot change together by moves: an action is put off, an action
is committed, all that waits is committed, a document is loaded anew, or the number of open batches
changes.  What every move keeps holds of a draft and its project at any time.
-/

namespace CodeWorkspace

namespace Draft

variable {draft after : Draft} {project changed : Project}

/-- The transitions for all that waits, by how metadata references are represented. -/
def planBy (draft : Draft) (represent : MetadataReference → Representation) : List Transition :=
  FlushPlan.additions draft.sources ++ FlushPlan.additions draft.additional ++
    FlushPlan.removals draft.sources ++ FlushPlan.removals draft.additional ++
    FlushPlan.changes represent draft.changes

theorem plan_eq_planBy (draft : Draft) (index : OutputIndex) (snapshot : Snapshot) :
    draft.plan index snapshot =
      draft.planBy fun reference => reconcile draft.id reference index snapshot := rfl

/-- The documents that a draft knows of in any state. -/
def ids (draft : Draft) : List DocumentId :=
  draft.sources.entries.keys ++ draft.additional.entries.keys

theorem mem_ids {id : DocumentId} :
    id ∈ draft.ids ↔ ∃ collection, id ∈ (draft.registry collection).entries.keys := by
  rw [ids, List.mem_append]
  constructor
  · rintro (found | found)
    · exact ⟨.source, found⟩
    · exact ⟨.additional, found⟩
  · rintro ⟨collection, found⟩
    cases collection with
    | source => exact Or.inl found
    | additional => exact Or.inr found

/-- An action that the draft allows. -/
def Action.Allowed (draft : Draft) : Action → Prop
  | .insert collection document buffer? _ =>
    (draft.registry collection).ensureCanAdd document.path? buffer? = .ok () ∧
      buffer? = document.loader.held?
  | .remove collection id => (draft.registry collection).isTracked id = true
  | .addMetadataReference reference => reference ∉ draft.metadataReferences
  | .removeMetadataReference reference => reference ∈ draft.metadataReferences
  | .addProjectReference reference => draft.referenceTo? reference.target = none
  | .removeProjectReference reference => reference ∈ draft.projectReferences
  | .addAnalyzer reference => reference ∉ draft.analyzerReferences
  | .removeAnalyzer reference => reference ∈ draft.analyzerReferences
  | .setProperty _ => True

/-- The document that an action introduces, if any. -/
def Action.drawn : Action → List DocumentId
  | .insert _ document _ _ => [document.id]
  | _ => []

/-- A draft and its project change together. -/
inductive Move (project : Project) (draft : Draft) : List DocumentId → Project → Draft → Prop where
  | later {action : Action} (batching : draft.isBatching = true) (allowed : action.Allowed draft) :
    Move project draft action.drawn project (action.later draft)
  | now {action : Action} {changed : Project} (closes : ProjectId → Bool)
      (represent : MetadataReference → Representation) (settled : draft.hasPending = false)
      (allowed : action.Allowed draft)
      (committed : (action.transition represent).effect closes project = .ok changed) :
    Move project draft action.drawn changed (action.now draft)
  | flush {changed : Project} (closes : ProjectId → Bool)
      (represent : MetadataReference → Representation)
      (committed : Transition.effects closes project (draft.planBy represent) = .ok changed) :
    Move project draft [] changed draft.settle.2
  | reload {changed : Project} (closes : ProjectId → Bool) (collection : DocumentCollection)
      {path : String} {id : DocumentId} {loader : Loader}
      (candidate : (draft.registry collection).reloadCandidate? path = some (id, loader))
      (committed : (Transition.reloadDocument collection id loader).effect closes project =
        .ok changed) :
    Move project draft [] changed
      (draft.withRegistry ((draft.registry collection).setLoader id loader) collection)
  | batches (batches : BatchCounter) : Move project draft [] project { draft with batches }

/-- Moves one after another, with the documents that they introduce. -/
inductive Moves : List DocumentId → Project → Draft → Project → Draft → Prop where
  | refl (project : Project) (draft : Draft) : Moves [] project draft project draft
  | step {drawn later : List DocumentId} {project middle changed : Project}
      {draft between after : Draft} (move : Move project draft drawn middle between)
      (rest : Moves later middle between changed after) :
    Moves (drawn ++ later) project draft changed after

theorem Move.moves {drawn : List DocumentId} (move : Move project draft drawn changed after) :
    Moves drawn project draft changed after := by
  have moves := Moves.step move (.refl changed after)
  rwa [List.append_nil] at moves

theorem Moves.trans {drawn later : List DocumentId} {middle : Project} {between : Draft}
    (first : Moves drawn project draft middle between)
    (second : Moves later middle between changed after) :
    Moves (drawn ++ later) project draft changed after := by
  induction first with
  | refl => exact second
  | step move _ ih =>
    rw [List.append_assoc]
    exact .step move (ih second)

/-! ## What never changes -/

@[simp]
theorem registry_withRegistry_self (draft : Draft) (registry : Registry)
    (collection : DocumentCollection) :
    (draft.withRegistry registry collection).registry collection = registry := by
  cases collection <;> rfl

theorem registry_withRegistry_of_ne {registry : Registry} {collection other : DocumentCollection}
    (differs : other ≠ collection) :
    (draft.withRegistry registry collection).registry other = draft.registry other := by
  cases collection <;> cases other <;> first | rfl | exact absurd rfl differs

/-- What of a draft no move changes. -/
structure SameIdentity (draft after : Draft) : Prop where
  id_eq : after.id = draft.id
  removed_eq : after.removed = draft.removed

theorem sameIdentity_withRegistry (draft : Draft) (registry : Registry)
    (collection : DocumentCollection) :
    SameIdentity draft (draft.withRegistry registry collection) := by
  cases collection <;> exact ⟨rfl, rfl⟩

theorem sameIdentity_later (draft : Draft) (action : Action) :
    SameIdentity draft (action.later draft) := by
  cases action <;> first | exact ⟨rfl, rfl⟩ | exact sameIdentity_withRegistry _ _ _

theorem sameIdentity_now (draft : Draft) (action : Action) :
    SameIdentity draft (action.now draft) := by
  cases action <;> first | exact ⟨rfl, rfl⟩ | exact sameIdentity_withRegistry _ _ _

theorem Move.sameIdentity {drawn : List DocumentId}
    (move : Move project draft drawn changed after) : SameIdentity draft after := by
  cases move with
  | later _ _ => exact sameIdentity_later _ _
  | now _ _ _ _ _ => exact sameIdentity_now _ _
  | flush _ _ _ => exact ⟨rfl, rfl⟩
  | reload _ collection _ _ => exact sameIdentity_withRegistry _ _ _
  | batches batches => exact ⟨rfl, rfl⟩

theorem Moves.sameIdentity {drawn : List DocumentId}
    (moves : Moves drawn project draft changed after) : SameIdentity draft after := by
  induction moves with
  | refl => exact ⟨rfl, rfl⟩
  | step move _ ih =>
    exact ⟨ih.id_eq.trans move.sameIdentity.id_eq, ih.removed_eq.trans move.sameIdentity.removed_eq⟩

theorem settle_registry (draft : Draft) (collection : DocumentCollection) :
    draft.settle.2.registry collection = (draft.registry collection).completeFlush.2 := by
  cases collection <;> rfl

/-- A registry knows of no documents after a move but those that it knew of and those that the
move introduced. -/
theorem Move.keys_subset {drawn : List DocumentId} (move : Move project draft drawn changed after)
    {there : DocumentCollection} {id : DocumentId}
    (known : id ∈ (after.registry there).entries.keys) :
    id ∈ (draft.registry there).entries.keys ∨ id ∈ drawn := by
  have within {collection : DocumentCollection} {registry : Registry}
      (known : id ∈ ((draft.withRegistry registry collection).registry there).entries.keys)
      (subset : id ∈ registry.entries.keys →
        id ∈ (draft.registry collection).entries.keys ∨ id ∈ drawn) :
      id ∈ (draft.registry there).entries.keys ∨ id ∈ drawn := by
    by_cases same : there = collection
    · subst same
      rw [registry_withRegistry_self] at known
      exact subset known
    · rw [registry_withRegistry_of_ne same] at known
      exact Or.inl known
  cases move with
  | @later action _ _ =>
    cases action with
    | insert collection document buffer? watch? =>
      exact within known fun found => by
        simpa [Action.drawn] using Registry.mem_keys_insert.mp found
    | remove collection id =>
      exact within known fun found => Or.inl (Registry.mem_keys_of_removeInBatch found)
    | _ => exact Or.inl known
  | @now action _ _ _ _ _ _ =>
    cases action with
    | insert collection document buffer? watch? =>
      exact within known fun found => by
        simpa [Action.drawn] using Registry.mem_keys_insert.mp found
    | remove collection id =>
      exact within known fun found => Or.inl (Registry.mem_keys_of_forget found)
    | _ => exact Or.inl known
  | flush _ _ _ =>
    rw [settle_registry] at known
    exact Or.inl (Registry.mem_keys_of_completeFlush known)
  | reload _ collection _ _ =>
    exact within known fun found => by
      rw [Registry.setLoader, OrderedMap.keys_adjust] at found
      exact Or.inl found
  | batches batches => exact Or.inl known

theorem Move.ids_subset {drawn : List DocumentId} (move : Move project draft drawn changed after)
    {id : DocumentId} (known : id ∈ after.ids) : id ∈ draft.ids ∨ id ∈ drawn := by
  obtain ⟨there, known⟩ := mem_ids.mp known
  exact (move.keys_subset known).imp_left fun old => mem_ids.mpr ⟨there, old⟩

theorem Moves.ids_subset {drawn : List DocumentId}
    (moves : Moves drawn project draft changed after) {id : DocumentId} (known : id ∈ after.ids) :
    id ∈ draft.ids ∨ id ∈ drawn := by
  induction moves with
  | refl => exact Or.inl known
  | step move _ ih =>
    rw [List.mem_append]
    rcases ih known with between | later
    · exact (move.ids_subset between).imp_right Or.inl
    · exact Or.inr (Or.inr later)

/-- A relation between projects and drafts that every move keeps, provided that the documents that
are introduced are new, is kept by moves that introduce each document once. -/
theorem Moves.keep {relation : Project → Draft → Prop}
    (keep : ∀ {drawn : List DocumentId} {project changed : Project} {draft after : Draft},
      relation project draft → (∀ id ∈ drawn, id ∉ draft.ids) →
        Move project draft drawn changed after → relation changed after)
    {drawn : List DocumentId} (moves : Moves drawn project draft changed after)
    (distinct : drawn.Nodup) (fresh : ∀ id ∈ drawn, id ∉ draft.ids)
    (holds : relation project draft) : relation changed after := by
  induction moves with
  | refl => exact holds
  | @step drawn later _ _ _ draft _ _ move _ ih =>
    obtain ⟨_, later_distinct, apart⟩ := List.nodup_append.mp distinct
    refine ih later_distinct (fun id id_mem known => ?_)
      (keep holds (fun id id_mem => fresh id (List.mem_append_left _ id_mem)) move)
    rcases move.ids_subset known with old | introduced
    · exact fresh id (List.mem_append_right _ id_mem) old
    · exact apart id introduced id id_mem rfl

end Draft

end CodeWorkspace
