import CodeWorkspace.Proofs.Draft.Documents

/-!
# Where the documents of a draft come from

A document gets into a draft when it is introduced.  Apart from changes of files, whatever is done
afterwards leaves it as it is or takes it out, and a document that no longer waits to be added never
does so again.
-/

namespace CodeWorkspace

namespace Registry

variable {registry before between after : Registry} {fresh : Document → Prop} {id : DocumentId}

/-- Each document of a registry was there before, and waits only if it did so before, or is a fresh
one. -/
def Carries (fresh : Document → Prop) (before after : Registry) : Prop :=
  ∀ id entry, after.entries.get? id = some entry →
    (∃ old, before.entries.get? id = some old ∧ entry.document = old.document ∧
      (entry.state = .pendingAdd → old.state = .pendingAdd)) ∨
    id = entry.document.id ∧ fresh entry.document

theorem Carries.refl (fresh : Document → Prop) (registry : Registry) :
    Carries fresh registry registry :=
  fun _ entry found => Or.inl ⟨entry, found, rfl, id⟩

theorem Carries.trans (first : Carries fresh before between)
    (second : Carries fresh between after) : Carries fresh before after := by
  intro id entry found
  rcases second id entry found with ⟨middle, middle_found, same, waits⟩ | new
  · rcases first id middle middle_found with ⟨old, old_found, old_same, old_waits⟩ | ⟨own, new⟩
    · exact Or.inl ⟨old, old_found, same.trans old_same, fun state => old_waits (waits state)⟩
    · rw [same]
      exact Or.inr ⟨own, new⟩
  · exact Or.inr new

theorem carries_insert (registry : Registry) {document : Document} (is_fresh : fresh document)
    (buffer? : Option BufferId) (watch? : Option WatchToken) (state : EntryState) :
    Carries fresh registry (registry.insert document buffer? watch? state) := by
  intro id entry found
  rw [show (registry.insert document buffer? watch? state).entries =
    registry.entries.insert document.id _ from rfl, OrderedMap.get?_insert] at found
  split at found
  · rename_i own
    cases found
    exact Or.inr ⟨own, is_fresh⟩
  · exact Or.inl ⟨entry, found, rfl, fun state => state⟩

theorem carries_of_erase (entries : after.entries = registry.entries.erase id) :
    Carries fresh registry after := by
  intro other entry found
  rw [entries, OrderedMap.get?_erase] at found
  split at found
  · cases found
  · exact Or.inl ⟨entry, found, rfl, fun state => state⟩

theorem carries_forget (registry : Registry) (id : DocumentId) :
    Carries fresh registry (registry.forget id).2 := by
  rw [forget]
  split
  · exact .refl fresh registry
  · exact carries_of_erase rfl

theorem carries_removeInBatch (registry : Registry) (id : DocumentId) :
    Carries fresh registry (registry.removeInBatch id).2 := by
  obtain ⟨entry, -, -, removal⟩ | ⟨entry, -, -, removal⟩ | ⟨-, removal⟩ :=
    registry.removeInBatch_cases id
  · rw [removal]
    exact carries_of_erase (registry.entries_cancelled id entry)
  · rw [removal]
    intro other kept found
    rw [entries_deferred, OrderedMap.get?_adjust] at found
    split at found
    · obtain ⟨old, old_found, rfl⟩ := Option.map_eq_some_iff.mp found
      exact Or.inl ⟨old, old_found, rfl, fun state => by cases state⟩
    · exact Or.inl ⟨kept, found, rfl, fun state => state⟩
  · rw [removal]
    exact .refl fresh registry

theorem carries_completeFlush (registry : Registry) :
    Carries fresh registry registry.completeFlush.2 := by
  intro id entry found
  rw [← mem_entries_iff, entries_completeFlush] at found
  obtain ⟨⟨other, old⟩, old_mem, same⟩ := List.mem_map.mp (List.mem_filter.mp found).1
  have old_found := mem_entries_iff.mp old_mem
  split at same
  · cases same
    exact Or.inl ⟨old, old_found, rfl, fun state => by cases state⟩
  · cases same
    exact Or.inl ⟨entry, old_found, rfl, fun state => state⟩

end Registry

namespace Draft

variable {draft before between after : Draft} {given : List (DocumentCollection × Document)}

/-- Each document of a draft was there before, and waits only if it did so before, or has been
introduced. -/
def Carries (given : List (DocumentCollection × Document)) (before after : Draft) : Prop :=
  ∀ collection, Registry.Carries (fun document => (collection, document) ∈ given)
    (before.registry collection) (after.registry collection)

theorem carries_of_same
    (same : ∀ collection, after.registry collection = before.registry collection) :
    Carries given before after := fun collection => by
  rw [same]
  exact .refl _ _

theorem Carries.trans (first : Carries given before between)
    (second : Carries given between after) : Carries given before after :=
  fun collection => (first collection).trans (second collection)

theorem carries_withRegistry {collection : DocumentCollection} {registry : Registry}
    (carries : Registry.Carries (fun document => (collection, document) ∈ given)
      (draft.registry collection) registry) :
    draft.Carries given (draft.withRegistry registry collection) := by
  intro there
  by_cases here : there = collection
  · subst here
    rw [registry_withRegistry_self]
    exact carries
  · rw [registry_withRegistry_of_ne here]
    exact .refl _ _

/-- The document that an action introduces, if any, with its collection. -/
def Action.introduced : Action → List (DocumentCollection × Document)
  | .insert collection document _ _ => [(collection, document)]
  | _ => []

theorem carries_later (draft : Draft) (action : Action) :
    draft.Carries action.introduced (action.later draft) := by
  cases action with
  | insert collection document buffer? watch? =>
    refine carries_withRegistry (Registry.carries_insert _ ?_ buffer? watch? _)
    exact List.mem_singleton_self _
  | remove collection id => exact carries_withRegistry (Registry.carries_removeInBatch _ id)
  | _ => exact carries_of_same fun collection => by cases collection <;> rfl

theorem carries_now (draft : Draft) (action : Action) :
    draft.Carries action.introduced (action.now draft) := by
  cases action with
  | insert collection document buffer? watch? =>
    refine carries_withRegistry (Registry.carries_insert _ ?_ buffer? watch? _)
    exact List.mem_singleton_self _
  | remove collection id => exact carries_withRegistry (Registry.carries_forget _ id)
  | _ => exact carries_of_same fun collection => by cases collection <;> rfl

theorem carries_settle (draft : Draft) : draft.Carries given draft.settle.2 :=
  fun collection => by
    rw [settle_registry]
    exact Registry.carries_completeFlush _

end Draft

end CodeWorkspace
