import CodeWorkspace.Proofs.Draft.InStep

/-!
# The turnover of metadata references

The metadata references of a draft that have been committed are those that it tracks and that do
not wait, and those whose removal waits.  Putting an action off does not change them.  When
something is committed, some enter and some are withdrawn; what the project lists, and the holders
of its references to projects, change by what these are represented as at that moment.
-/

namespace CodeWorkspace

namespace Project

variable {project changed : Project} {closes : ProjectId → Bool} {reference : ProjectReference}
  {holder : ReferenceHolder}

theorem metadataReferences_hold (completed : project.hold closes reference holder = .ok changed) :
    changed.metadataReferences = project.metadataReferences := by
  rw [hold] at completed
  split at completed
  · split at completed <;> cases completed
    exact metadataReferences_setHolders _ _ _
  · split at completed
    · cases completed
    · cases holder with
      | direct =>
        cases completed
        rfl
      | converted =>
        cases completed
        exact metadataReferences_setHolders _ _ _

theorem metadataReferences_release
    (completed : project.releaseProjectReference reference holder = .ok changed) :
    changed.metadataReferences = project.metadataReferences := by
  simp only [releaseProjectReference, removeProjectReference] at completed
  split at completed
  · split at completed
    · split at completed <;> cases completed
      rfl
    · cases completed
      exact metadataReferences_setHolders _ _ _
  · cases completed

end Project

namespace Transition

variable {closes : ProjectId → Bool} {project changed : Project}

/-- No transition makes a project list a metadata reference twice. -/
theorem nodup_effect {transition : Transition} (distinct : project.metadataReferences.Nodup)
    (completed : transition.effect closes project = .ok changed) :
    changed.metadataReferences.Nodup := by
  have elsewhere (other : transition.part ≠ .references) : changed.metadataReferences.Nodup := by
    rw [(Project.references_of_sameBut (sameBut_of_effect completed) other).1]
    exact distinct
  cases transition with
  | addReference representation =>
    cases representation with
    | structural target =>
      rw [Project.metadataReferences_hold completed]
      exact distinct
    | content reference =>
      simp only [effect, Project.addMetadataReference] at completed
      split at completed <;> cases completed
      rename_i absent
      exact List.concat_eq_append ▸ distinct.concat absent
  | removeReference representation =>
    simp only [effect] at completed
    split at completed
    · cases representation with
      | structural target =>
        rw [Project.metadataReferences_release completed]
        exact distinct
      | content reference =>
        simp only [Project.removeMetadataReference] at completed
        split at completed <;> cases completed
        exact distinct.erase reference
    · cases completed
      exact distinct
  | addProjectReference reference =>
    rw [Project.metadataReferences_hold completed]
    exact distinct
  | removeProjectReference reference =>
    rw [Project.metadataReferences_release completed]
    exact distinct
  | _ => exact elsewhere (by simp [part])

theorem nodup_effects {transitions : List Transition}
    (distinct : project.metadataReferences.Nodup)
    (completed : effects closes project transitions = .ok changed) :
    changed.metadataReferences.Nodup :=
  effects_induction (fun first second => first.metadataReferences.Nodup →
      second.metadataReferences.Nodup)
    (fun _ => id) (fun first second distinct => second (first distinct))
    (fun _ _ {_ _} applied distinct => nodup_effect distinct applied) completed distinct

end Transition

namespace Draft

variable {project changed : Project} {draft after : Draft} {closes : ProjectId → Bool}
  {represent : MetadataReference → Representation} {drawn : List DocumentId}

/-- A draft keeps track of its references, and its project lists no metadata reference twice. -/
structure Accountable (project : Project) (draft : Draft) : Prop where
  tracks : TracksReferences project draft
  distinct : project.metadataReferences.Nodup

theorem lasting_accountable (comparison : PathComparison) : Lasting comparison Accountable where
  created info := ⟨(lasting_tracksReferences comparison).created info, List.nodup_nil⟩
  moved accountable move := by
    refine ⟨accountable.tracks.move move, ?_⟩
    cases move with
    | later _ _ => exact accountable.distinct
    | now _ _ _ _ committed => exact Transition.nodup_effect accountable.distinct committed
    | flush _ _ committed => exact Transition.nodup_effects accountable.distinct committed
    | reload _ _ _ committed => exact Transition.nodup_effect accountable.distinct committed
    | batches _ => exact accountable.distinct
  forgot target accountable := by
    refine ⟨(lasting_tracksReferences comparison).forgot target accountable.tracks, ?_⟩
    rw [Snapshot.cutOff]
    split <;> exact accountable.distinct

/-! ## What has been committed -/

/-- The metadata references that have been committed and not been taken out again. -/
def committedReferences (draft : Draft) : List MetadataReference :=
  (draft.metadataReferences.elements.filter fun reference =>
      reference ∉ draft.changes.metadataReferences.added) ++
    draft.changes.metadataReferences.removed.elements

/-- The metadata references that come to be committed. -/
def entered (draft after : Draft) : List MetadataReference :=
  after.committedReferences.filter fun reference => reference ∉ draft.committedReferences

/-- The metadata references whose removal is committed. -/
def withdrawn (draft after : Draft) : List MetadataReference :=
  draft.committedReferences.filter fun reference => reference ∉ after.committedReferences

theorem mem_committedReferences {reference : MetadataReference} :
    reference ∈ draft.committedReferences ↔
      reference ∈ draft.metadataReferences ∧ reference ∉ draft.changes.metadataReferences.added ∨
        reference ∈ draft.changes.metadataReferences.removed := by
  simp [committedReferences, OrderedSet.mem_def]

theorem mem_entered {reference : MetadataReference} : reference ∈ draft.entered after ↔
    reference ∈ after.committedReferences ∧ reference ∉ draft.committedReferences := by
  simp [entered]

theorem mem_withdrawn {reference : MetadataReference} : reference ∈ draft.withdrawn after ↔
    reference ∈ draft.committedReferences ∧ reference ∉ after.committedReferences := by
  simp [withdrawn]

/-- What has been committed afterwards and what was withdrawn are together what was committed before
and what has entered. -/
theorem perm_turned (distinct : draft.committedReferences.Nodup)
    (after_distinct : after.committedReferences.Nodup) :
    (after.committedReferences ++ draft.withdrawn after).Perm
      (draft.committedReferences ++ draft.entered after) := by
  have now_distinct : (after.committedReferences ++ draft.withdrawn after).Nodup := by
    refine List.nodup_append.mpr ⟨after_distinct, distinct.filter _, ?_⟩
    rintro reference committed other leaves rfl
    exact (mem_withdrawn.mp leaves).2 committed
  have then_distinct : (draft.committedReferences ++ draft.entered after).Nodup := by
    refine List.nodup_append.mpr ⟨distinct, after_distinct.filter _, ?_⟩
    rintro reference committed other enters rfl
    exact (mem_entered.mp enters).2 committed
  rw [List.perm_ext_iff_of_nodup now_distinct then_distinct]
  intro reference
  rw [List.mem_append, List.mem_append, mem_withdrawn, mem_entered]
  tauto

theorem TracksReferences.tracks_committed (tracks : TracksReferences project draft) :
    draft.changes.metadataReferences.Tracks draft.metadataReferences fun reference =>
      reference ∈ draft.committedReferences := by
  obtain ⟨committed, known⟩ := tracks.metadata
  exact known.congr fun reference =>
    mem_committedReferences.trans (known.committed_iff reference).symm

theorem TracksReferences.nodup_committed (tracks : TracksReferences project draft) :
    draft.committedReferences.Nodup := by
  refine List.nodup_append.mpr ⟨draft.metadataReferences.nodup.filter _,
    draft.changes.metadataReferences.removed.nodup, ?_⟩
  rintro reference known other leaves rfl
  exact tracks.tracks_committed.removed_untracked reference leaves (List.mem_filter.mp known).1

theorem mem_committedReferences_of_settled (settled : draft.hasPending = false)
    {reference : MetadataReference} :
    reference ∈ draft.committedReferences ↔ reference ∈ draft.metadataReferences := by
  rw [mem_committedReferences, changes_of_settled settled]
  simp [ChangeSet.empty, PendingSet.empty]

/-! ## Turnover -/

/-- What a project lists and the converted holders of its references to projects change by what the
references that enter and those that are withdrawn are represented as. -/
structure Turnover (represent : MetadataReference → Representation) (project : Project)
    (draft : Draft) (changed : Project) (after : Draft) : Prop where
  listed : ∀ reference, reference ∈ changed.metadataReferences ↔
    (reference ∈ project.metadataReferences ∨
        reference ∈ draft.entered after ∧ represent reference = .content reference) ∧
      ¬ (reference ∈ draft.withdrawn after ∧ represent reference = .content reference)
  converted : ∀ line, (changed.holding line).converted = (project.holding line).converted +
    ((draft.entered after).countP fun reference => represent reference = .structural line) -
      (draft.withdrawn after).countP fun reference => represent reference = .structural line

/-- Nothing enters and nothing is withdrawn. -/
theorem turnover_of_same (metadata_eq : changed.metadataReferences = project.metadataReferences)
    (converted_eq : ∀ line, (changed.holding line).converted = (project.holding line).converted)
    (committed_iff : ∀ reference, reference ∈ after.committedReferences ↔
      reference ∈ draft.committedReferences) :
    Turnover represent project draft changed after := by
  have none_enters : draft.entered after = [] := by
    rw [entered, List.filter_eq_nil_iff]
    simp [committed_iff]
  have none_leaves : draft.withdrawn after = [] := by
    rw [withdrawn, List.filter_eq_nil_iff]
    simp [committed_iff]
  constructor
  · intro reference
    simp [none_enters, none_leaves, metadata_eq]
  · intro line
    simp [none_enters, none_leaves, converted_eq]

/-- Some references enter and some are withdrawn. -/
theorem turnover_of_lists (sensible : Sensible closes represent)
    {added removed : List MetadataReference} {table : ProjectReference → Holders}
    (entered_perm : (draft.entered after).Perm added)
    (withdrawn_perm : (draft.withdrawn after).Perm removed)
    (distinct : (project.metadataReferences ++ added.filterMap fun reference =>
      (represent reference).content?).Nodup)
    (lists : changed.Lists ((project.metadataReferences ++ added.filterMap fun reference =>
      (represent reference).content?).diff (removed.filterMap fun reference =>
        (represent reference).content?)) table)
    (counts : ∀ line, (table line).converted = (project.holding line).converted +
      (added.countP fun reference => represent reference = .structural line) -
        removed.countP fun reference => represent reference = .structural line) :
    Turnover represent project draft changed after := by
  constructor
  · intro reference
    rw [lists.metadata_eq, distinct.mem_sdiff_iff, sensible.filterMap_content?,
      sensible.filterMap_content?]
    simp [entered_perm.mem_iff, withdrawn_perm.mem_iff]
  · intro line
    rw [lists.holding_eq, counts, entered_perm.countP_eq, withdrawn_perm.countP_eq]

/-- References that have been added were not listed, and are listed once. -/
theorem nodup_of_added {metadata added : List MetadataReference}
    {table : ProjectReference → Holders} (lists : project.Lists metadata table)
    (distinct : metadata.Nodup) (completed : Transition.effects closes project
      (added.map (.addReference ∘ represent)) = .ok changed) :
    (metadata ++ added.filterMap fun reference => (represent reference).content?).Nodup := by
  rw [← (Transition.lists_addReferences lists completed).metadata_eq]
  exact Transition.nodup_effects (lists.metadata_eq ▸ distinct) completed

/-- What has been committed afterwards is what was committed before with the references that were
added and without those that were removed. -/
theorem turnedOver (distinct : draft.committedReferences.Nodup)
    (after_distinct : after.committedReferences.Nodup) {added removed : List MetadataReference}
    (added_distinct : added.Nodup) (removed_distinct : removed.Nodup)
    (fresh : ∀ reference ∈ added, reference ∉ draft.committedReferences)
    (known : ∀ reference ∈ removed, reference ∈ draft.committedReferences)
    (after_iff : ∀ reference, reference ∈ after.committedReferences ↔
      (reference ∈ draft.committedReferences ∨ reference ∈ added) ∧ reference ∉ removed) :
    (draft.entered after).Perm added ∧ (draft.withdrawn after).Perm removed := by
  constructor
  · refine (List.perm_ext_iff_of_nodup (after_distinct.filter _) added_distinct).mpr
      fun reference => mem_entered.trans ?_
    rw [after_iff]
    constructor
    · rintro ⟨⟨old | enters, _⟩, new⟩
      · exact absurd old new
      · exact enters
    · intro enters
      have new := fresh reference enters
      exact ⟨⟨Or.inr enters, fun leaves => new (known reference leaves)⟩, new⟩
  · refine (List.perm_ext_iff_of_nodup (distinct.filter _) removed_distinct).mpr
      fun reference => mem_withdrawn.trans ?_
    rw [after_iff]
    constructor
    · rintro ⟨old, gone⟩
      exact Decidable.byContradiction fun stays => gone ⟨Or.inl old, stays⟩
    · intro leaves
      exact ⟨known reference leaves, fun there => there.2 leaves⟩

/-! ## What is done -/

theorem mem_committedReferences_later (tracks : TracksReferences project draft) {action : Action}
    (allowed : action.Allowed draft) (reference : MetadataReference) :
    reference ∈ (action.later draft).committedReferences ↔
      reference ∈ draft.committedReferences := by
  have known := tracks.tracks_committed
  cases action with
  | addMetadataReference added =>
    exact mem_committedReferences.trans ((known.add allowed).committed_iff reference).symm
  | removeMetadataReference removed =>
    exact mem_committedReferences.trans ((known.remove allowed).committed_iff reference).symm
  | insert collection _ _ _ => cases collection <;> exact Iff.rfl
  | remove collection _ => cases collection <;> exact Iff.rfl
  | _ => exact Iff.rfl

/-- Putting an action off makes no turnover. -/
theorem turnover_later (accountable : Accountable project draft) {action : Action}
    (allowed : action.Allowed draft) :
    Turnover represent project draft project (action.later draft) :=
  turnover_of_same rfl (fun _ => rfl) (mem_committedReferences_later accountable.tracks allowed)

/-- Nothing waits when an action is committed, so the project tracks what has been committed before
and after. -/
theorem mem_committedReferences_now (settled : draft.hasPending = false) (action : Action)
    (reference : MetadataReference) :
    reference ∈ (action.now draft).committedReferences ↔
      reference ∈ (action.now draft).metadataReferences := by
  have waits : (action.now draft).changes.metadataReferences = .empty := by
    have nothing := changes_of_settled settled
    cases action with
    | insert collection _ _ _ => cases collection <;> exact congrArg _ nothing
    | remove collection _ => cases collection <;> exact congrArg _ nothing
    | _ => exact congrArg _ nothing
  rw [mem_committedReferences, waits]
  simp [PendingSet.empty]

theorem turnover_of_sameReferences (accountable : Accountable project draft)
    (same : project.SameReferences changed) (committed_iff : ∀ reference,
      reference ∈ after.committedReferences ↔ reference ∈ draft.committedReferences) :
    Turnover represent project draft changed after :=
  turnover_of_same same.1
    (fun line => congrArg Holders.converted
      ((accountable.tracks.booked.lists.of_same same).holding_eq line)) committed_iff

/-- Committing an action turns over the reference that it is about. -/
theorem turnover_now (sensible : Sensible closes represent)
    (accountable : Accountable project draft) (settled : draft.hasPending = false)
    {action : Action} (allowed : action.Allowed draft)
    (committed : (action.transition represent).effect closes project = .ok changed) :
    Turnover represent project draft changed (action.now draft) := by
  have booked := accountable.tracks.booked
  have distinct := accountable.tracks.nodup_committed
  have after_distinct := (accountable.tracks.move
    (.now closes represent settled allowed committed)).nodup_committed
  have before_iff (reference : MetadataReference) : reference ∈ draft.committedReferences ↔
      reference ∈ draft.metadataReferences := mem_committedReferences_of_settled settled
  have after_iff := mem_committedReferences_now settled action
  have same_committed (metadata_eq : (action.now draft).metadataReferences =
      draft.metadataReferences) (reference : MetadataReference) :
      reference ∈ (action.now draft).committedReferences ↔
        reference ∈ draft.committedReferences := by
    rw [after_iff, before_iff, metadata_eq]
  have elsewhere (other : (action.transition represent).part ≠ .references)
      (metadata_eq : (action.now draft).metadataReferences = draft.metadataReferences) :
      Turnover represent project draft changed (action.now draft) :=
    turnover_of_sameReferences accountable
      (Project.references_of_sameBut (Transition.sameBut_of_effect committed) other)
      (same_committed metadata_eq)
  cases action with
  | addMetadataReference added =>
    have single : Transition.effects closes project
        ([added].map (.addReference ∘ represent)) = .ok changed := effects_single committed
    have absent : added ∉ draft.committedReferences := by
      rw [before_iff]
      exact allowed
    obtain ⟨enters, leaves⟩ := turnedOver distinct after_distinct (List.nodup_singleton added)
      List.nodup_nil (by simpa using absent) (by simp) fun reference => by
        rw [after_iff, before_iff]
        simp [Action.now]
    exact turnover_of_lists sensible enters leaves
      (nodup_of_added booked.lists accountable.distinct single)
      (Transition.lists_addReferences booked.lists single) fun line => rfl
  | removeMetadataReference removed =>
    have single : Transition.effects closes project
        ([removed].map (.removeReference ∘ represent)) = .ok changed := effects_single committed
    have present : removed ∈ draft.committedReferences := (before_iff removed).mpr allowed
    obtain ⟨enters, leaves⟩ := turnedOver distinct after_distinct List.nodup_nil
      (List.nodup_singleton removed) (by simp) (by simpa using present) fun reference => by
        rw [after_iff, before_iff]
        simp [Action.now]
    have lists := Transition.lists_removeReferences booked.lists single
    rw [← List.append_nil project.metadataReferences] at lists
    refine turnover_of_lists sensible enters leaves ?_ lists fun line => rfl
    rw [List.filterMap_nil, List.append_nil]
    exact accountable.distinct
  | addProjectReference reference =>
    have lists :=
      Transition.lists_addProjectReferences booked.lists (effects_single committed)
    exact turnover_of_same lists.metadata_eq (fun line => by rw [lists.holding_eq])
      (same_committed rfl)
  | removeProjectReference reference =>
    have lists :=
      Transition.lists_removeProjectReferences booked.lists (effects_single committed)
    exact turnover_of_same lists.metadata_eq (fun line => by rw [lists.holding_eq])
      (same_committed rfl)
  | insert collection _ _ _ =>
    cases collection <;> exact elsewhere (by simp [Action.transition, Transition.part]) rfl
  | remove collection _ =>
    cases collection <;> exact elsewhere (by simp [Action.transition, Transition.part]) rfl
  | _ => exact elsewhere (by simp [Action.transition, Transition.part]) rfl

/-- Committing all that waits turns over the references that wait. -/
theorem turnover_settle (sensible : Sensible closes represent)
    (accountable : Accountable project draft)
    (committed : Transition.effects closes project (draft.planBy represent) = .ok changed) :
    Turnover represent project draft changed draft.settle.2 := by
  have known := accountable.tracks.tracks_committed
  have after_distinct :=
    (accountable.tracks.move (.flush closes represent committed)).nodup_committed
  obtain ⟨enters, leaves⟩ := turnedOver accountable.tracks.nodup_committed after_distinct
    draft.changes.metadataReferences.added.nodup draft.changes.metadataReferences.removed.nodup
    (fun _ waits => known.not_committed waits) (fun _ waits => known.committed_of_removed waits)
    fun reference => by
      have settled := (known.settle fun _ => Iff.rfl).committed_iff reference
      exact mem_committedReferences.trans settled.symm
  rw [Transition.planBy_eq, Transition.effects_append_ok] at committed
  obtain ⟨middle, documents_done, changes_done⟩ := committed
  have lists := accountable.tracks.booked.lists.of_same
    (Transition.references_effects (Transition.part_of_documentPlan_ne (by simp)) documents_done)
  -- additions come first among the changes, so the list is still free of repetitions after them
  obtain ⟨reached, added⟩ : ∃ reached, Transition.effects closes middle
      (draft.changes.metadataReferences.added.elements.map (.addReference ∘ represent)) =
        .ok reached := by
    simp only [FlushPlan.changes, List.append_assoc, Transition.effects_append_ok] at changes_done
    obtain ⟨reached, added, _⟩ := changes_done
    exact ⟨reached, added⟩
  exact turnover_of_lists sensible enters leaves
    (nodup_of_added lists accountable.distinct added) (Transition.lists_changes lists changes_done)
    fun line => rfl

end Draft

end CodeWorkspace
