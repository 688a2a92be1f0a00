import CodeWorkspace.Proofs.Snapshot.Acyclic

/-!
# Lines of snapshots

Every operation on a snapshot writes projects into it, takes one out or gives it another version,
and whatever is written gets a moment that lies behind all earlier ones.  A snapshot that was made
out of another one therefore holds each project either exactly as the other one does or at a moment
that the other one does not know: `Snapshot.Descends`.
-/

namespace CodeWorkspace

namespace Snapshot

variable {snapshot middle next old new : Snapshot} {id other : ProjectId}

/-! ## What operations do -/

/-- A snapshot after some projects were written into it. -/
inductive Written (snapshot : Snapshot) : Snapshot → Prop where
  | refl : Written snapshot snapshot
  | write {reached : Snapshot} (written : Written snapshot reached) (id : ProjectId)
      (project : Project) : Written snapshot (reached.write id project)

theorem Written.trans (first : Written snapshot middle) (second : Written middle next) :
    Written snapshot next := by
  induction second with
  | refl => exact first
  | write _ id project ih => exact ih.write id project

theorem written_write (snapshot : Snapshot) (id : ProjectId) (project : Project) :
    Written snapshot (snapshot.write id project) := Written.refl.write id project

theorem written_modify (snapshot : Snapshot) (id : ProjectId)
    (change : Project → Attempt Project) : Written snapshot (snapshot.modify id change).reached := by
  rw [modify]
  split
  · exact .refl
  · exact written_write snapshot id _

theorem written_addProjectReference (snapshot : Snapshot) (source : ProjectId)
    (reference : ProjectReference) :
    Written snapshot (snapshot.addProjectReference source reference).reached := by
  rw [addProjectReference]
  split
  · exact .refl
  · exact written_modify snapshot source _

theorem written_holdProjectReference (snapshot : Snapshot) (source : ProjectId)
    (reference : ProjectReference) (holder : ReferenceHolder) :
    Written snapshot (snapshot.holdProjectReference source reference holder).reached := by
  have added := written_addProjectReference snapshot source reference
  simp only [holdProjectReference]
  split
  · exact .refl
  · split
    · split
      · exact .refl
      · exact written_modify snapshot source _
    · split
      · exact added.trans (written_modify _ source _)
      · exact added

theorem written_dropReferencesTo (target : ProjectId) (snapshot : Snapshot)
    (contents : List (ProjectId × Project)) :
    Written snapshot (snapshot.dropReferencesTo target contents) := by
  induction contents generalizing snapshot with
  | nil => exact .refl
  | cons entry rest ih =>
    simp only [dropReferencesTo, List.foldl_cons]
    split
    · exact (written_write snapshot entry.1 _).trans (ih _)
    · exact ih snapshot

theorem written_apply {transition : Transition}
    (completed : transition.apply id snapshot = .ok next) : Written snapshot next := by
  rcases Transition.apply_cases completed with ⟨change, -, rfl⟩ | ⟨reference, holder, rfl⟩ | rfl
  · exact written_modify snapshot id change
  · exact written_holdProjectReference snapshot id reference holder
  · exact .refl

theorem written_applyAll {transitions : List Transition}
    (completed : Transition.applyAll id snapshot transitions = .ok next) :
    Written snapshot next := by
  induction transitions generalizing snapshot with
  | nil =>
    cases completed
    exact .refl
  | cons transition rest ih =>
    rw [Transition.applyAll] at completed
    split at completed
    · cases completed
    · rename_i reached applied
      exact (written_apply applied).trans (ih completed)

theorem written_ofExcept {result : Except Fault Snapshot}
    (completed : ∀ next, result = .ok next → Written snapshot next) :
    Written snapshot (Attempt.ofExcept snapshot result).reached := by
  cases result with
  | error fault => exact .refl
  | ok next => exact completed next rfl

/-- An operation writes projects; only the removal of a project takes one out first, and a new
version is given without writing anything. -/
theorem perform_cases (snapshot : Snapshot) (operation : Operation) :
    Written snapshot (snapshot.perform operation).reached ∨
      (∃ id, operation = .removeProject id ∧
        Written (snapshot.erase id) (snapshot.perform operation).reached) ∨
      ∃ version, (snapshot.perform operation).reached = snapshot.withVersion version := by
  cases operation with
  | addProject info =>
    refine Or.inl (written_ofExcept fun next completed => ?_)
    rw [addProject] at completed
    split at completed <;> cases completed
    exact written_write snapshot info.id _
  | removeProject id =>
    rw [perform, removeProject]
    split
    · exact Or.inr (Or.inl ⟨id, rfl, written_dropReferencesTo id _ _⟩)
    · exact Or.inl (.refl)
  | addProjectReference source reference =>
    exact Or.inl (written_addProjectReference snapshot source reference)
  | holdProjectReference source reference holder =>
    exact Or.inl (written_holdProjectReference snapshot source reference holder)
  | setVersion version => exact Or.inr (Or.inr ⟨version, rfl⟩)
  | applyAll id transitions =>
    exact Or.inl (written_ofExcept fun _ completed => written_applyAll completed)
  | _ => exact Or.inl (written_modify snapshot _ _)

/-! ## Projects that stay -/

theorem Written.contains (written : Written snapshot next)
    (present : snapshot.contains id = true) : next.contains id = true := by
  induction written with
  | refl => exact present
  | write _ there project ih =>
    obtain ⟨before, found⟩ := contains_iff.mp ih
    rw [contains_iff, project?_write]
    split
    · exact ⟨project, rfl⟩
    · exact ⟨before, found⟩

/-! ## Moments of writing -/

/-- A snapshot that was made out of another one: each of its projects is as it was there or was
written later. -/
structure Descends (old new : Snapshot) : Prop where
  clock_le : old.clock ≤ new.clock
  left_alone : ∀ id revision, new.revisions.get? id = some revision →
    old.revisions.get? id = some revision ∨ old.clock ≤ revision.stamp

theorem Descends.refl (snapshot : Snapshot) : Descends snapshot snapshot :=
  ⟨Nat.le_refl _, fun _ _ => Or.inl⟩

theorem Descends.trans (first : Descends old middle) (second : Descends middle new) :
    Descends old new where
  clock_le := Nat.le_trans first.clock_le second.clock_le
  left_alone id revision found := by
    rcases second.left_alone id revision found with before | later
    · exact first.left_alone id revision before
    · exact Or.inr (Nat.le_trans first.clock_le later)

theorem descends_write (snapshot : Snapshot) (id : ProjectId) (project : Project) :
    Descends snapshot (snapshot.write id project) where
  clock_le := Nat.le_succ _
  left_alone other revision found := by
    rw [get?_write] at found
    split at found
    · exact Or.inr (Nat.le_of_eq (congrArg Revision.stamp (Option.some.inj found)))
    · exact Or.inl found

theorem descends_erase (snapshot : Snapshot) (id : ProjectId) :
    Descends snapshot (snapshot.erase id) where
  clock_le := Nat.le_refl _
  left_alone other revision found := by
    rw [erase, OrderedMap.get?_erase] at found
    split at found
    · cases found
    · exact Or.inl found

theorem Written.descends (written : Written snapshot next) : Descends snapshot next := by
  induction written with
  | refl => exact .refl snapshot
  | write _ id project ih => exact ih.trans (descends_write _ id project)

theorem descends_perform (snapshot : Snapshot) (operation : Operation) :
    Descends snapshot (snapshot.perform operation).reached := by
  rcases perform_cases snapshot operation with written | ⟨id, -, written⟩ | ⟨version, reached_eq⟩
  · exact written.descends
  · exact (descends_erase snapshot id).trans written.descends
  · rw [reached_eq]
    exact ⟨Nat.le_refl _, fun _ _ => Or.inl⟩

theorem descends_performAll (snapshot : Snapshot) (operations : List Operation) :
    Descends snapshot (snapshot.performAll operations) := by
  induction operations generalizing snapshot with
  | nil => exact .refl snapshot
  | cons operation rest ih => exact (descends_perform snapshot operation).trans (ih _)

/-- A project that a snapshot shares with the one that it was made out of is exactly as it was
there. -/
theorem Descends.get?_eq_of_shares (descends : Descends old new)
    (shares : new.sharesProject old id = true) :
    ∃ revision, new.revisions.get? id = some revision ∧ old.revisions.get? id = some revision := by
  rw [sharesProject] at shares
  split at shares
  · rename_i revision before found found_before
    rcases descends.left_alone id revision found with same | later
    · exact ⟨revision, found, same⟩
    · -- what was written later cannot bear a stamp that the older snapshot knows
      have past : before.stamp < old.clock :=
        old.stamp_lt _ (OrderedMap.get?_eq_some_iff.mp found_before)
      rw [beq_iff_eq] at shares
      omega
  · cases shares

theorem Descends.project?_of_shares (descends : Descends old new)
    (shares : new.sharesProject old id = true) :
    ∃ project, old.project? id = some project ∧ new.project? id = some project := by
  obtain ⟨revision, found, found_before⟩ := descends.get?_eq_of_shares shares
  exact ⟨revision.project, congrArg (Option.map Revision.project) found_before,
    congrArg (Option.map Revision.project) found⟩

end Snapshot

end CodeWorkspace
