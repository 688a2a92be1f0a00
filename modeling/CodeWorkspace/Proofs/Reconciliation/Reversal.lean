import CodeWorkspace.Proofs.Reconciliation.Conversion
import CodeWorkspace.Proofs.Snapshot.Ledger
import CodeWorkspace.Proofs.Snapshot.Lineage
import Mathlib.Data.List.Infix
import Mathlib.Data.List.Permutation

/-!
# Taking back metadata references

How a metadata reference was represented when it was added is not kept; it is found out anew when
the reference is removed.  Right after the addition this takes back everything that the addition
did.  Later it still finds the reference to the project that the metadata reference was converted
to, as long as that reference has stayed and the project still publishes at the path: references
close no cycle, so nothing leads back from a project that is referred to.
-/

namespace CodeWorkspace

/-! ## One project -/

namespace Project

variable {project changed : Project} {reference : ProjectReference} {holders : Holders}
  {closes : ProjectId → Bool}

/-- Recording the holders that a reference had takes back what was recorded since. -/
theorem Booked.setHolders_setHolders (booked : project.Booked) (differs : holders ≠ {}) :
    (project.setHolders reference holders).setHolders reference (project.holdersOf reference) =
      project := by
  have recorded_eq : project.setHolders reference holders =
      { project with holders := project.holders.insert reference holders } := if_neg differs
  rw [recorded_eq, holdersOf]
  cases found : project.holders.get? reference with
  | none =>
    -- a reference without a record was held directly, for which no record is put back
    have unrecorded := OrderedMap.get?_eq_none_iff.mp found
    rw [Option.getD_none, setHolders, if_pos rfl]
    simp only [OrderedMap.erase_insert_of_not_mem unrecorded]
  | some recorded =>
    rw [Option.getD_some, setHolders, if_neg (booked.sparse reference recorded found)]
    simp only [OrderedMap.insert_insert_of_get? found]

theorem release_setHolders (present : reference ∈ project.projectReferences)
    {holder : ReferenceHolder} (held : holders.includes holder = true) :
    (project.setHolders reference holders).releaseProjectReference reference holder =
      if (holders.remove holder).isEmpty then
        (project.setHolders reference holders).removeProjectReference reference
      else .ok ((project.setHolders reference holders).setHolders reference
        (holders.remove holder)) := by
  have held_by : (project.setHolders reference holders).isHeldBy reference holder = true := by
    rw [isHeldBy, projectReferences_setHolders, holdersOf_setHolders, if_pos rfl,
      decide_eq_true present, held, Bool.true_and]
  simp only [releaseProjectReference, held_by, if_true, holdersOf_setHolders]

/-- Releasing a converted hold takes back the hold. -/
theorem Booked.release_hold (booked : project.Booked)
    (completed : project.hold closes reference .converted = .ok changed) :
    changed.releaseProjectReference reference .converted = .ok project := by
  rw [hold] at completed
  split at completed
  · rename_i present
    split at completed <;> cases completed
    have added_differs : (project.holdersOf reference).add .converted ≠ {} := fun same => by
      cases congrArg Holders.converted same
    have left_eq : ((project.holdersOf reference).add .converted).remove .converted =
        project.holdersOf reference := rfl
    rw [release_setHolders present (by simp [Holders.includes, Holders.add]), left_eq,
      booked.held reference present, if_neg Bool.false_ne_true,
      booked.setHolders_setHolders added_differs]
  · rename_i absent
    split at completed <;> cases completed
    -- nothing was recorded of a reference that was not there, so nothing is left to put back
    have unrecorded : reference ∉ project.holders.keys := fun recorded =>
      absent (booked.referred reference recorded)
    have present : reference ∈ project.projectReferences ++ [reference] :=
      List.mem_append_right _ (List.mem_singleton_self reference)
    have added_eq : { project with
        projectReferences := project.projectReferences ++ [reference] }.setHolders reference
          .convertedOnce = { project with
            projectReferences := project.projectReferences ++ [reference]
            holders := project.holders.insert reference .convertedOnce } := rfl
    have last : (Holders.convertedOnce.remove .converted).isEmpty = true := rfl
    rw [release_setHolders present rfl, if_pos last, added_eq, removeProjectReference,
      if_pos present]
    simp only [OrderedMap.erase_insert_of_not_mem unrecorded, List.erase_append_right _ absent,
      List.erase_cons_head, List.append_nil]

theorem remove_addMetadataReference {reference : MetadataReference}
    (completed : project.addMetadataReference reference = .ok changed) :
    changed.removeMetadataReference reference = .ok project := by
  rw [addMetadataReference] at completed
  split at completed <;> cases completed
  rename_i absent
  have present : reference ∈ project.metadataReferences ++ [reference] :=
    List.mem_append_right _ (List.mem_singleton_self reference)
  simp only [removeMetadataReference, present, if_true, List.erase_append_right _ absent,
    List.erase_cons_head, List.append_nil]

/-- A metadata reference that was just added is there in its representation, and its removal takes
back the addition. -/
theorem Booked.removeReference_addReference (booked : project.Booked)
    {representation : Representation}
    (completed : (Transition.addReference representation).effect closes project = .ok changed) :
    (Transition.removeReference representation).effect closes changed = .ok project := by
  cases representation with
  | structural reference =>
    have released : changed.releaseProjectReference reference .converted = .ok project :=
      booked.release_hold completed
    have present : Transition.isPresent changed (.structural reference) = true :=
      (isHeldBy_eq changed reference .converted).trans
        (release_completes_iff.mp ⟨project, released⟩)
    simp only [Transition.effect, present, if_true, released]
  | content reference =>
    have removed : changed.removeMetadataReference reference = .ok project :=
      remove_addMetadataReference completed
    have present : Transition.isPresent changed (.content reference) = true := by
      rw [removeMetadataReference] at removed
      split at removed
      · rename_i listed
        exact decide_eq_true listed
      · cases removed
    simp only [Transition.effect, present, if_true, removed]

end Project

/-! ## Removal right after the addition -/

namespace Snapshot

variable {snapshot next last : Snapshot} {owner : ProjectId} {project changed : Project}

/-- A project that was replaced and put back has left nothing behind. -/
theorem Replaced.sameContents (replaced : snapshot.Replaced owner changed next)
    (found : snapshot.project? owner = some project)
    (restored : next.Replaced owner project last) : snapshot.SameContents last :=
  (SameContents.refl snapshot).replaced (Replaced.refl found) (replaced.trans restored)

theorem removeReference_addReference (keyed : snapshot.Keyed)
    (found : snapshot.project? owner = some project) (booked : project.Booked)
    {representation : Representation}
    (completed : (Transition.addReference representation).apply owner snapshot = .ok next) :
    ∃ last, (Transition.removeReference representation).apply owner next = .ok last ∧
      last.version = snapshot.version ∧ last.contents = snapshot.contents := by
  have id_eq := keyed owner project found
  rcases (Transition.yields_apply found id_eq (.addReference representation)).cases with
    ⟨fault, _, refused⟩ | ⟨changed, reached, answered, applied, replaced, version_eq⟩
  · cases completed.symm.trans refused
  cases completed.symm.trans applied
  have changed_id := (Transition.id_eq_of_effect answered).trans id_eq
  have taken_back := booked.removeReference_addReference answered
  rw [← replaced.closes_eq keyed changed_id] at taken_back
  rcases (Transition.yields_apply replaced.found changed_id
      (.removeReference representation)).cases with
    ⟨fault, answered, _⟩ | ⟨restored, last, answered, applied, back, last_version⟩
  · cases taken_back.symm.trans answered
  cases taken_back.symm.trans answered
  exact ⟨last, applied, last_version.trans version_eq,
    (replaced.sameContents found back).contents_eq⟩

/-! ## Removal later on -/

/-- A project that is referred to before and after an operation is not removed by it. -/
theorem contains_perform {target : ProjectId} {operation : Operation}
    (present : snapshot.contains target = true)
    (refers : (snapshot.perform operation).reached.Refers owner target) :
    (snapshot.perform operation).reached.contains target = true := by
  rcases perform_cases snapshot operation with
    written | ⟨id, rfl, written⟩ | ⟨version, reached_eq⟩
  · exact written.contains present
  · by_cases same : id = target
    · -- whoever referred to the project was cut off from it
      subst same
      obtain ⟨removed, removed_eq, found_removed, -⟩ := removeProject_of_contains present
      obtain ⟨project, found, still⟩ := refers
      rw [perform, removed_eq] at found
      have found : removed.project? owner = some project := found
      rw [found_removed] at found
      split at found
      · cases found
      · obtain ⟨before, -, rfl⟩ := Option.map_eq_some_iff.mp found
        rw [Project.not_refersTo_cutOff] at still
        cases still
    · refine written.contains (contains_iff.mpr ?_)
      rw [project?_erase, if_neg (Ne.symm same)]
      exact contains_iff.mp present
  · rw [reached_eq]
    exact present

theorem contains_performAll {target : ProjectId} {operations : List Operation}
    (present : snapshot.contains target = true)
    (kept : ∀ earlier, earlier <+: operations → (snapshot.performAll earlier).Refers owner target) :
    (snapshot.performAll operations).contains target = true := by
  induction operations generalizing snapshot with
  | nil => exact present
  | cons operation rest ih =>
    have refers : (snapshot.perform operation).reached.Refers owner target :=
      kept [operation] (List.cons_prefix_cons.mpr ⟨rfl, List.nil_prefix⟩)
    exact ih (contains_perform present refers) fun earlier front =>
      kept (operation :: earlier) (List.cons_prefix_cons.mpr ⟨rfl, front⟩)

/-- A reference that is there closes no cycle. -/
theorem Sound.closes_of_refers (sound : snapshot.Sound) {target : ProjectId}
    (refers : snapshot.Refers owner target) : snapshot.closes owner target = false := by
  rw [Bool.eq_false_iff, closes, ne_eq, wouldCreateCycle_ofSnapshot sound.keyed, closes_iff_chain]
  exact fun back => sound.acyclic owner (Relation.TransGen.head' refers back)

/-- The reference that a metadata reference was converted to is found again as long as it has
stayed. -/
theorem StandsFor.reconcile_performAll {line : ProjectReference} {reference : MetadataReference}
    {index : OutputIndex} {operations : List Operation} (sound : snapshot.Sound)
    (stands : snapshot.StandsFor owner reference (index.owner? reference.path) line)
    (kept : ∀ earlier, earlier <+: operations →
      (snapshot.performAll earlier).Refers owner line.target) :
    reconcile owner reference index (snapshot.performAll operations) = .structural line :=
  (stands.of_present (contains_performAll stands.present kept)).reconcile_eq
    ((sound_performAll sound operations).closes_of_refers (kept operations (List.prefix_refl _)))

/-- A converted hold that is there is released. -/
theorem removeReference_of_held (keyed : snapshot.Keyed)
    (found : snapshot.project? owner = some project) (booked : project.Booked)
    {line : ProjectReference} (held : project.isHeldBy line .converted = true) :
    ∃ next changed, (Transition.removeReference (.structural line)).apply owner snapshot =
        .ok next ∧ next.project? owner = some changed ∧
      (changed.holding line).converted + 1 = (project.holding line).converted := by
  rw [Project.isHeldBy_eq] at held
  obtain ⟨changed, released⟩ := Project.release_completes held
  have effect_eq : (Transition.removeReference (.structural line)).effect (snapshot.closes owner)
      project = .ok changed := by
    rw [← Project.isHeldBy_eq] at held
    have present : Transition.isPresent project (.structural line) = true := held
    simp only [Transition.effect, present, if_true, released]
  rcases (Transition.yields_apply found (keyed owner project found)
      (.removeReference (.structural line))).cases with
    ⟨fault, answered, _⟩ | ⟨reached, next, answered, applied, replaced, _⟩
  · cases effect_eq.symm.trans answered
  cases effect_eq.symm.trans answered
  refine ⟨next, changed, applied, replaced.found, ?_⟩
  have positive : 0 < (project.holding line).converted := of_decide_eq_true held
  rw [(Project.rebooked_release booked released).holding_eq, if_pos rfl]
  exact Nat.sub_add_cancel positive

end Snapshot

/-- After any operations, removing a metadata reference that was just added gives back exactly what
was there before.  If it was converted into a reference to a project, then after any further
operations that have left this reference in place, the removal still finds it, provided that the
project still publishes at the path; a converted hold that is left is then released. -/
theorem removeReference_reverses_addReference (operations : List Snapshot.Operation)
    (owner : ProjectId) (reference : MetadataReference) (index : OutputIndex) (added : Snapshot)
    (completed : (Transition.addReference (reconcile owner reference index
      (Snapshot.empty.performAll operations))).apply owner (Snapshot.empty.performAll operations) =
        .ok added) :
    let snapshot := Snapshot.empty.performAll operations
    (∃ restored, (Transition.removeReference (reconcile owner reference index added)).apply owner
        added = .ok restored ∧
      restored.version = snapshot.version ∧ restored.contents = snapshot.contents) ∧
    ∀ line, reconcile owner reference index snapshot = .structural line →
      ∀ later laterIndex, laterIndex.owner? reference.path = some line.target →
        (∀ earlier, earlier <+: later → ∃ project,
          (added.performAll earlier).project? owner = some project ∧
            line ∈ project.projectReferences) →
        let reached := added.performAll later
        reconcile owner reference laterIndex reached = .structural line ∧
          ∀ project, reached.project? owner = some project →
            project.isHeldBy line .converted = true →
            ∃ next changed, (Transition.removeReference
                (reconcile owner reference laterIndex reached)).apply owner reached = .ok next ∧
              next.project? owner = some changed ∧
              (changed.holding line).converted + 1 = (project.holding line).converted := by
  intro snapshot
  have agrees : Ledger.Agrees _ snapshot := Ledger.agrees_empty.bookAll operations
  have keyed := agrees.sound.keyed
  have extended := Transition.extended_apply keyed completed
  have sound : added.Sound := extended.sound agrees.sound
  refine ⟨?_, fun line converted later laterIndex published kept => ?_⟩
  · rw [reconcile_apply keyed completed]
    cases found : snapshot.project? owner with
    | none =>
      cases completed.symm.trans (Transition.apply_of_missing found _)
    | some project =>
      exact Snapshot.removeReference_addReference keyed found
        (agrees.accounts owner project found).booked completed
  · intro reached
    have refers : ∀ earlier, earlier <+: later →
        (added.performAll earlier).Refers owner line.target := by
      intro earlier front
      obtain ⟨project, found, listed⟩ := kept earlier front
      exact ⟨project, found, Project.refersTo_iff.mpr ⟨line, listed, rfl⟩⟩
    have stands : added.StandsFor owner reference (laterIndex.owner? reference.path) line := by
      rw [published, ← (standsFor_of_reconcile converted).published]
      exact (standsFor_of_reconcile converted).of_present
        ((Snapshot.written_apply completed).contains (standsFor_of_reconcile converted).present)
    have found_again : reconcile owner reference laterIndex reached = .structural line :=
      stands.reconcile_performAll sound refers
    refine ⟨found_again, fun project found held => ?_⟩
    rw [found_again]
    have applied : Transition.applyAll owner snapshot
        [.addReference (reconcile owner reference index snapshot)] = .ok added := by
      rw [Transition.applyAll, completed]
      rfl
    have agrees_later : Ledger.Agrees _ reached := (agrees.applyAll sound applied).bookAll later
    exact Snapshot.removeReference_of_held agrees_later.sound.keyed found
      (agrees_later.accounts owner project found).booked held

/-- The removal takes back the addition at once; it still finds the publisher after another project
that referred to the owner has come and gone and the owner has added the reference itself. -/
theorem removeReference_reverses_addReference_of_publisher :
    let owner : ProjectId := ⟨.ofNat 1⟩
    let publisher : ProjectId := ⟨.ofNat 2⟩
    let other : ProjectId := ⟨.ofNat 3⟩
    let snapshot := Snapshot.empty.performAll
      [.addProject ⟨owner, "C#", { name := "A", assemblyName := "A" }⟩,
        .addProject ⟨publisher, "C#", { name := "B", assemblyName := "B" }⟩]
    let index := (OutputIndex.empty .ordinal).register publisher "/b"
    let later : List Snapshot.Operation :=
      [.addProject ⟨other, "C#", { name := "C", assemblyName := "C" }⟩,
        .addProjectReference other { target := owner }, .removeProject other,
        .applyAll owner [.addProjectReference { target := publisher }]]
    reconcile owner { path := "/b" } index snapshot = .structural { target := publisher } ∧
      ∃ added, (Transition.addReference (.structural { target := publisher })).apply owner
          snapshot = .ok added ∧
        (∃ restored, (Transition.removeReference
            (reconcile owner { path := "/b" } index added)).apply owner added = .ok restored ∧
          restored.contents = snapshot.contents) ∧
        reconcile owner { path := "/b" } index (added.performAll later) =
          .structural { target := publisher } := by
  intro owner publisher other snapshot index later
  have converted : reconcile owner { path := "/b" } index snapshot =
      .structural { target := publisher } := by decide_cbv
  have looked : ((Transition.addReference (.structural { target := publisher })).apply owner
      snapshot).toOption.any (fun added => later.inits.all fun earlier =>
        ((added.performAll earlier).project? owner).any fun project =>
          { target := publisher } ∈ project.projectReferences) = true := by
    decide_cbv
  cases completed : (Transition.addReference (.structural { target := publisher })).apply owner
      snapshot with
  | error fault =>
    rw [completed] at looked
    cases looked
  | ok added =>
    rw [completed] at looked
    have kept (earlier : List Snapshot.Operation) (front : earlier <+: later) : ∃ project,
        (added.performAll earlier).project? owner = some project ∧
          { target := publisher } ∈ project.projectReferences := by
      have there := List.all_eq_true.mp looked earlier ((List.mem_inits _ _).mpr front)
      cases found : (added.performAll earlier).project? owner with
      | none =>
        rw [found] at there
        cases there
      | some project =>
        rw [found] at there
        exact ⟨project, rfl, of_decide_eq_true there⟩
    obtain ⟨⟨restored, applied, -, contents_eq⟩, found_again⟩ :=
      removeReference_reverses_addReference _ owner { path := "/b" } index added
        (converted.symm ▸ completed)
    exact ⟨converted, added, rfl, ⟨restored, applied, contents_eq⟩,
      (found_again _ converted later index (by decide_cbv) kept).1⟩

end CodeWorkspace
