import CodeWorkspace.Proofs.Snapshot.References
import CodeWorkspace.Snapshot.Operation

/-!
# Snapshots without cycles

No operation on snapshots lets references close a cycle.  An operation gives at most one project
new references, and only such as the check for cycles let pass; a cycle would have to come through
that project, and the part of it that leads back to the project was there before.
-/

namespace CodeWorkspace

theorem Attempt.reached_of_toExcept {α : Type} {attempt : Attempt α} {next : α}
    (completed : attempt.toExcept = .ok next) : attempt.reached = next := by
  obtain ⟨reached, fault?⟩ := attempt
  cases fault? with
  | none => exact Except.ok.inj completed
  | some fault => cases completed

/-! ## Changes that add no references between projects -/

/-- A project was changed without gaining a reference to another project. -/
structure Project.Trimmed (project changed : Project) : Prop where
  id_eq : changed.id = project.id
  refersTo_of : ∀ target, changed.refersTo target = true → project.refersTo target = true

namespace Project

variable {project changed : Project}

theorem refersTo_iff {target : ProjectId} :
    project.refersTo target = true ↔
      ∃ reference ∈ project.projectReferences, reference.target = target := by
  simp [refersTo]

theorem Trimmed.refl (project : Project) : Trimmed project project := ⟨rfl, fun _ refers => refers⟩

theorem Trimmed.of_same_references (id_eq : changed.id = project.id)
    (same : changed.projectReferences = project.projectReferences) : Trimmed project changed := by
  refine ⟨id_eq, fun target refers => ?_⟩
  rwa [refersTo, ← same]

theorem trimmed_ofExcept {change : Project → Except Fault Project}
    (trimmed : ∀ project changed, change project = .ok changed → Trimmed project changed)
    (project : Project) : Trimmed project (Attempt.ofExcept project (change project)).reached := by
  cases outcome : change project with
  | error fault => exact .refl project
  | ok changed => exact trimmed project changed outcome

theorem trimmed_withDocuments (project : Project) (documents : Documents)
    (collection : DocumentCollection) :
    Trimmed project (project.withDocuments documents collection) := by
  cases collection <;> exact .of_same_references rfl rfl

theorem trimmed_replaceLoader {collection : DocumentCollection} {id : DocumentId} {loader : Loader}
    (completed : project.replaceLoader collection id loader = .ok changed) :
    Trimmed project changed := by
  simp only [replaceLoader] at completed
  split at completed
  · cases completed
    exact trimmed_withDocuments project _ collection
  · cases completed

theorem trimmed_addMetadataReference {reference : MetadataReference}
    (completed : project.addMetadataReference reference = .ok changed) :
    Trimmed project changed := by
  rw [addMetadataReference] at completed
  split at completed <;> cases completed
  exact .of_same_references rfl rfl

theorem trimmed_removeMetadataReference {reference : MetadataReference}
    (completed : project.removeMetadataReference reference = .ok changed) :
    Trimmed project changed := by
  rw [removeMetadataReference] at completed
  split at completed <;> cases completed
  exact .of_same_references rfl rfl

theorem trimmed_addAnalyzerReference {reference : AnalyzerReference}
    (completed : project.addAnalyzerReference reference = .ok changed) :
    Trimmed project changed := by
  rw [addAnalyzerReference] at completed
  split at completed <;> cases completed
  exact .of_same_references rfl rfl

theorem trimmed_removeAnalyzerReference {reference : AnalyzerReference}
    (completed : project.removeAnalyzerReference reference = .ok changed) :
    Trimmed project changed := by
  rw [removeAnalyzerReference] at completed
  split at completed <;> cases completed
  exact .of_same_references rfl rfl

theorem trimmed_setHolders (project : Project) (reference : ProjectReference) (holders : Holders) :
    Trimmed project (project.setHolders reference holders) := by
  rw [setHolders]
  split <;> exact .of_same_references rfl rfl

theorem trimmed_removeProjectReference {reference : ProjectReference}
    (completed : project.removeProjectReference reference = .ok changed) :
    Trimmed project changed := by
  rw [removeProjectReference] at completed
  split at completed <;> cases completed
  refine ⟨rfl, fun target refers => ?_⟩
  obtain ⟨kept, kept_mem, leads⟩ := refersTo_iff.mp refers
  exact refersTo_iff.mpr ⟨kept, List.mem_of_mem_erase kept_mem, leads⟩

theorem trimmed_releaseProjectReference {reference : ProjectReference} {holder : ReferenceHolder}
    (completed : project.releaseProjectReference reference holder = .ok changed) :
    Trimmed project changed := by
  simp only [releaseProjectReference] at completed
  split at completed
  · split at completed
    · exact trimmed_removeProjectReference completed
    · cases completed
      exact trimmed_setHolders project reference _
  · cases completed

theorem trimmed_cutOff (target : ProjectId) (project : Project) :
    Trimmed project (Snapshot.cutOff target project) := by
  rw [Snapshot.cutOff]
  split
  · refine ⟨rfl, fun other refers => ?_⟩
    obtain ⟨kept, kept_mem, leads⟩ := refersTo_iff.mp refers
    exact refersTo_iff.mpr ⟨kept, (List.mem_filter.mp kept_mem).1, leads⟩
  · exact .refl project

theorem not_refersTo_cutOff (target : ProjectId) (project : Project) :
    (Snapshot.cutOff target project).refersTo target = false := by
  rw [Snapshot.cutOff]
  split
  · simp [withoutReferencesTo, refersTo]
  · rename_i unrelated
    exact Bool.eq_false_iff.mpr unrelated

end Project

namespace Snapshot

variable {snapshot next : Snapshot} {id : ProjectId}

/-! ## New references of one project -/

/-- At most one project has gained references, and none of these closes a cycle. -/
structure Extended (snapshot : Snapshot) (id : ProjectId) (next : Snapshot) : Prop where
  keyed : next.Keyed
  others : ∀ source target, source ≠ id → next.Refers source target →
    snapshot.Refers source target
  gained : ∀ target, next.Refers id target → snapshot.Refers id target ∨ ¬ snapshot.Closes id target

theorem Extended.no_cycle_at (extended : Extended snapshot id next) (acyclic : snapshot.Acyclic) :
    ¬ Relation.TransGen next.Refers id id := by
  intro cycle
  obtain ⟨target, edge, back⟩ := Relation.TransGen.head'_iff.mp cycle
  have back_before := chain_of_others extended.others back
  rcases extended.gained target edge with old | passed
  · exact acyclic id (Relation.TransGen.head'_iff.mpr ⟨target, old, back_before⟩)
  · apply passed
    rcases Relation.reflTransGen_iff_eq_or_transGen.mp back_before with same | chain
    · exact Or.inl same
    · exact Or.inr chain

/-- A chain either was there before or comes through the project with new references. -/
theorem Extended.chain_cases (extended : Extended snapshot id next) {first last : ProjectId}
    (chain : Relation.TransGen next.Refers first last) :
    Relation.TransGen snapshot.Refers first last ∨
      Relation.ReflTransGen next.Refers first id ∧ Relation.ReflTransGen next.Refers id last := by
  induction chain with
  | @single target edge =>
    by_cases here : first = id
    · exact Or.inr (here ▸ ⟨.refl, .single edge⟩)
    · exact Or.inl (.single (extended.others first target here edge))
  | @tail middle target chain edge ih =>
    by_cases here : middle = id
    · exact Or.inr (here ▸ ⟨chain.to_reflTransGen, .single edge⟩)
    · rcases ih with old | ⟨front, back⟩
      · exact Or.inl (old.tail (extended.others middle target here edge))
      · exact Or.inr ⟨front, back.tail edge⟩

theorem Extended.acyclic (extended : Extended snapshot id next) (acyclic : snapshot.Acyclic) :
    next.Acyclic := by
  intro node cycle
  rcases extended.chain_cases cycle with old | ⟨front, back⟩
  · exact acyclic node old
  · exact extended.no_cycle_at acyclic
      (Relation.TransGen.trans_right back (cycle.trans_left front))

/-- No project has gained references. -/
structure Shrunk (snapshot next : Snapshot) : Prop where
  keyed : next.Keyed
  refers_of : ∀ source target, next.Refers source target → snapshot.Refers source target

theorem Shrunk.refl (keyed : snapshot.Keyed) : Shrunk snapshot snapshot :=
  ⟨keyed, fun _ _ refers => refers⟩

theorem Shrunk.extended (shrunk : Shrunk snapshot next) (id : ProjectId) :
    Extended snapshot id next :=
  ⟨shrunk.keyed, fun source target _ => shrunk.refers_of source target,
    fun target refers => Or.inl (shrunk.refers_of id target refers)⟩

theorem Extended.trans_shrunk {middle : Snapshot} (extended : Extended snapshot id middle)
    (shrunk : Shrunk middle next) : Extended snapshot id next where
  keyed := shrunk.keyed
  others source target differs refers :=
    extended.others source target differs (shrunk.refers_of source target refers)
  gained target refers := extended.gained target (shrunk.refers_of id target refers)

theorem keyed_write (keyed : snapshot.Keyed) {changed : Project} (id_eq : changed.id = id) :
    (snapshot.write id changed).Keyed := by
  intro other project found
  rw [project?_write] at found
  split at found
  · rename_i same
    rw [← Option.some.inj found, id_eq, same]
  · exact keyed other project found

theorem refers_write {source target : ProjectId} {changed : Project} :
    (snapshot.write id changed).Refers source target ↔
      if source = id then changed.refersTo target = true else snapshot.Refers source target := by
  rw [Refers, project?_write]
  split <;> simp [Refers]

theorem shrunk_modify (keyed : snapshot.Keyed) (id : ProjectId) {change : Project → Attempt Project}
    (trimmed : ∀ project, Project.Trimmed project (change project).reached) :
    Shrunk snapshot (snapshot.modify id change).reached := by
  cases found : snapshot.project? id with
  | none =>
    rw [modify_of_missing found]
    exact .refl keyed
  | some project =>
    rw [modify_of_found found]
    refine ⟨keyed_write keyed ((trimmed project).id_eq.trans (keyed id project found)), ?_⟩
    intro source target refers
    rw [Attempt.map, refers_write] at refers
    split at refers
    · rename_i same
      exact same ▸ ⟨project, found, (trimmed project).refersTo_of target refers⟩
    · exact refers

theorem shrunk_modifyWhole (keyed : snapshot.Keyed) (id : ProjectId)
    {change : Project → Except Fault Project}
    (trimmed : ∀ project changed, change project = .ok changed → Project.Trimmed project changed) :
    Shrunk snapshot (snapshot.modifyWhole id change).reached :=
  shrunk_modify keyed id (Project.trimmed_ofExcept trimmed)

/-! ## Operations on references and projects -/

theorem shrunk_addProject (keyed : snapshot.Keyed) (info : ProjectInfo)
    (completed : snapshot.addProject info = .ok next) : Shrunk snapshot next := by
  rw [addProject] at completed
  split at completed <;> cases completed
  refine ⟨keyed_write keyed rfl, fun source target refers => ?_⟩
  rw [refers_write] at refers
  split at refers
  · cases refers
  · exact refers

theorem shrunk_removeProject (keyed : snapshot.Keyed)
    (completed : snapshot.removeProject id = .ok next) : Shrunk snapshot next := by
  cases present : snapshot.contains id with
  | false =>
    rw [removeProject_of_not_contains present] at completed
    cases completed
  | true =>
    obtain ⟨removed, removed_eq, found_removed, _⟩ := removeProject_of_contains present
    rw [removed_eq] at completed
    cases completed
    have found_before {other : ProjectId} {project : Project}
        (found : next.project? other = some project) :
        ∃ before, snapshot.project? other = some before ∧ Project.Trimmed before project := by
      rw [found_removed] at found
      split at found
      · cases found
      · obtain ⟨before, found_before, rfl⟩ := Option.map_eq_some_iff.mp found
        exact ⟨before, found_before, Project.trimmed_cutOff id before⟩
    constructor
    · intro other project found
      obtain ⟨before, found, trimmed⟩ := found_before found
      exact trimmed.id_eq.trans (keyed other before found)
    · rintro source target ⟨project, found, refers⟩
      obtain ⟨before, found, trimmed⟩ := found_before found
      exact ⟨before, found, trimmed.refersTo_of target refers⟩

theorem extended_addProjectReference (keyed : snapshot.Keyed) (source : ProjectId)
    (reference : ProjectReference) :
    Extended snapshot source (snapshot.addProjectReference source reference).reached := by
  rw [addProjectReference]
  split
  · exact (Shrunk.refl keyed).extended source
  · rename_i passed
    rw [wouldCreateCycle_ofSnapshot keyed] at passed
    cases found : snapshot.project? source with
    | none =>
      rw [modifyWhole, modify_of_missing found]
      exact (Shrunk.refl keyed).extended source
    | some project =>
      rw [modifyWhole, modify_of_found found]
      by_cases present : reference ∈ project.projectReferences
      · have rejected : project.addProjectReference reference =
            .error (.duplicateReference project.id reference.target.text) := if_pos present
        rw [rejected]
        have kept : Shrunk snapshot (snapshot.modify source Attempt.done).reached :=
          shrunk_modify keyed source Project.Trimmed.refl
        rw [modify_of_found found] at kept
        exact kept.extended source
      · have added : project.addProjectReference reference = .ok { project with
            projectReferences := project.projectReferences ++ [reference] } := if_neg present
        rw [added]
        refine ⟨keyed_write keyed (keyed source project found), ?_, ?_⟩
        · intro other target differs refers
          rwa [Attempt.map, refers_write, if_neg differs] at refers
        · intro target refers
          rw [Attempt.map, refers_write, if_pos rfl] at refers
          obtain ⟨found_reference, found_mem, rfl⟩ := Project.refersTo_iff.mp refers
          rcases List.mem_append.mp found_mem with old | new
          · exact Or.inl ⟨project, found, Project.refersTo_iff.mpr ⟨found_reference, old, rfl⟩⟩
          · exact Or.inr (List.mem_singleton.mp new ▸ passed)

theorem extended_holdProjectReference (keyed : snapshot.Keyed) (source : ProjectId)
    (reference : ProjectReference) (holder : ReferenceHolder) :
    Extended snapshot source (snapshot.holdProjectReference source reference holder).reached := by
  have added := extended_addProjectReference keyed source reference
  simp only [holdProjectReference]
  split
  · exact (Shrunk.refl keyed).extended source
  · split
    · split
      · exact (Shrunk.refl keyed).extended source
      · exact (shrunk_modify keyed source fun _ =>
          Project.trimmed_setHolders _ reference _).extended source
    · split
      · exact added.trans_shrunk (shrunk_modify added.keyed source fun project =>
          Project.trimmed_setHolders project reference .convertedOnce)
      · exact added

theorem shrunk_releaseProjectReference (keyed : snapshot.Keyed) (source : ProjectId)
    (reference : ProjectReference) (holder : ReferenceHolder) :
    Shrunk snapshot (snapshot.releaseProjectReference source reference holder).reached :=
  shrunk_modifyWhole keyed source fun _ _ => Project.trimmed_releaseProjectReference

/-! ## Every run -/

/-- Every project stands under its own identity, and references close no cycle. -/
structure Sound (snapshot : Snapshot) : Prop where
  keyed : snapshot.Keyed
  acyclic : snapshot.Acyclic

theorem Extended.sound (extended : Extended snapshot id next) (sound : snapshot.Sound) :
    next.Sound := ⟨extended.keyed, extended.acyclic sound.acyclic⟩

theorem Shrunk.sound (shrunk : Shrunk snapshot next) (sound : snapshot.Sound) : next.Sound :=
  (shrunk.extended default).sound sound

theorem sound_empty : empty.Sound := by
  constructor
  · intro id project found
    cases found
  · intro id cycle
    obtain ⟨_, ⟨_, found, _⟩, _⟩ := Relation.TransGen.head'_iff.mp cycle
    cases found

end Snapshot

namespace Transition

variable {snapshot next : Snapshot} {id : ProjectId}

/-- A transition changes its project without giving it new references, adds a holder to a
reference, or does nothing. -/
theorem apply_cases {transition : Transition}
    (completed : transition.apply id snapshot = .ok next) :
    (∃ change : Project → Attempt Project,
      (∀ project, Project.Trimmed project (change project).reached) ∧
        next = (snapshot.modify id change).reached) ∨
      (∃ reference holder, next = (snapshot.holdProjectReference id reference holder).reached) ∨
      next = snapshot := by
  have changed {change : Project → Attempt Project}
      (trimmed : ∀ project, Project.Trimmed project (change project).reached)
      (completed : (snapshot.modify id change).toExcept = .ok next) :
      ∃ change : Project → Attempt Project,
        (∀ project, Project.Trimmed project (change project).reached) ∧
          next = (snapshot.modify id change).reached :=
    ⟨change, trimmed, (Attempt.reached_of_toExcept completed).symm⟩
  have held {reference : ProjectReference} {holder : ReferenceHolder}
      (completed : (snapshot.holdProjectReference id reference holder).toExcept = .ok next) :
      ∃ reference holder, next = (snapshot.holdProjectReference id reference holder).reached :=
    ⟨reference, holder, (Attempt.reached_of_toExcept completed).symm⟩
  cases transition with
  | addDocuments collection documents =>
    exact Or.inl (changed (fun project => Project.trimmed_withDocuments project _ collection)
      completed)
  | removeDocuments collection ids =>
    exact Or.inl (changed (fun project => Project.trimmed_withDocuments project _ collection)
      completed)
  | reloadDocument collection document loader =>
    exact Or.inl (changed (Project.trimmed_ofExcept fun _ _ => Project.trimmed_replaceLoader)
      completed)
  | addReference representation =>
    cases representation with
    | structural reference => exact Or.inr (Or.inl (held completed))
    | content reference =>
      exact Or.inl (changed
        (Project.trimmed_ofExcept fun _ _ => Project.trimmed_addMetadataReference) completed)
  | removeReference representation =>
    cases found : snapshot.project? id with
    | none => simp [apply, Snapshot.require, found, bind, Except.bind] at completed
    | some project =>
      simp only [apply, Snapshot.require_of_found found, bind, Except.bind] at completed
      split at completed
      · cases representation with
        | structural reference =>
          exact Or.inl (changed
            (Project.trimmed_ofExcept fun _ _ => Project.trimmed_releaseProjectReference) completed)
        | content reference =>
          exact Or.inl (changed
            (Project.trimmed_ofExcept fun _ _ => Project.trimmed_removeMetadataReference) completed)
      · exact Or.inr (Or.inr (Except.ok.inj completed).symm)
  | addProjectReference reference => exact Or.inr (Or.inl (held completed))
  | removeProjectReference reference =>
    exact Or.inl (changed
      (Project.trimmed_ofExcept fun _ _ => Project.trimmed_releaseProjectReference) completed)
  | addAnalyzerReference reference =>
    exact Or.inl (changed
      (Project.trimmed_ofExcept fun _ _ => Project.trimmed_addAnalyzerReference) completed)
  | removeAnalyzerReference reference =>
    exact Or.inl (changed
      (Project.trimmed_ofExcept fun _ _ => Project.trimmed_removeAnalyzerReference) completed)
  | setProperty property =>
    exact Or.inl (changed (fun _ => .of_same_references rfl rfl) completed)

theorem extended_apply (keyed : snapshot.Keyed) {transition : Transition}
    (completed : transition.apply id snapshot = .ok next) : snapshot.Extended id next := by
  rcases apply_cases completed with ⟨change, trimmed, rfl⟩ | ⟨reference, holder, rfl⟩ | rfl
  · exact (Snapshot.shrunk_modify keyed id trimmed).extended id
  · exact Snapshot.extended_holdProjectReference keyed id reference holder
  · exact (Snapshot.Shrunk.refl keyed).extended id

theorem sound_applyAll (sound : snapshot.Sound) {transitions : List Transition}
    (completed : applyAll id snapshot transitions = .ok next) : next.Sound := by
  induction transitions generalizing snapshot with
  | nil =>
    cases completed
    exact sound
  | cons transition rest ih =>
    rw [applyAll] at completed
    split at completed
    · cases completed
    · rename_i reached applied
      exact ih ((extended_apply sound.keyed applied).sound sound) completed

end Transition

namespace Snapshot

variable {snapshot : Snapshot}

theorem sound_reached_ofExcept (sound : snapshot.Sound) {result : Except Fault Snapshot}
    (completed : ∀ next, result = .ok next → next.Sound) :
    (Attempt.ofExcept snapshot result).reached.Sound := by
  cases result with
  | error fault => exact sound
  | ok next => exact completed next rfl

theorem sound_perform (sound : snapshot.Sound) (operation : Operation) :
    (snapshot.perform operation).reached.Sound := by
  have keyed := sound.keyed
  cases operation with
  | addProject info =>
    exact sound_reached_ofExcept sound fun _ completed =>
      (shrunk_addProject keyed info completed).sound sound
  | removeProject id =>
    exact sound_reached_ofExcept sound fun _ completed =>
      (shrunk_removeProject keyed completed).sound sound
  | addProjectReference source reference =>
    exact (extended_addProjectReference keyed source reference).sound sound
  | holdProjectReference source reference holder =>
    exact (extended_holdProjectReference keyed source reference holder).sound sound
  | releaseProjectReference source reference holder =>
    exact (shrunk_releaseProjectReference keyed source reference holder).sound sound
  | removeProjectReference source reference =>
    exact (shrunk_modifyWhole keyed source fun _ _ =>
      Project.trimmed_removeProjectReference).sound sound
  | addDocuments id collection documents =>
    exact (shrunk_modify keyed id fun project =>
      Project.trimmed_withDocuments project _ collection).sound sound
  | removeDocuments id collection ids =>
    exact (shrunk_modify keyed id fun project =>
      Project.trimmed_withDocuments project _ collection).sound sound
  | replaceLoader id collection document loader =>
    exact (shrunk_modifyWhole keyed id fun _ _ => Project.trimmed_replaceLoader).sound sound
  | addMetadataReference id reference =>
    exact (shrunk_modifyWhole keyed id fun _ _ => Project.trimmed_addMetadataReference).sound sound
  | removeMetadataReference id reference =>
    exact (shrunk_modifyWhole keyed id fun _ _ =>
      Project.trimmed_removeMetadataReference).sound sound
  | addAnalyzerReference id reference =>
    exact (shrunk_modifyWhole keyed id fun _ _ => Project.trimmed_addAnalyzerReference).sound sound
  | removeAnalyzerReference id reference =>
    exact (shrunk_modifyWhole keyed id fun _ _ =>
      Project.trimmed_removeAnalyzerReference).sound sound
  | setProperty id property =>
    exact (shrunk_modify keyed id fun _ => .of_same_references rfl rfl).sound sound
  | setVersion version => exact ⟨sound.keyed, sound.acyclic⟩
  | applyAll id transitions =>
    exact sound_reached_ofExcept sound fun _ => Transition.sound_applyAll sound

theorem sound_performAll (sound : snapshot.Sound) (operations : List Operation) :
    (snapshot.performAll operations).Sound := by
  induction operations generalizing snapshot with
  | nil => exact sound
  | cons operation rest ih => exact ih (sound_perform sound operation)

/-! ## The check for cycles -/

theorem addProjectReference_cycleDetected_iff (keyed : snapshot.Keyed) (source : ProjectId)
    (reference : ProjectReference) (first second : ProjectId) :
    (snapshot.addProjectReference source reference).fault? = some (.cycleDetected first second) ↔
      first = source ∧ second = reference.target ∧ snapshot.Closes source reference.target := by
  rw [addProjectReference, ← wouldCreateCycle_ofSnapshot keyed]
  split
  · rename_i closes
    simp only [Attempt.stopped, Option.some_inj, Fault.cycleDetected.injEq, closes, and_true,
      eq_comm]
  · rename_i passed
    simp only [passed]
    cases found : snapshot.project? source with
    | none => simp [modifyWhole, modify_of_missing found, Attempt.stopped]
    | some project =>
      rw [modifyWhole, modify_of_found found]
      by_cases present : reference ∈ project.projectReferences
      · simp [Project.addProjectReference, present, Attempt.map, Attempt.ofExcept, Attempt.stopped]
      · simp [Project.addProjectReference, present, Attempt.map, Attempt.ofExcept, Attempt.done]

/-- The first holder of a reference is turned away exactly as the reference itself is. -/
theorem fault_holdProjectReference_of_absent {source : ProjectId} {project : Project}
    (found : snapshot.project? source = some project) {reference : ProjectReference}
    (absent : reference ∉ project.projectReferences) (holder : ReferenceHolder) :
    (snapshot.holdProjectReference source reference holder).fault? =
      (snapshot.addProjectReference source reference).fault? := by
  simp only [holdProjectReference, found, absent, if_false]
  split
  · rename_i completed
    have still_there : (snapshot.addProjectReference source reference).reached.project? source ≠
        none := by
      rw [addProjectReference] at completed ⊢
      split
      · simp [Attempt.stopped, found]
      · rw [modifyWhole, modify_of_found found, Attempt.map, project?_write, if_pos rfl]
        simp
    obtain ⟨added, found_added⟩ := Option.ne_none_iff_exists'.mp still_there
    rw [modify_of_found found_added, completed]
    rfl
  · rfl

/-- Whatever is done to the empty snapshot, references close no cycle, there is a build order with
every project and every project that is referred to once and behind all that it refers to, and the
first reference to a project is turned away for a cycle exactly when it would close one. -/
theorem performAll_empty_acyclic_and_ordered (operations : List Operation) :
    let snapshot := empty.performAll operations
    (∀ id, ¬ Relation.TransGen snapshot.Refers id id) ∧
    (∃ order, (DependencyGraph.ofSnapshot snapshot).buildOrder = .ok order ∧ order.Nodup ∧
      (∀ id, id ∈ order ↔ snapshot.contains id = true ∨ ∃ source, snapshot.Refers source id) ∧
      ∀ source target, snapshot.Refers source target →
        order.idxOf target < order.idxOf source) ∧
    ∀ source reference first second,
      ((snapshot.addProjectReference source reference).fault? =
          some (.cycleDetected first second) ↔
        (first = source ∧ second = reference.target) ∧
          (source = reference.target ∨ Relation.TransGen snapshot.Refers reference.target source)) ∧
      ∀ project holder, snapshot.project? source = some project →
        reference ∉ project.projectReferences →
        ((snapshot.holdProjectReference source reference holder).fault? =
            some (.cycleDetected first second) ↔
          (first = source ∧ second = reference.target) ∧
            (source = reference.target ∨
              Relation.TransGen snapshot.Refers reference.target source)) := by
  intro snapshot
  have sound : snapshot.Sound := sound_performAll sound_empty operations
  refine ⟨sound.acyclic, buildOrder_ofSnapshot sound.keyed sound.acyclic, ?_⟩
  intro source reference first second
  have detected :=
    addProjectReference_cycleDetected_iff sound.keyed source reference first second
  rw [← and_assoc] at detected
  refine ⟨detected, fun project holder found absent => ?_⟩
  rw [fault_holdProjectReference_of_absent found absent holder]
  exact detected

end Snapshot

end CodeWorkspace
