import CodeWorkspace.Container.OrderedSet.Lemmas
import CodeWorkspace.Proofs.Snapshot.Lineage
import CodeWorkspace.Snapshot.Diff
import Mathlib.Data.List.Permutation

/-!
# Differences between the snapshots of a line

A difference passes over the projects that both snapshots share and tells the versions of the
others apart by their digests.  Passing over hides nothing, since a project that a snapshot shares
with the one that it was made out of is the same; so the difference lists exactly the projects that
came, those that went and those whose text has changed, as far as the digest tells texts apart.
-/

namespace CodeWorkspace

theorem Project.digest_eq_of_text {first second : Project} (id_eq : first.id = second.id)
    (text_eq : first.text = second.text) : first.digest = second.digest := by
  rw [digest, digest, id_eq, text_eq]

/-- Whenever two snapshots hold a project with different texts, the digests are different, too. -/
def Snapshot.ToldApart (old new : Snapshot) : Prop :=
  ∀ id previous project, old.project? id = some previous → new.project? id = some project →
    previous.text ≠ project.text → previous.digest ≠ project.digest

namespace SnapshotDiff

variable {old new : Snapshot} {id : ProjectId} {project : Project} {difference : ProjectDiff}

/-! ## Projects that came and went -/

theorem ids_of_keyed (keyed : new.Keyed) : new.projects.map Project.id = new.ids := by
  rw [Snapshot.projects_eq_contents, List.map_map, ← Snapshot.keys_contents]
  refine List.map_congr_left fun entry entry_mem => ?_
  exact keyed entry.1 entry.2 (Snapshot.mem_contents_iff.mp entry_mem)

theorem mem_added_iff (keyed : new.Keyed) :
    id ∈ (between old new).added ↔ new.contains id = true ∧ old.contains id = false := by
  rw [between, OrderedSet.mem_ofList, ids_of_keyed keyed, List.mem_filter, Snapshot.mem_ids_iff,
    Bool.not_eq_true']

theorem mem_removed_iff :
    id ∈ (between old new).removed ↔ old.contains id = true ∧ new.contains id = false := by
  rw [between, OrderedSet.mem_ofList, List.mem_filter, Snapshot.mem_ids_iff, Bool.not_eq_true']

/-! ## Projects that changed -/

/-- No project is listed twice among the changed ones. -/
theorem changed_distinct (old : Snapshot) (keyed : new.Keyed) :
    ((new.projects.filterMap fun project =>
      (change? old new project).map fun difference => (project.id, difference)).map
        Prod.fst).Nodup := by
  have ids_differ : new.projects.Pairwise fun first second => first.id ≠ second.id :=
    List.pairwise_map.mp (ids_of_keyed keyed ▸ new.ids_nodup)
  refine List.pairwise_map.mpr (ids_differ.filterMap _ ?_)
  intro first second differs entry entry_eq other other_eq
  obtain ⟨_, -, rfl⟩ := Option.map_eq_some_iff.mp entry_eq
  obtain ⟨_, -, rfl⟩ := Option.map_eq_some_iff.mp other_eq
  exact differs

theorem get?_changed_iff (keyed : new.Keyed) :
    (between old new).changed.get? id = some difference ↔
      ∃ project, new.project? id = some project ∧ change? old new project = some difference := by
  rw [OrderedMap.get?_eq_some_iff, between, OrderedMap.entries_ofList (changed_distinct old keyed),
    List.mem_filterMap]
  constructor
  · rintro ⟨project, project_mem, entry_eq⟩
    obtain ⟨there, found⟩ := Snapshot.mem_projects_iff.mp project_mem
    obtain ⟨_, changed, same⟩ := Option.map_eq_some_iff.mp entry_eq
    obtain ⟨rfl, rfl⟩ := Prod.mk.inj same
    exact ⟨project, keyed there project found ▸ found, changed⟩
  · rintro ⟨project, found, changed⟩
    refine ⟨project, Snapshot.mem_projects_iff.mpr ⟨id, found⟩, ?_⟩
    rw [changed, keyed id project found, Option.map_some]

/-- A project counts as changed if both snapshots have it with different digests and do not share
it. -/
theorem change?_eq_some_iff (keyed : new.Keyed) (found : new.project? id = some project) :
    change? old new project = some difference ↔
      ∃ previous, old.project? id = some previous ∧ new.sharesProject old id = false ∧
        previous.digest ≠ project.digest ∧ difference = ProjectDiff.between previous project := by
  rw [change?, keyed id project found]
  cases old.project? id with
  | none => simp
  | some previous =>
    cases new.sharesProject old id with
    | true => simp
    | false =>
      simp only [Bool.false_eq_true, if_false, Option.some.injEq, exists_eq_left', true_and]
      split
      · rename_i same
        simp [same]
      · rename_i differs
        simp [differs, eq_comm]

/-- Between snapshots of one line, a project counts as changed if both have it with different
texts. -/
theorem get?_changed_of_descends (keyed : new.Keyed) (old_keyed : old.Keyed)
    (descends : Snapshot.Descends old new) (told : old.ToldApart new) :
    (between old new).changed.get? id = some difference ↔
      ∃ previous project, old.project? id = some previous ∧ new.project? id = some project ∧
        previous.text ≠ project.text ∧ difference = ProjectDiff.between previous project := by
  rw [get?_changed_iff keyed]
  constructor
  · rintro ⟨project, found, changed⟩
    obtain ⟨previous, found_before, -, differ, rfl⟩ := (change?_eq_some_iff keyed found).mp changed
    have id_eq := (old_keyed id previous found_before).trans (keyed id project found).symm
    exact ⟨previous, project, found_before, found,
      fun same => differ (Project.digest_eq_of_text id_eq same), rfl⟩
  · rintro ⟨previous, project, found_before, found, differ, rfl⟩
    refine ⟨project, found, (change?_eq_some_iff keyed found).mpr ⟨previous, found_before, ?_,
      told id previous project found_before found differ, rfl⟩⟩
    rw [Bool.eq_false_iff]
    intro shares
    -- passing over a shared project hides no change, since it is the same project
    obtain ⟨shared, shared_before, shared_after⟩ := descends.project?_of_shares shares
    cases found.symm.trans shared_after
    cases found_before.symm.trans shared_before
    exact differ rfl

theorem isClean_iff : (between old new).isClean = true ↔
    (∀ id, id ∉ (between old new).added) ∧ (∀ id, id ∉ (between old new).removed) ∧
      ∀ id, (between old new).changed.get? id = none := by
  simp only [isClean, Bool.and_eq_true, OrderedSet.isEmpty_iff_forall_not_mem,
    OrderedMap.isEmpty_iff_forall_get?, and_assoc]

/-- Nothing differs between snapshots of one line if both hold the same projects with the same
texts. -/
theorem isClean_iff_of_descends (keyed : new.Keyed) (old_keyed : old.Keyed)
    (descends : Snapshot.Descends old new) (told : old.ToldApart new) :
    (between old new).isClean = true ↔
      ∀ id, (new.project? id).map Project.text = (old.project? id).map Project.text := by
  simp only [isClean_iff, mem_added_iff keyed, mem_removed_iff, Option.eq_none_iff_forall_ne_some,
    ne_eq, get?_changed_of_descends keyed old_keyed descends told]
  constructor
  · rintro ⟨none_came, none_went, none_changed⟩ id
    cases found_before : old.project? id with
    | none =>
      have absent : new.contains id = false := by
        rw [Bool.eq_false_iff]
        exact fun present => none_came id ⟨present, Snapshot.project?_eq_none_iff.mp found_before⟩
      rw [Snapshot.project?_eq_none_iff.mpr absent]
    | some previous =>
      cases found : new.project? id with
      | none =>
        exact absurd ⟨Snapshot.contains_iff.mpr ⟨previous, found_before⟩,
          Snapshot.project?_eq_none_iff.mp found⟩ (none_went id)
      | some project =>
        by_contra differ
        have texts_differ : previous.text ≠ project.text := fun same =>
          differ (congrArg some same.symm)
        exact none_changed id (ProjectDiff.between previous project)
          ⟨previous, project, found_before, found, texts_differ, rfl⟩
  · intro same
    have contains_eq (id : ProjectId) : new.contains id = old.contains id := by
      have present := congrArg Option.isSome (same id)
      rw [Option.isSome_map, Option.isSome_map] at present
      rw [Bool.eq_iff_iff, Snapshot.contains_iff, Snapshot.contains_iff,
        ← Option.isSome_iff_exists, ← Option.isSome_iff_exists, present]
    refine ⟨fun id => ?_, fun id => ?_, ?_⟩
    · simp [contains_eq]
    · simp [contains_eq]
    · rintro id difference ⟨previous, project, found_before, found, differ, -⟩
      have texts := same id
      rw [found, found_before] at texts
      exact differ (Option.some.inj texts).symm

/-- A project that a snapshot shares with the one that it was made out of is the same there; and,
unless digests of different texts collide, the difference between the two lists exactly the
projects that came, those that went and those whose text is another one, so that nothing is listed
exactly if both hold the same projects with the same texts. -/
theorem between_lists_every_change (before after : List Snapshot.Operation) :
    let old := Snapshot.empty.performAll before
    let new := old.performAll after
    let difference := between old new
    (∀ id, new.sharesProject old id = true →
      ∃ project, old.project? id = some project ∧ new.project? id = some project) ∧
    (old.ToldApart new →
      (∀ id, id ∈ difference.added ↔ new.contains id = true ∧ old.contains id = false) ∧
      (∀ id, id ∈ difference.removed ↔ old.contains id = true ∧ new.contains id = false) ∧
      (∀ id change, difference.changed.get? id = some change ↔
        ∃ previous project, old.project? id = some previous ∧ new.project? id = some project ∧
          previous.text ≠ project.text ∧ change = ProjectDiff.between previous project) ∧
      (difference.isClean = true ↔
        ∀ id, (new.project? id).map Project.text = (old.project? id).map Project.text)) := by
  intro old new difference
  have descends : Snapshot.Descends old new := Snapshot.descends_performAll old after
  have sound : old.Sound := Snapshot.sound_performAll Snapshot.sound_empty before
  have keyed : new.Keyed := (Snapshot.sound_performAll sound after).keyed
  exact ⟨fun _ => descends.project?_of_shares, fun told =>
    ⟨fun _ => mem_added_iff keyed, fun _ => mem_removed_iff,
      fun _ _ => get?_changed_of_descends keyed sound.keyed descends told,
      isClean_iff_of_descends keyed sound.keyed descends told⟩⟩

/-- A snapshot that lists projects as they were described holds each of them so. -/
theorem ofInfo_of_contents {snapshot : Snapshot} {ids : List ProjectId}
    {described : ProjectId → ProjectInfo}
    (contents_eq : snapshot.contents = ids.map fun id => (id, Project.ofInfo (described id)))
    (found : snapshot.project? id = some project) : project = .ofInfo (described id) := by
  rw [← Snapshot.mem_contents_iff, contents_eq] at found
  obtain ⟨_, -, same⟩ := List.mem_map.mp found
  obtain ⟨rfl, rfl⟩ := Prod.mk.inj same
  rfl

/-- A project without documents and references. -/
def plainProject (id : ProjectId) : ProjectInfo := ⟨id, "C#", { name := "P", assemblyName := "P" }⟩

/-- The same under another name. -/
def renamedProject (id : ProjectId) : ProjectInfo :=
  ⟨id, "C#", { name := "Q", assemblyName := "P" }⟩

theorem digest_renamedProject_ne : (Project.ofInfo (plainProject ⟨.ofNat 5⟩)).digest ≠
    (Project.ofInfo (renamedProject ⟨.ofNat 5⟩)).digest := by
  rw [Project.digest_eq, Project.digest_eq]
  decide +kernel

/-- Five projects. -/
def fiveProjects : Snapshot :=
  Snapshot.empty.performAll [.addProject (plainProject ⟨.ofNat 1⟩),
    .addProject (plainProject ⟨.ofNat 2⟩), .addProject (plainProject ⟨.ofNat 3⟩),
    .addProject (plainProject ⟨.ofNat 4⟩), .addProject (plainProject ⟨.ofNat 5⟩)]

/-- One of the projects was opened for a change that failed, one was removed and added again, one
was removed for good, one has another name and one has come. -/
def rewrittenProjects : Snapshot :=
  fiveProjects.performAll [.removeAnalyzerReference ⟨.ofNat 2⟩ { path := "/a.dll" },
    .removeProject ⟨.ofNat 3⟩, .addProject (plainProject ⟨.ofNat 3⟩),
    .removeProject ⟨.ofNat 4⟩, .setProperty ⟨.ofNat 5⟩ (.displayName "Q"),
    .addProject (plainProject ⟨.ofNat 6⟩)]

/-- Of the projects that were written anew, only the one with another text is listed. -/
theorem between_fiveProjects_rewrittenProjects :
    (fiveProjects.ids.map fun id => rewrittenProjects.sharesProject fiveProjects id) =
        [true, false, false, false, false] ∧
      fiveProjects.ToldApart rewrittenProjects ∧
      ⟨.ofNat 6⟩ ∈ (between fiveProjects rewrittenProjects).added ∧
      ⟨.ofNat 4⟩ ∈ (between fiveProjects rewrittenProjects).removed ∧
      (between fiveProjects rewrittenProjects).changed.get? ⟨.ofNat 5⟩ =
        some (ProjectDiff.between (.ofInfo (plainProject ⟨.ofNat 5⟩))
          (.ofInfo (renamedProject ⟨.ofNat 5⟩))) ∧
      ∀ id, id ≠ ⟨.ofNat 5⟩ → (between fiveProjects rewrittenProjects).changed.get? id = none := by
  have before_eq : fiveProjects.contents =
      [⟨.ofNat 1⟩, ⟨.ofNat 2⟩, ⟨.ofNat 3⟩, ⟨.ofNat 4⟩, ⟨.ofNat 5⟩].map fun id =>
        (id, Project.ofInfo (plainProject id)) := by cbv
  have after_eq : rewrittenProjects.contents =
      [⟨.ofNat 1⟩, ⟨.ofNat 2⟩, ⟨.ofNat 5⟩, ⟨.ofNat 3⟩, ⟨.ofNat 6⟩].map fun id =>
        (id, Project.ofInfo (if id = ⟨.ofNat 5⟩ then renamedProject id else plainProject id)) := by
    cbv
  have previous_eq {id : ProjectId} {previous : Project}
      (found : fiveProjects.project? id = some previous) :
      previous = .ofInfo (plainProject id) := ofInfo_of_contents before_eq found
  have project_eq {id : ProjectId} {project : Project}
      (found : rewrittenProjects.project? id = some project) :
      project = .ofInfo (if id = ⟨.ofNat 5⟩ then renamedProject id else plainProject id) :=
    ofInfo_of_contents after_eq found
  have same_text {id : ProjectId} (other : id ≠ ⟨.ofNat 5⟩) {previous project : Project}
      (found_before : fiveProjects.project? id = some previous)
      (found : rewrittenProjects.project? id = some project) : previous.text = project.text := by
    rw [previous_eq found_before, project_eq found, if_neg other]
  have told : fiveProjects.ToldApart rewrittenProjects := by
    intro id previous project found_before found differ
    by_cases renamed : id = ⟨.ofNat 5⟩
    · subst renamed
      rw [previous_eq found_before, project_eq found, if_pos rfl]
      exact digest_renamedProject_ne
    · exact absurd (same_text renamed found_before found) differ
  obtain ⟨added_iff, removed_iff, changed_iff, -⟩ := (between_lists_every_change _ _).2 told
  have found_before : fiveProjects.project? ⟨.ofNat 5⟩ =
      some (.ofInfo (plainProject ⟨.ofNat 5⟩)) :=
    Snapshot.mem_contents_iff.mp (by rw [before_eq]; simp)
  have found : rewrittenProjects.project? ⟨.ofNat 5⟩ =
      some (.ofInfo (renamedProject ⟨.ofNat 5⟩)) :=
    Snapshot.mem_contents_iff.mp (by rw [after_eq]; simp)
  refine ⟨by decide_cbv, told, (added_iff _).mpr (by decide_cbv),
    (removed_iff _).mpr (by decide_cbv), (changed_iff _ _).mpr ?_, fun id other => ?_⟩
  · refine ⟨_, _, found_before, found, fun same => ?_, rfl⟩
    exact digest_renamedProject_ne (Project.digest_eq_of_text rfl same)
  · rw [Option.eq_none_iff_forall_ne_some]
    intro change changed
    obtain ⟨previous, project, found_before, found, differ, -⟩ := (changed_iff id change).mp changed
    exact differ (same_text other found_before found)

end SnapshotDiff

end CodeWorkspace
