import CodeWorkspace.Proofs.Host.Upkeep
import CodeWorkspace.Proofs.Manifest.Fill

/-!
# Loading a manifest into an empty workspace

The projects are created in the order of the manifest, each with a draft at its place, and all of
their outputs are known from then on.  Filling one of them leaves the others and the outputs alone.
-/

namespace CodeWorkspace

namespace ProjectManifest

/-- What is blank in an entry but must not be. -/
def blank? (entry : ProjectManifest) : Option Failure := Workspace.blankPart? (entry.info default)

end ProjectManifest

namespace Workspace

variable {comparison : PathComparison} {infos : List ProjectInfo} {workspace : Workspace}
  {info : ProjectInfo}

/-- The index of what some projects publish. -/
def outputsOf (comparison : PathComparison) (infos : List ProjectInfo) : OutputIndex :=
  infos.foldl registerOutputs (.empty comparison)

theorem outputsOf_concat (comparison : PathComparison) (front : List ProjectInfo)
    (info : ProjectInfo) : outputsOf comparison (front ++ [info]) =
      registerOutputs (outputsOf comparison front) info := by
  rw [outputsOf, List.foldl_append]
  rfl

theorem comparison_outputsOf (comparison : PathComparison) (infos : List ProjectInfo) :
    (outputsOf comparison infos).comparison = comparison := by
  induction infos using List.reverseRecOn with
  | nil => rfl
  | append_singleton front info ih => rw [outputsOf_concat, comparison_registerOutputs, ih]

/-- A project publishes at a path if one that was created says so. -/
theorem publishes_outputsOf {id : ProjectId} {key : String} :
    (outputsOf comparison infos).Publishes id key ↔ ∃ info ∈ infos, id = info.id ∧
      ∃ path ∈ info.properties.outputPaths, key = comparison.key path := by
  induction infos using List.reverseRecOn with
  | nil => exact iff_of_false (OutputIndex.not_publishes_empty comparison) (by simp)
  | append_singleton front info ih =>
    rw [outputsOf_concat, registerOutputs, OutputIndex.publishes_registerAll, ih,
      comparison_outputsOf]
    simp only [List.mem_append, List.mem_singleton, or_and_right, exists_or, exists_eq_left]

/-! ## Creating projects -/

/-- A workspace in which some projects have been created and nothing else has happened. -/
structure Opened (comparison : PathComparison) (infos : List ProjectInfo) (workspace : Workspace) :
    Prop where
  accepting : ∀ attempt, workspace.host.store.refusals attempt = none
  outputs_eq : workspace.host.outputs = outputsOf comparison infos
  drafts_eq : workspace.drafts = infos.map (Draft.ofInfo comparison)
  contents_eq : workspace.snapshot.contents = infos.map fun info => (info.id, .ofInfo info)
  live_eq : workspace.live.keys = infos.map ProjectInfo.id

theorem opened_inMemory (comparison : PathComparison) :
    Opened comparison [] (inMemory comparison) :=
  ⟨fun _ => rfl, rfl, rfl, rfl, rfl⟩

theorem Opened.ids_eq (opened : workspace.Opened comparison infos) :
    workspace.snapshot.ids = infos.map ProjectInfo.id := by
  rw [← Snapshot.keys_contents, opened.contents_eq, List.map_map]
  rfl

theorem Opened.comparison_eq (opened : workspace.Opened comparison infos) :
    workspace.host.comparison = comparison := by
  rw [Host.comparison, opened.outputs_eq, comparison_outputsOf]

/-- A project is created unless something of its description is blank or its identity is taken. -/
theorem Opened.createProject (opened : workspace.Opened comparison infos) (info : ProjectInfo) :
    (blankPart? info = none ∧ info.id ∉ infos.map ProjectInfo.id ∧
      ∃ created, workspace.createProject info = (.ok infos.length, created) ∧
        created.Opened comparison (infos ++ [info])) ∨
    ((blankPart? info ≠ none ∨ info.id ∈ infos.map ProjectInfo.id) ∧
      ∃ failure attempted, workspace.createProject info = (.error failure, attempted)) := by
  rw [Workspace.createProject]
  cases blank : blankPart? info with
  | some failure => exact .inr ⟨.inl (Option.some_ne_none failure), failure, workspace, rfl⟩
  | none =>
    by_cases taken : info.id ∈ infos.map ProjectInfo.id
    · have known : workspace.live.contains info.id = true := by
        rwa [OrderedMap.contains_iff_mem_keys, opened.live_eq]
      simp only [known, if_true]
      exact .inr ⟨.inr taken, _, workspace, rfl⟩
    · have unknown : workspace.live.contains info.id = false := by
        rwa [← Bool.not_eq_true, OrderedMap.contains_iff_mem_keys, opened.live_eq]
      have absent : workspace.host.store.current.contains info.id = false := by
        rw [← Bool.not_eq_true, ← Snapshot.mem_ids_iff]
        exact fun known => taken (opened.ids_eq ▸ known)
      have place_eq : workspace.drafts.length = infos.length := by
        rw [opened.drafts_eq, List.length_map]
      simp only [unknown, Store.transform, opened.accepting, Snapshot.addProject, absent,
        Bool.false_eq_true, if_false, place_eq]
      refine .inl ⟨trivial, taken, _, rfl, ?_⟩
      exact
        { accepting := opened.accepting
          outputs_eq := by
            show registerOutputs workspace.host.outputs info = _
            rw [opened.outputs_eq, outputsOf_concat]
          drafts_eq := by
            show workspace.drafts ++ [Draft.ofInfo workspace.host.comparison info] = _
            rw [opened.drafts_eq, opened.comparison_eq, List.map_append]
            rfl
          contents_eq := by
            have contents_eq : workspace.host.store.current.contents = _ := opened.contents_eq
            show (workspace.host.store.current.write info.id (.ofInfo info)).contents = _
            rw [Snapshot.contents_write_of_absent absent, contents_eq, List.map_append]
            rfl
          live_eq := by
            show (workspace.live.insert info.id infos.length).keys = _
            rw [OrderedMap.keys_insert_of_not_mem (opened.live_eq ▸ taken), opened.live_eq,
              List.map_append]
            rfl }

theorem Opened.nodup (opened : workspace.Opened comparison infos) :
    (infos.map ProjectInfo.id).Nodup :=
  opened.ids_eq ▸ Snapshot.ids_nodup _

/-! ## Filling projects -/

/-- A workspace in which some projects have been created and the first ones have been filled. -/
structure Underway (comparison : PathComparison) (infos : List ProjectInfo) (filled : Nat)
    (workspace : Workspace) : Prop where
  accepting : ∀ attempt, workspace.host.store.refusals attempt = none
  keyed : workspace.snapshot.Keyed
  outputs_eq : workspace.host.outputs = outputsOf comparison infos
  ids_eq : workspace.snapshot.ids = infos.map ProjectInfo.id
  drafts : ∀ (place : Nat) info, filled ≤ place → infos[place]? = some info →
    workspace.drafts[place]? = some (.ofInfo comparison info)
  projects : ∀ (place : Nat) info, filled ≤ place → infos[place]? = some info →
    workspace.snapshot.project? info.id = some (.ofInfo info)

theorem Opened.underway (opened : workspace.Opened comparison infos) :
    workspace.Underway comparison infos 0 where
  accepting := opened.accepting
  keyed id project found := by
    rw [← Snapshot.mem_contents_iff, opened.contents_eq] at found
    obtain ⟨info, -, pair_eq⟩ := List.mem_map.mp found
    cases pair_eq
    rfl
  outputs_eq := opened.outputs_eq
  ids_eq := opened.ids_eq
  drafts place info _ listed := by
    rw [opened.drafts_eq, List.getElem?_map, listed]
    rfl
  projects place info _ listed := by
    rw [← Snapshot.mem_contents_iff, opened.contents_eq]
    exact List.mem_map.mpr ⟨info, List.mem_of_getElem? listed, rfl⟩

variable {filled : Nat} {additions : List Addition}

theorem Underway.nodup (underway : workspace.Underway comparison infos filled) :
    (infos.map ProjectInfo.id).Nodup :=
  underway.ids_eq ▸ Snapshot.ids_nodup _

theorem Underway.id_ne (underway : workspace.Underway comparison infos filled) {place there : Nat}
    {other : ProjectInfo} (listed : infos[place]? = some info)
    (other_listed : infos[there]? = some other) (apart : there ≠ place) : other.id ≠ info.id := by
  intro same
  have within : there < (infos.map ProjectInfo.id).length := by
    rw [List.length_map]
    exact (List.getElem?_eq_some_iff.mp other_listed).1
  refine apart ((List.getElem?_inj within underway.nodup).mp ?_)
  rw [List.getElem?_map, List.getElem?_map, listed, other_listed, Option.map_some, same]
  rfl

/-- The next project is filled until an addition is turned down, and nothing else changes. -/
theorem Underway.fill (underway : workspace.Underway comparison infos filled)
    (batched : Bool) (listed : infos[filled]? = some info)
    (grouped : additions.Pairwise fun first second => first.group ≤ second.group)
    (distinct : (additions.flatMap fun addition => addition.edit.drawn).Nodup) :
    ∃ reached project,
      Manifest.fill batched workspace filled (additions.map Addition.edit) =
        ((Addition.accept comparison info.id (workspace.snapshot.closes info.id) [] additions).1,
          reached) ∧
      reached.Underway comparison infos (filled + 1) ∧
      workspace.snapshot.Replaced info.id project reached.snapshot ∧
      Transition.effects (workspace.snapshot.closes info.id) (.ofInfo info)
        ((Addition.accept comparison info.id (workspace.snapshot.closes info.id) [] additions).2.map
          (Addition.transition fun reference =>
            reconcile info.id reference workspace.host.outputs workspace.snapshot)) =
        .ok project := by
  have found := underway.drafts filled info (Nat.le_refl _) listed
  let start : Session := { host := workspace.host, draft := .ofInfo comparison info }
  have blank : start.Blank comparison (.ofInfo info) := Session.blank_ofInfo rfl
    underway.accepting underway.keyed (underway.projects filled info (Nat.le_refl _) listed)
  obtain ⟨scopes, session, project, fills, done⟩ :=
    fill_eq batched found rfl blank grouped distinct
  have replaced : workspace.snapshot.Replaced info.id project session.current := done.replaced
  have project_id : project.id = info.id := Transition.id_eq_of_effects done.committed
  refine ⟨workspace.resume filled scopes session, project, fills, ?_, replaced, done.committed⟩
  exact
    { accepting := done.accepting
      keyed := replaced.keyed underway.keyed project_id
      outputs_eq := done.outputs_eq.trans underway.outputs_eq
      ids_eq := replaced.ids_eq.trans underway.ids_eq
      drafts := fun place other after there => by
        show (workspace.drafts.set filled session.draft)[place]? = _
        rw [List.getElem?_set_ne (by omega)]
        exact underway.drafts place other (by omega) there
      projects := fun place other after there => by
        have differs : other.id ≠ info.id := underway.id_ne listed there (by omega)
        exact (replaced.project?_of_ne differs).trans
          (underway.projects place other (by omega) there) }

end Workspace

namespace Manifest

open Workspace (Opened)

variable {comparison : PathComparison} {infos : List ProjectInfo} {workspace : Workspace}

/-- The descriptions of entries, the first of which stands at a place. -/
def infosFrom (draws : Draws) (first : Nat) (entries : List ProjectManifest) :
    List ProjectInfo :=
  entries.mapIdx fun place entry => entry.info (draws.project (first + place))

theorem infosFrom_cons (draws : Draws) (first : Nat) (entry : ProjectManifest)
    (rest : List ProjectManifest) :
    infosFrom draws first (entry :: rest) =
      entry.info (draws.project first) :: infosFrom draws (first + 1) rest := by
  rw [infosFrom, List.mapIdx_cons, infosFrom]
  simp only [Nat.add_zero, Nat.add_assoc, Nat.add_comm 1]

/-- Either all projects are created, each with a draft at its place, or something of an entry is
blank or an identity was drawn twice. -/
theorem createEach_cases (draws : Draws) (opened : workspace.Opened comparison infos)
    (entries : List ProjectManifest) :
    (∃ created, createEach draws workspace infos.length entries =
        (.ok (List.range' infos.length entries.length), created) ∧
      created.Opened comparison (infos ++ infosFrom draws infos.length entries) ∧
      ∀ entry ∈ entries, entry.blank? = none) ∨
    (∃ error attempted, createEach draws workspace infos.length entries =
        (.error error, attempted)) ∧
      (((infos ++ infosFrom draws infos.length entries).map ProjectInfo.id).Nodup →
        ∃ entry ∈ entries, entry.blank? ≠ none) := by
  induction entries generalizing infos workspace with
  | nil =>
    refine .inl ⟨workspace, rfl, ?_, nofun⟩
    rwa [infosFrom, List.mapIdx_nil, List.append_nil]
  | cons entry rest ih =>
    rw [createEach, infosFrom_cons]
    rcases opened.createProject (entry.info (draws.project infos.length)) with
      ⟨named, -, created, creates, reached⟩ | ⟨wrong, failure, attempted, fails⟩
    · have later := ih reached
      rw [List.length_append, List.length_singleton, List.append_assoc,
        List.singleton_append] at later
      rw [creates]
      rcases later with ⟨last, all_created, all_opened, all_named⟩ |
        ⟨⟨error, attempted, fails⟩, wrong⟩
      · refine .inl ⟨last, ?_, all_opened, List.forall_mem_cons.mpr ⟨named, all_named⟩⟩
        simp only [all_created]
        rfl
      · refine .inr ⟨⟨error, attempted, ?_⟩, fun distinct => ?_⟩
        · simp only [fails]
          rfl
        · obtain ⟨other, other_mem, blank⟩ := wrong distinct
          exact ⟨other, List.mem_cons_of_mem _ other_mem, blank⟩
    · rw [fails]
      refine .inr ⟨⟨_, _, rfl⟩, fun distinct => ?_⟩
      rcases wrong with blank | taken
      · exact ⟨entry, List.mem_cons_self, blank⟩
      · rw [List.map_append, List.map_cons] at distinct
        exact absurd rfl ((List.nodup_append.mp distinct).2.2 _ taken _ List.mem_cons_self)

/-! ## Drawn identities -/

/-- Identities that count the projects and the documents of each of them. -/
def counting : Draws where
  project place := ⟨.ofNat (place + 1)⟩
  document project place := ⟨.ofNat (100 * (project + 1) + place)⟩

/-- The identities of all documents of a manifest. -/
def documentIds (manifest : Manifest) (draws : Draws) : List DocumentId :=
  (manifest.projects.mapIdx fun place entry => entry.documentIds (draws.document place)).flatten

theorem documentIds_nodup {manifest : Manifest} {draws : Draws}
    (distinct : (manifest.documentIds draws).Nodup) {place : Nat} {entry : ProjectManifest}
    (listed : manifest.projects[place]? = some entry) :
    (entry.documentIds (draws.document place)).Nodup := by
  have drawn : (manifest.projects.mapIdx fun place entry =>
      entry.documentIds (draws.document place))[place]? =
        some (entry.documentIds (draws.document place)) := by
    rw [List.getElem?_mapIdx, listed]
    rfl
  exact (List.nodup_flatten.mp distinct).1 _ (List.mem_of_getElem? drawn)

end Manifest

end CodeWorkspace
