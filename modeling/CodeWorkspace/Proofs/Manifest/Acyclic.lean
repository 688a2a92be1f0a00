import CodeWorkspace.Proofs.Manifest.Intended
import CodeWorkspace.Proofs.Transition.Target

/-!
# Loading a manifest without cycles

While a manifest is loaded, references only lead where the intended graph has an edge.  If that
graph has no cycles, then none is ever in the way: metadata references that mean a project are
converted, and whether an entry loads and what its project comes to is told by the entry and by what
is published, whatever was filled before.
-/

namespace CodeWorkspace

/-! ## References that close no cycle -/

namespace Project

variable {project changed : Project} {closes : ProjectId → Bool} {reference : ProjectReference}
  {holder : ReferenceHolder}

theorem hold_eq_of_open (passed : closes reference.target = false) :
    project.hold closes reference holder = project.hold (fun _ => false) reference holder := by
  simp only [hold, passed]

end Project

namespace Addition

variable {comparison : PathComparison} {owner target : ProjectId} {closes : ProjectId → Bool}
  {represent other : MetadataReference → Representation} {done rest additions : List Addition}
  {addition : Addition} {project changed : Project}

/-- Some addition comes to a reference to a project. -/
def LeadTo (represent : MetadataReference → Representation) (additions : List Addition)
    (target : ProjectId) : Prop :=
  .project target ∈ additions ∨ ∃ reference line,
    .metadata reference ∈ additions ∧ represent reference = .structural line ∧
      line.target = target

theorem LeadTo.mono (leads : LeadTo represent rest target) (known : rest ⊆ additions) :
    LeadTo represent additions target := by
  rcases leads with named | ⟨reference, line, added, represented, target_eq⟩
  · exact .inl (known named)
  · exact .inr ⟨reference, line, known added, represented, target_eq⟩

/-- What an addition comes to if no cycle is in the way. -/
theorem effect_eq_of_open (passed : ∀ target, LeadTo represent [addition] target →
    closes target = false) (project : Project) :
    (addition.transition represent).effect closes project =
      (addition.transition represent).effect (fun _ => false) project := by
  cases addition with
  | file collection path kind id => rfl
  | metadata reference =>
    simp only [transition]
    cases represented : represent reference with
    | content kept => rfl
    | structural line =>
      exact Project.hold_eq_of_open
        (passed _ (.inr ⟨reference, line, List.mem_cons_self, represented, rfl⟩))
  | project target => exact Project.hold_eq_of_open (passed target (.inl List.mem_cons_self))
  | analyzer path => rfl

theorem effects_eq_of_open (passed : ∀ target, LeadTo represent additions target →
    closes target = false) (project : Project) :
    Transition.effects closes project (additions.map (transition represent)) =
      Transition.effects (fun _ => false) project (additions.map (transition represent)) := by
  induction additions generalizing project with
  | nil => rfl
  | cons addition rest ih =>
    have head_passed (target : ProjectId) (leads : LeadTo represent [addition] target) :
        closes target = false := passed target (leads.mono (by simp))
    have rest_passed (target : ProjectId) (leads : LeadTo represent rest target) :
        closes target = false := passed target (leads.mono (List.subset_cons_self _ _))
    rw [List.map_cons, Transition.effects, Transition.effects, effect_eq_of_open head_passed]
    cases (addition.transition represent).effect (fun _ => false) project with
    | error fault => rfl
    | ok changed => exact ih rest_passed changed

theorem leadTo_of_target? (named : (addition.transition represent).target? = some target) :
    LeadTo represent [addition] target := by
  cases addition with
  | file collection path kind id => cases named
  | metadata reference =>
    rw [transition] at named
    cases represented : represent reference with
    | content kept =>
      rw [represented] at named
      cases named
    | structural line =>
      rw [represented] at named
      exact .inr ⟨reference, line, List.mem_cons_self, represented, Option.some.inj named⟩
  | project reached =>
    exact .inl (List.mem_singleton.mpr (congrArg Addition.project (Option.some.inj named).symm))
  | analyzer path => cases named

/-- A project comes to refer only to what additions lead to. -/
theorem refersTo_of_effects (completed : Transition.effects closes project
      (additions.map (transition represent)) = .ok changed)
    (refers : changed.refersTo target = true) :
    project.refersTo target = true ∨ LeadTo represent additions target := by
  induction additions generalizing project with
  | nil =>
    cases completed
    exact .inl refers
  | cons addition rest ih =>
    obtain ⟨middle, made, rest_made⟩ := Transition.effects_cons_ok.mp completed
    rcases ih rest_made with earlier | later
    · exact (Transition.refersTo_of_effect made earlier).imp_right fun named =>
        (leadTo_of_target? named).mono (by simp)
    · exact .inr (later.mono (List.subset_cons_self _ _))

theorem map_transition_congr (same : ∀ reference, .metadata reference ∈ additions →
    represent reference = other reference) :
    additions.map (transition represent) = additions.map (transition other) := by
  refine List.map_congr_left fun addition added => ?_
  cases addition with
  | metadata reference => exact congrArg Transition.addReference (same reference added)
  | _ => rfl

/-- What is turned down if no cycle is in the way. -/
theorem accept_eq_of_open (passed : ∀ target, .project target ∈ rest → closes target = false) :
    accept comparison owner closes done rest =
      accept comparison owner (fun _ => false) done rest := by
  induction rest generalizing done with
  | nil => rfl
  | cons addition rest ih =>
    have refusal_eq : addition.refusal? comparison owner closes done =
        addition.refusal? comparison owner (fun _ => false) done := by
      cases addition with
      | project target => simp only [refusal?, clash?, passed target List.mem_cons_self]
      | _ => rfl
    rw [accept, accept, refusal_eq,
      ih fun target known => passed target (List.mem_cons_of_mem _ known)]

end Addition

namespace ProjectManifest

variable {entry : ProjectManifest} {targets : List ProjectId} {document : Nat → DocumentId}

theorem project_mem_additions {target : ProjectId} :
    .project target ∈ entry.additions targets document ↔ target ∈ targets := by
  simp [additions, List.mem_mapIdx]

theorem metadata_mem_additions {reference : MetadataReference} :
    .metadata reference ∈ entry.additions targets document ↔
      ∃ listed ∈ entry.metadataReferences, listed.reference = reference := by
  simp [additions, List.mem_mapIdx]

end ProjectManifest

/-! ## Filling along the intended graph -/

namespace Manifest

open Workspace (Underway)

variable {manifest : Manifest} {comparison : PathComparison} {draws : Draws}
  {entry : ProjectManifest} {workspace : Workspace} {snapshot : Snapshot}

/-- A manifest without cycles, all of whose names and drawn identities are different. -/
structure Proper (manifest : Manifest) (comparison : PathComparison) (draws : Draws) : Prop where
  distinct : manifest.names.Nodup
  acyclic : manifest.Acyclic comparison
  fresh : manifest.Fresh draws

/-- What an entry adds to its project. -/
def additionsOf (manifest : Manifest) (draws : Draws) (entry : ProjectManifest) : List Addition :=
  entry.additions (entry.projectReferences.map (manifest.idOf draws))
    (draws.document (manifest.placeOf entry.name))

/-- An entry can be loaded as far as cycles are not in the way. -/
def Loads (manifest : Manifest) (comparison : PathComparison) (draws : Draws)
    (entry : ProjectManifest) : Prop :=
  entry.projectReferences ⊆ manifest.names ∧
    (Addition.accept comparison (manifest.idOf draws entry.name) (fun _ => false) []
      (manifest.additionsOf draws entry)).1 = .ok ()

instance (entry : ProjectManifest) : Decidable (manifest.Loads comparison draws entry) :=
  inferInstanceAs (Decidable (_ ∧ _))

/-- A project is what an entry comes to if cycles are not in the way. -/
def Fills (manifest : Manifest) (comparison : PathComparison) (draws : Draws)
    (entry : ProjectManifest) (project : Project) : Prop :=
  Transition.effects (fun _ => false) (.ofInfo (entry.info (manifest.idOf draws entry.name)))
    ((manifest.additionsOf draws entry).map
      (Addition.transition (manifest.settleIn comparison draws entry))) = .ok project

/-- References between the projects of a snapshot are intended. -/
def Covers (manifest : Manifest) (comparison : PathComparison) (draws : Draws)
    (snapshot : Snapshot) : Prop :=
  ∀ source target, snapshot.Refers source target →
    ∃ name ∈ manifest.names, ∃ other ∈ manifest.names, manifest.Intends comparison name other ∧
      source = manifest.idOf draws name ∧ target = manifest.idOf draws other

theorem Covers.chain (covers : manifest.Covers comparison draws snapshot)
    (fresh : manifest.Fresh draws) {name : String} (name_mem : name ∈ manifest.names)
    {last : ProjectId}
    (chain : Relation.ReflTransGen snapshot.Refers (manifest.idOf draws name) last) :
    ∃ other ∈ manifest.names, last = manifest.idOf draws other ∧
      Relation.ReflTransGen (manifest.Intends comparison) name other := by
  induction chain with
  | refl => exact ⟨name, name_mem, rfl, .refl⟩
  | tail _ edge ih =>
    obtain ⟨middle, middle_mem, rfl, intended⟩ := ih
    obtain ⟨source, source_mem, other, other_mem, intends, same, rfl⟩ := covers _ _ edge
    obtain rfl := idOf_injective fresh middle_mem source_mem same
    exact ⟨other, other_mem, rfl, intended.tail intends⟩

/-- An intended reference closes no cycle. -/
theorem Covers.closes_eq_false (covers : manifest.Covers comparison draws snapshot)
    (proper : manifest.Proper comparison draws) (keyed : snapshot.Keyed) {name other : String}
    (name_mem : name ∈ manifest.names) (other_mem : other ∈ manifest.names)
    (intends : manifest.Intends comparison name other) :
    snapshot.closes (manifest.idOf draws name) (manifest.idOf draws other) = false := by
  rw [← Bool.not_eq_true, Snapshot.closes, Snapshot.wouldCreateCycle_ofSnapshot keyed,
    Snapshot.closes_iff_chain]
  intro chain
  obtain ⟨last, last_mem, same, intended⟩ := covers.chain proper.fresh other_mem chain
  obtain rfl := idOf_injective proper.fresh name_mem last_mem same
  exact proper.acyclic name (Relation.TransGen.head' intends intended)

/-- What an entry adds leads only to projects that it is intended to refer to. -/
theorem exists_intends_of_leadTo (proper : manifest.Proper comparison draws)
    (entry_mem : entry ∈ manifest.projects) (known : entry.projectReferences ⊆ manifest.names)
    {target : ProjectId} (leads : Addition.LeadTo (manifest.settleIn comparison draws entry)
      (manifest.additionsOf draws entry) target) :
    ∃ other ∈ manifest.names, manifest.Intends comparison entry.name other ∧
      target = manifest.idOf draws other := by
  rcases leads with named | ⟨reference, line, added, settled, rfl⟩
  · rw [additionsOf, ProjectManifest.project_mem_additions] at named
    obtain ⟨other, other_mem, rfl⟩ := List.mem_map.mp named
    exact ⟨other, known other_mem, ⟨entry, entry_mem, rfl, .inl other_mem⟩, rfl⟩
  · rw [additionsOf, ProjectManifest.metadata_mem_additions] at added
    obtain ⟨listed, listed_mem, rfl⟩ := added
    rcases settle_cases proper.distinct proper.fresh comparison entry_mem listed with
      ⟨publisher, means, structural⟩ | ⟨-, content⟩
    · rw [structural] at settled
      cases settled
      exact ⟨publisher.name, mem_names means.2.1.1,
        ⟨entry, entry_mem, rfl, .inr ⟨listed, listed_mem, publisher, means, rfl⟩⟩, rfl⟩
    · rw [content] at settled
      cases settled

/-- The first entries of a manifest have been filled, as they would be without cycles in the
way. -/
structure Settled (manifest : Manifest) (comparison : PathComparison) (draws : Draws)
    (front : List ProjectManifest) (workspace : Workspace) : Prop where
  underway : workspace.Underway comparison (infosFrom draws 0 manifest.projects) front.length
  covers : manifest.Covers comparison draws workspace.snapshot
  filled : ∀ entry ∈ front, manifest.Loads comparison draws entry ∧
    ∃ project, workspace.snapshot.project? (manifest.idOf draws entry.name) = some project ∧
      manifest.Fills comparison draws entry project

theorem Settled.ids_eq {front : List ProjectManifest} (proper : manifest.Proper comparison draws)
    (settled : manifest.Settled comparison draws front workspace) :
    workspace.snapshot.ids =
      manifest.projects.map fun entry => manifest.idOf draws entry.name := by
  rw [settled.underway.ids_eq, infosFrom_eq_map proper.distinct, List.map_map]
  rfl

/-- What an entry adds leads to projects that are there, and closes no cycle. -/
theorem Settled.open_to (proper : manifest.Proper comparison draws) {front : List ProjectManifest}
    (settled : manifest.Settled comparison draws front workspace)
    (entry_mem : entry ∈ manifest.projects) (known : entry.projectReferences ⊆ manifest.names)
    (target : ProjectId) (leads : Addition.LeadTo (manifest.settleIn comparison draws entry)
      (manifest.additionsOf draws entry) target) :
    workspace.snapshot.contains target = true ∧
      workspace.snapshot.closes (manifest.idOf draws entry.name) target = false := by
  obtain ⟨other, other_mem, intends, rfl⟩ :=
    exists_intends_of_leadTo proper entry_mem known leads
  constructor
  · obtain ⟨named, named_mem, rfl⟩ := List.mem_map.mp other_mem
    rw [← Snapshot.mem_ids_iff, settled.ids_eq proper]
    exact List.mem_map_of_mem named_mem
  · exact settled.covers.closes_eq_false proper settled.underway.keyed (mem_names entry_mem)
      other_mem intends

/-- Filling the project of an entry adds intended references only. -/
theorem Covers.replaced (covers : manifest.Covers comparison draws snapshot)
    (proper : manifest.Proper comparison draws) (entry_mem : entry ∈ manifest.projects)
    (known : entry.projectReferences ⊆ manifest.names)
    {project : Project} (fills : manifest.Fills comparison draws entry project) {next : Snapshot}
    (replaced : snapshot.Replaced (manifest.idOf draws entry.name) project next) :
    manifest.Covers comparison draws next := by
  intro source target refers
  by_cases here : source = manifest.idOf draws entry.name
  · subst here
    obtain ⟨found, found_eq, leads⟩ := refers
    rw [replaced.found] at found_eq
    cases found_eq
    rcases Addition.refersTo_of_effects fills leads with before | added
    · cases before
    · obtain ⟨other, other_mem, intends, target_eq⟩ :=
        exists_intends_of_leadTo proper entry_mem known added
      exact ⟨entry.name, mem_names entry_mem, other, other_mem, intends, rfl, target_eq⟩
  · exact covers source target ((replaced.refers_iff here).mp refers)

theorem Settled.accept_eq (proper : manifest.Proper comparison draws)
    {front : List ProjectManifest}
    (settled : manifest.Settled comparison draws front workspace)
    (entry_mem : entry ∈ manifest.projects) (known : entry.projectReferences ⊆ manifest.names) :
    Addition.accept comparison (manifest.idOf draws entry.name)
        (workspace.snapshot.closes (manifest.idOf draws entry.name)) []
        (manifest.additionsOf draws entry) =
      Addition.accept comparison (manifest.idOf draws entry.name) (fun _ => false) []
        (manifest.additionsOf draws entry) :=
  Addition.accept_eq_of_open fun target named =>
    (settled.open_to proper entry_mem known target (.inl named)).2

/-- What the additions of an entry come to does not depend on what was filled before. -/
theorem Settled.effects_eq (proper : manifest.Proper comparison draws)
    {front : List ProjectManifest}
    (settled : manifest.Settled comparison draws front workspace)
    (entry_mem : entry ∈ manifest.projects) (known : entry.projectReferences ⊆ manifest.names)
    (project : Project) :
    Transition.effects (workspace.snapshot.closes (manifest.idOf draws entry.name)) project
        ((manifest.additionsOf draws entry).map (Addition.transition fun reference =>
          reconcile (manifest.idOf draws entry.name) reference workspace.host.outputs
            workspace.snapshot)) =
      Transition.effects (fun _ => false) project
        ((manifest.additionsOf draws entry).map
          (Addition.transition (manifest.settleIn comparison draws entry))) := by
  have open_to := settled.open_to proper entry_mem known
  have settled_eq (reference : MetadataReference)
      (added : .metadata reference ∈ manifest.additionsOf draws entry) :
      reconcile (manifest.idOf draws entry.name) reference workspace.host.outputs
          workspace.snapshot =
        manifest.settleIn comparison draws entry reference := by
    rw [settled.underway.outputs_eq, ← outputs]
    exact reconcile_eq_settle fun line structural =>
      open_to line.target (.inr ⟨reference, line, added, structural, rfl⟩)
  rw [Addition.map_transition_congr settled_eq]
  exact Addition.effects_eq_of_open (fun target leads => (open_to target leads).2) project

theorem Settled.concat (proper : manifest.Proper comparison draws)
    {front back : List ProjectManifest} {reached : Workspace} {project : Project}
    (settled : manifest.Settled comparison draws front workspace)
    (split : manifest.projects = front ++ entry :: back)
    (loads : manifest.Loads comparison draws entry)
    (fills : manifest.Fills comparison draws entry project)
    (replaced : workspace.snapshot.Replaced (manifest.idOf draws entry.name) project
      reached.snapshot)
    (next : reached.Underway comparison (infosFrom draws 0 manifest.projects)
      (front.length + 1)) :
    manifest.Settled comparison draws (front ++ [entry]) reached := by
  have entry_mem : entry ∈ manifest.projects := split ▸ by simp
  have length_eq : (front ++ [entry]).length = front.length + 1 := List.length_append
  refine ⟨length_eq ▸ next, settled.covers.replaced proper entry_mem loads.1 fills replaced,
    fun other other_mem => ?_⟩
  rcases List.mem_append.mp other_mem with earlier | here
  · obtain ⟨other_loads, found, found_eq, other_fills⟩ := settled.filled other earlier
    have apart : manifest.idOf draws other.name ≠ manifest.idOf draws entry.name := by
      intro same
      have other_mem : other ∈ manifest.projects := split ▸ List.mem_append_left _ earlier
      have names_eq := idOf_injective proper.fresh (mem_names other_mem) (mem_names entry_mem) same
      have distinct := proper.distinct
      rw [names, split, List.map_append, List.map_cons] at distinct
      exact (List.nodup_append.mp distinct).2.2 _ (List.mem_map_of_mem earlier) _
        List.mem_cons_self names_eq
    exact ⟨other_loads, found, (replaced.project?_of_ne apart).trans found_eq, other_fills⟩
  · obtain rfl := List.mem_singleton.mp here
    exact ⟨loads, project, replaced.found, fills⟩

/-- The next entry is filled if it loads. -/
theorem Settled.fill (proper : manifest.Proper comparison draws) {front back : List ProjectManifest}
    (settled : manifest.Settled comparison draws front workspace)
    (split : manifest.projects = front ++ entry :: back)
    (known : entry.projectReferences ⊆ manifest.names) (batched : Bool) :
    ∃ reached, Manifest.fill batched workspace front.length
        (entry.edits (entry.projectReferences.map (manifest.idOf draws))
          (draws.document front.length)) =
        ((Addition.accept comparison (manifest.idOf draws entry.name) (fun _ => false) []
          (manifest.additionsOf draws entry)).1, reached) ∧
      (manifest.Loads comparison draws entry →
        manifest.Settled comparison draws (front ++ [entry]) reached) := by
  have entry_mem : entry ∈ manifest.projects := split ▸ by simp
  have listed : manifest.projects[front.length]? = some entry := by simp [split]
  have info_listed : (infosFrom draws 0 manifest.projects)[front.length]? =
      some (entry.info (manifest.idOf draws entry.name)) := by
    rw [infosFrom_eq_map proper.distinct, List.getElem?_map, listed, Option.map_some]
  have drawn := documentIds_nodup proper.fresh.documents listed
  rw [← placeOf_eq proper.distinct listed, ← entry.drawn_additions
    (entry.projectReferences.map (manifest.idOf draws))] at drawn
  obtain ⟨reached, project, fills, next, replaced, committed⟩ :=
    settled.underway.fill batched info_listed (entry.grouped_additions _ _) drawn
  have id_eq : (entry.info (manifest.idOf draws entry.name)).id = manifest.idOf draws entry.name :=
    rfl
  have edits_eq : entry.edits (entry.projectReferences.map (manifest.idOf draws))
      (draws.document front.length) =
        (manifest.additionsOf draws entry).map Addition.edit := by
    rw [entry.edits_eq, additionsOf, placeOf_eq proper.distinct listed]
  rw [← additionsOf, id_eq, settled.accept_eq proper entry_mem known]
    at fills committed
  refine ⟨reached, edits_eq ▸ fills, fun loads => ?_⟩
  rw [Addition.accept_eq_of_ok loads.2, List.nil_append,
    settled.effects_eq proper entry_mem known] at committed
  exact settled.concat proper split loads committed replaced next

/-! ## Loading -/

/-- The identities by which the projects of a manifest are known once it is loaded. -/
def answer (manifest : Manifest) (draws : Draws) : List (String × ProjectId) :=
  manifest.projects.map fun entry => (entry.name, manifest.idOf draws entry.name)

/-- Either all entries are filled, or there is one that does not load. -/
theorem fillEach_cases (proper : manifest.Proper comparison draws) (batched : Bool)
    {front : List ProjectManifest} (settled : manifest.Settled comparison draws front workspace)
    (entries : List ProjectManifest) (split : manifest.projects = front ++ entries) :
    (∃ last, manifest.fillEach draws batched workspace front.length
        (entries.zip (List.range' front.length entries.length)) = (.ok (), last) ∧
      manifest.Settled comparison draws manifest.projects last) ∨
    (∃ error last, manifest.fillEach draws batched workspace front.length
        (entries.zip (List.range' front.length entries.length)) = (.error error, last)) ∧
      ∃ entry ∈ entries, ¬ manifest.Loads comparison draws entry := by
  induction entries generalizing front workspace with
  | nil =>
    rw [List.append_nil] at split
    exact .inl ⟨workspace, rfl, split ▸ settled⟩
  | cons entry rest ih =>
    rw [List.length_cons, List.range'_succ, List.zip_cons_cons, fillEach]
    rcases targets_eq proper.distinct draws entry with ⟨known, found⟩ | ⟨unknown, error, missing⟩
    · rw [found]
      obtain ⟨reached, fills, next⟩ :=
        settled.fill proper split known batched
      simp only [fills]
      cases admitted : (Addition.accept comparison (manifest.idOf draws entry.name) (fun _ => false)
          [] (manifest.additionsOf draws entry)).1 with
      | error failure =>
        refine .inr ⟨⟨_, _, rfl⟩, entry, List.mem_cons_self, fun loads => ?_⟩
        cases loads.2.symm.trans admitted
      | ok done =>
        have later := ih (next ⟨known, admitted⟩) (by rw [split, List.append_assoc]; rfl)
        rw [List.length_append, List.length_singleton] at later
        refine later.imp_right fun ⟨fails, other, other_mem, refused⟩ => ?_
        exact ⟨fails, other, List.mem_cons_of_mem _ other_mem, refused⟩
    · rw [missing]
      exact .inr ⟨⟨_, _, rfl⟩, entry, List.mem_cons_self, fun loads => unknown loads.1⟩

theorem settled_of_opened
    (opened : workspace.Opened comparison (infosFrom draws 0 manifest.projects)) :
    manifest.Settled comparison draws [] workspace where
  underway := opened.underway
  covers source target refers := by
    obtain ⟨project, found, leads⟩ := refers
    rw [← Snapshot.mem_contents_iff, opened.contents_eq] at found
    obtain ⟨info, -, pair_eq⟩ := List.mem_map.mp found
    cases pair_eq
    cases leads
  filled _ entry_mem := by cases entry_mem

/-- A manifest without cycles is loaded unless something is blank in an entry or an entry does not
load by itself; its projects are what the entries come to. -/
theorem load_cases (proper : manifest.Proper comparison draws) (batched : Bool) :
    (∃ last, manifest.load draws batched (.inMemory comparison) =
        (.ok (manifest.answer draws), last) ∧
      (∀ entry ∈ manifest.projects, entry.blank? = none) ∧
      manifest.Settled comparison draws manifest.projects last) ∨
    (∃ error last, manifest.load draws batched (.inMemory comparison) = (.error error, last)) ∧
      ∃ entry ∈ manifest.projects,
        entry.blank? ≠ none ∨ ¬ manifest.Loads comparison draws entry := by
  rcases createEach_cases draws (Workspace.opened_inMemory comparison) manifest.projects with
    ⟨created, creates, opened, named⟩ | ⟨⟨error, last, fails⟩, wrong⟩
  · rw [List.nil_append] at opened
    rw [List.length_nil] at creates opened
    have outcome := fillEach_cases proper batched
      (settled_of_opened opened) manifest.projects rfl
    rw [List.length_nil] at outcome
    simp only [load, creates]
    rcases outcome with ⟨last, fills, settled⟩ | ⟨⟨error, last, fails⟩, entry, entry_mem, refused⟩
    · refine .inl ⟨last, ?_, named, settled⟩
      simp only [fills, mapIdx_eq_map proper.distinct]
      rfl
    · refine .inr ⟨⟨error, last, ?_⟩, entry, entry_mem, .inr refused⟩
      simp only [fails]
      rfl
  · rw [List.length_nil, List.nil_append] at wrong
    rw [List.length_nil] at fails
    refine .inr ⟨⟨error, last, by simp only [load, fails]⟩, ?_⟩
    have ids_eq : (infosFrom draws 0 manifest.projects).map ProjectInfo.id =
        (List.range manifest.projects.length).map draws.project := by
      apply List.ext_getElem <;> simp [infosFrom, ProjectManifest.info]
    obtain ⟨entry, entry_mem, blank⟩ := wrong (ids_eq ▸ proper.fresh.projects)
    exact ⟨entry, entry_mem, .inl blank⟩

/-- A manifest without cycles is loaded if and only if each of its entries loads by itself. -/
theorem load_ok_iff (proper : manifest.Proper comparison draws) (batched : Bool) :
    (manifest.load draws batched (.inMemory comparison)).1 = .ok (manifest.answer draws) ↔
      ∀ entry ∈ manifest.projects,
        entry.blank? = none ∧ manifest.Loads comparison draws entry := by
  rcases load_cases proper batched with
    ⟨last, loads, named, settled⟩ | ⟨⟨error, last, fails⟩, entry, entry_mem, wrong⟩
  · rw [loads]
    exact iff_of_true rfl fun entry entry_mem =>
      ⟨named entry entry_mem, (settled.filled entry entry_mem).1⟩
  · rw [fails]
    refine iff_of_false (fun loads => by cases loads) fun all => ?_
    rcases wrong with blank | refused
    · exact blank (all entry entry_mem).1
    · exact refused (all entry entry_mem).2

end Manifest

end CodeWorkspace
