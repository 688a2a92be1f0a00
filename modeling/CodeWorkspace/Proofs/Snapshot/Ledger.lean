import CodeWorkspace.Proofs.Project.Holders
import CodeWorkspace.Proofs.Transition.Part

/-!
# A ledger of the holders of references

The plain account of who holds what has a line for every reference of every project, with a flag
for the direct holder and a count of the converted ones.  An operation that was accepted changes
its own lines; one that was turned away changes none.  A snapshot records far less, nothing at all
for a reference that is just held directly, and still agrees with the ledger after any operations:
in what it refers to, in who holds it and in what it turns away.
-/

namespace CodeWorkspace

/-- What is outstanding on a reference: whether it is held directly, and how often it was held as
converted without being released. -/
structure Tally where
  direct : Bool := false
  converted : Int := 0
  deriving DecidableEq

namespace Tally

variable {holders : Holders}

/-- Whether a holder is outstanding. -/
def has (tally : Tally) : ReferenceHolder → Bool
  | .direct => tally.direct
  | .converted => 0 < tally.converted

/-- Whether any holder is outstanding. -/
def isOpen (tally : Tally) : Bool := tally.has .direct || tally.has .converted

/-- The tally with one more holder. -/
def hold (tally : Tally) : ReferenceHolder → Tally
  | .direct => { tally with direct := true }
  | .converted => { tally with converted := tally.converted + 1 }

/-- The tally with one holder less. -/
def release (tally : Tally) : ReferenceHolder → Tally
  | .direct => { tally with direct := false }
  | .converted => { tally with converted := tally.converted - 1 }

/-- The tally of the holders that a project knows of. -/
def ofHolders (holders : Holders) : Tally :=
  { direct := holders.direct, converted := holders.converted }

theorem ofHolders_add (holders : Holders) (holder : ReferenceHolder) :
    ofHolders (holders.add holder) = (ofHolders holders).hold holder := by
  cases holder <;> simp [ofHolders, Holders.add, hold]

theorem ofHolders_remove {holder : ReferenceHolder} (held : holders.includes holder = true) :
    ofHolders (holders.remove holder) = (ofHolders holders).release holder := by
  cases holder with
  | direct => rfl
  | converted =>
    simp only [Holders.includes, decide_eq_true_eq] at held
    simp only [ofHolders, Holders.remove, release, mk.injEq, true_and]
    omega

theorem has_ofHolders (holders : Holders) (holder : ReferenceHolder) :
    (ofHolders holders).has holder = holders.includes holder := by
  cases holder <;> simp [ofHolders, has, Holders.includes]

theorem isOpen_ofHolders (holders : Holders) : (ofHolders holders).isOpen = !holders.isEmpty := by
  obtain ⟨direct, converted⟩ := holders
  cases direct <;> cases converted <;> simp [ofHolders, isOpen, has, Holders.isEmpty]

end Tally

/-! ## Keeping the ledger -/

/-- What is outstanding on the references of one project. -/
abbrev Page := ProjectReference → Tally

namespace Page

/-- The page on which nothing is outstanding. -/
def blank : Page := fun _ => {}

/-- The page with a change of one line. -/
def change (page : Page) (reference : ProjectReference) (change : Tally → Tally) : Page :=
  Function.update page reference (change (page reference))

/-- The page after a transition was carried out. -/
def enter (page : Page) : Transition → Page
  | .addReference (.structural reference) => page.change reference (·.hold .converted)
  | .removeReference (.structural reference) =>
    if (page reference).has .converted then page.change reference (·.release .converted) else page
  | .addProjectReference reference => page.change reference (·.hold .direct)
  | .removeProjectReference reference => page.change reference (·.release .direct)
  | _ => page

end Page

/-- What is outstanding on the references of all projects. -/
abbrev Ledger := ProjectId → Page

namespace Ledger

/-- The ledger in which nothing is outstanding. -/
def blank : Ledger := fun _ => .blank

/-- The ledger with a change of one page. -/
def turn (ledger : Ledger) (id : ProjectId) (change : Page → Page) : Ledger :=
  Function.update ledger id (change (ledger id))

/-- The ledger without the page of a project and without the lines of references to it. -/
def strike (ledger : Ledger) (id : ProjectId) : Ledger := fun source reference =>
  if source = id ∨ reference.target = id then {} else ledger source reference

/-- The ledger after an operation that was accepted. -/
def enter (ledger : Ledger) : Snapshot.Operation → Ledger
  | .removeProject id => ledger.strike id
  | .addProjectReference source reference =>
    ledger.turn source fun page => page.change reference (·.hold .direct)
  | .holdProjectReference source reference holder =>
    ledger.turn source fun page => page.change reference (·.hold holder)
  | .releaseProjectReference source reference holder =>
    ledger.turn source fun page => page.change reference (·.release holder)
  | .removeProjectReference source reference =>
    ledger.turn source fun page => page.change reference fun _ => {}
  | .applyAll id transitions => ledger.turn id fun page => transitions.foldl Page.enter page
  | _ => ledger

/-- The ledger after an operation, which may have been turned away. -/
def book (ledger : Ledger) (operation : Snapshot.Operation) (fault? : Option Fault) : Ledger :=
  match fault? with
  | none => ledger.enter operation
  | some _ => ledger

/-- The ledger after operations on a snapshot. -/
def bookAll (ledger : Ledger) (snapshot : Snapshot) : List Snapshot.Operation → Ledger
  | [] => ledger
  | operation :: rest =>
    let attempt := snapshot.perform operation
    bookAll (ledger.book operation attempt.fault?) attempt.reached rest

end Ledger

/-! ## One project -/

namespace Page

variable {page : Page} {project changed : Project} {reference : ProjectReference}
  {holder : ReferenceHolder} {closes : ProjectId → Bool}

/-- A page says of every reference of a project who holds it. -/
structure Accounts (page : Page) (project : Project) : Prop where
  booked : project.Booked
  tally_eq : ∀ reference, page reference = .ofHolders (project.holding reference)

theorem accounts_blank (info : ProjectInfo) : blank.Accounts (.ofInfo info) where
  booked := Project.booked_ofInfo info
  tally_eq _ := rfl

theorem Accounts.rebooked (accounts : page.Accounts project) {holders : Holders}
    (rebooked : project.Rebooked reference holders changed) {change : Tally → Tally}
    (same : change (.ofHolders (project.holding reference)) = .ofHolders holders) :
    (page.change reference change).Accounts changed where
  booked := rebooked.booked
  tally_eq other := by
    rw [Page.change, Function.update_apply, rebooked.holding_eq, accounts.tally_eq reference]
    split
    · exact same
    · exact accounts.tally_eq other

theorem Accounts.hold (accounts : page.Accounts project)
    (completed : project.hold closes reference holder = .ok changed) :
    (page.change reference (·.hold holder)).Accounts changed :=
  accounts.rebooked (Project.rebooked_hold accounts.booked completed)
    (Tally.ofHolders_add _ holder).symm

theorem Accounts.release (accounts : page.Accounts project)
    (completed : project.releaseProjectReference reference holder = .ok changed) :
    (page.change reference (·.release holder)).Accounts changed :=
  accounts.rebooked (Project.rebooked_release accounts.booked completed)
    (Tally.ofHolders_remove (Project.release_completes_iff.mp ⟨changed, completed⟩)).symm

theorem Accounts.addProjectReference (accounts : page.Accounts project)
    (completed : project.addProjectReference reference = .ok changed) :
    (page.change reference (·.hold .direct)).Accounts changed := by
  have absent := Project.addProjectReference_completes_iff.mp ⟨changed, completed⟩
  rw [Project.addProjectReference, if_neg absent] at completed
  cases completed
  refine accounts.rebooked (Project.rebooked_append accounts.booked absent) ?_
  rw [Project.holding_of_not_mem absent]
  rfl

theorem Accounts.removeProjectReference (accounts : page.Accounts project)
    (completed : project.removeProjectReference reference = .ok changed) :
    (page.change reference fun _ => {}).Accounts changed :=
  accounts.rebooked (Project.rebooked_removeProjectReference accounts.booked completed) rfl

theorem Accounts.of_same (accounts : page.Accounts project)
    (references_eq : changed.projectReferences = project.projectReferences)
    (holders_eq : changed.holders = project.holders) : page.Accounts changed := by
  have holding_eq (reference : ProjectReference) :
      changed.holding reference = project.holding reference := by
    rw [Project.holding, Project.holding, Project.holdersOf, Project.holdersOf, references_eq,
      holders_eq]
  obtain ⟨⟨distinct, referred, held, sparse⟩, tally_eq⟩ := accounts
  refine ⟨⟨references_eq ▸ distinct, ?_, ?_, holders_eq ▸ sparse⟩, fun reference => ?_⟩
  · rw [references_eq, holders_eq]
    exact referred
  · intro reference present
    rw [Project.holdersOf, holders_eq]
    exact held reference (references_eq ▸ present)
  · rw [holding_eq]
    exact tally_eq reference

/-- A transition that a project lets pass does to the page what it does to the project. -/
theorem Accounts.effect (accounts : page.Accounts project) {transition : Transition}
    (completed : transition.effect closes project = .ok changed) :
    (page.enter transition).Accounts changed := by
  have elsewhere (other : transition.part ≠ .references) : page.Accounts changed := by
    obtain ⟨-, references_eq, holders_eq⟩ :=
      Project.references_of_sameBut (Transition.sameBut_of_effect completed) other
    exact accounts.of_same references_eq holders_eq
  cases transition with
  | addReference representation =>
    cases representation with
    | structural reference => exact accounts.hold completed
    | content reference =>
      simp only [Transition.effect, Project.addMetadataReference] at completed
      split at completed <;> cases completed
      exact accounts.of_same rfl rfl
  | removeReference representation =>
    simp only [Transition.effect] at completed
    cases representation with
    | structural reference =>
      have held_eq : (page reference).has .converted = project.isHeldBy reference .converted := by
        rw [accounts.tally_eq, Tally.has_ofHolders, Project.isHeldBy_eq]
      simp only [enter, held_eq]
      split at completed
      · rename_i held
        rw [if_pos (show project.isHeldBy reference .converted = true from held)]
        exact accounts.release completed
      · rename_i free
        rw [if_neg (show ¬ project.isHeldBy reference .converted = true from free)]
        cases completed
        exact accounts
    | content reference =>
      split at completed
      · simp only [Project.removeMetadataReference] at completed
        split at completed <;> cases completed
        exact accounts.of_same rfl rfl
      · cases completed
        exact accounts
  | addProjectReference reference => exact accounts.hold completed
  | removeProjectReference reference => exact accounts.release completed
  | _ => exact elsewhere (by simp [Transition.part])

theorem Accounts.effects (accounts : page.Accounts project) {transitions : List Transition}
    (completed : Transition.effects closes project transitions = .ok changed) :
    (transitions.foldl enter page).Accounts changed := by
  induction transitions generalizing page project with
  | nil =>
    cases completed
    exact accounts
  | cons transition rest ih =>
    obtain ⟨middle, applied, later⟩ := Transition.effects_cons_ok.mp completed
    exact ih (accounts.effect applied) later

end Page

/-! ## All projects -/

namespace Snapshot

variable {snapshot next : Snapshot} {id : ProjectId} {project : Project}

/-- What an attempt comes to is what a project answers: if the project lets it pass, the changed
project takes its place, and if not, all projects are as they were. -/
structure Answers (snapshot : Snapshot) (id : ProjectId) (answer : Except Fault Project)
    (attempt : Attempt Snapshot) : Prop where
  yields : snapshot.Yields id answer attempt.toExcept
  kept : attempt.fault? ≠ none → ∀ other, attempt.reached.project? other = snapshot.project? other

theorem Answers.cases {answer : Except Fault Project} {attempt : Attempt Snapshot}
    (answers : snapshot.Answers id answer attempt) :
    (∃ changed, answer = .ok changed ∧ attempt.fault? = none ∧
      snapshot.Replaced id changed attempt.reached) ∨
    (∃ fault, answer = .error fault ∧ attempt.fault? = some fault ∧
      ∀ other, attempt.reached.project? other = snapshot.project? other) := by
  obtain ⟨yields, kept⟩ := answers
  obtain ⟨reached, fault?⟩ := attempt
  rcases yields.cases with
    ⟨fault, answered, refused⟩ | ⟨changed, next, answered, applied, replaced, -⟩
  · cases fault? with
    | none => cases refused
    | some other =>
      cases refused
      exact Or.inr ⟨fault, answered, rfl, kept (by simp)⟩
  · cases fault? with
    | none =>
      cases applied
      exact Or.inl ⟨changed, answered, rfl, replaced⟩
    | some other => cases applied

theorem Answers.refused_iff {answer : Except Fault Project} {attempt : Attempt Snapshot}
    (answers : snapshot.Answers id answer attempt) :
    attempt.fault? ≠ none ↔ ¬ ∃ changed, answer = .ok changed := by
  rcases answers.cases with ⟨changed, rfl, passed, _⟩ | ⟨fault, rfl, refused, _⟩
  · simp [passed]
  · simp [refused]

theorem answers_modifyWhole (found : snapshot.project? id = some project)
    (change : Project → Except Fault Project) :
    snapshot.Answers id (change project) (snapshot.modifyWhole id change) where
  yields := yields_modifyWhole found change
  kept refused other := by
    rw [modifyWhole, modify_of_found found] at refused ⊢
    cases outcome : change project with
    | ok changed => simp [outcome, Attempt.ofExcept, Attempt.map, Attempt.done] at refused
    | error fault =>
      simp only [Attempt.ofExcept, Attempt.map, Attempt.stopped, project?_write]
      split
      · rename_i same
        rw [same, found]
      · rfl

theorem answers_addProjectReference (found : snapshot.project? id = some project)
    (id_eq : project.id = id) (reference : ProjectReference) :
    snapshot.Answers id
      (if snapshot.closes id reference.target then
        .error (.cycleDetected project.id reference.target)
      else project.addProjectReference reference)
      (snapshot.addProjectReference id reference) := by
  rw [addProjectReference, closes]
  split
  · exact ⟨congrArg (Fault.cycleDetected · reference.target) id_eq, fun _ _ => rfl⟩
  · exact answers_modifyWhole found fun project => project.addProjectReference reference

theorem answers_holdProjectReference (found : snapshot.project? id = some project)
    (id_eq : project.id = id) (reference : ProjectReference) (holder : ReferenceHolder) :
    snapshot.Answers id (project.hold (snapshot.closes id) reference holder)
      (snapshot.holdProjectReference id reference holder) where
  yields := yields_holdProjectReference found id_eq reference holder
  kept refused := by
    have added := answers_addProjectReference found id_eq reference
    simp only [holdProjectReference, found] at refused ⊢
    split at refused
    · rename_i present
      rw [if_pos present]
      split at refused
      · rename_i taken
        rw [if_pos taken]
        exact fun _ => rfl
      · simp [modify_of_found found, Attempt.map, Attempt.done] at refused
    · rename_i absent
      rw [if_neg absent]
      rcases added.cases with ⟨changed, _, passed, replaced⟩ | ⟨fault, _, stopped, kept⟩
      · cases holder with
        | direct => simp [passed] at refused
        | converted =>
          simp [passed, modify_of_found replaced.found, Attempt.map, Attempt.done] at refused
      · simpa [stopped] using kept

theorem addProjectReference_of_missing (missing : snapshot.project? id = none)
    (reference : ProjectReference) :
    ∃ fault, snapshot.addProjectReference id reference = .stopped snapshot fault := by
  rw [addProjectReference]
  split
  · exact ⟨_, rfl⟩
  · exact ⟨_, modify_of_missing missing _⟩

theorem holdProjectReference_of_missing (missing : snapshot.project? id = none)
    (reference : ProjectReference) (holder : ReferenceHolder) :
    ∃ fault, snapshot.holdProjectReference id reference holder = .stopped snapshot fault := by
  rw [holdProjectReference, missing]
  exact ⟨_, rfl⟩

end Snapshot

namespace Ledger

variable {ledger : Ledger} {snapshot next : Snapshot} {id : ProjectId} {project : Project}

/-- A ledger says of every project of a snapshot who holds its references, and has blank pages for
the projects that are not there. -/
structure Agrees (ledger : Ledger) (snapshot : Snapshot) : Prop where
  sound : snapshot.Sound
  blank_of_missing : ∀ id, snapshot.project? id = none → ledger id = .blank
  accounts : ∀ id project, snapshot.project? id = some project → (ledger id).Accounts project

theorem agrees_empty : blank.Agrees .empty where
  sound := Snapshot.sound_empty
  blank_of_missing _ _ := rfl
  accounts _ _ found := by cases found

theorem turn_self (ledger : Ledger) (id : ProjectId) : (ledger.turn id fun page => page) = ledger :=
  Function.update_eq_self id ledger

theorem Agrees.of_same (agrees : ledger.Agrees snapshot) (sound : next.Sound)
    (same : ∀ other, next.project? other = snapshot.project? other) : ledger.Agrees next where
  sound := sound
  blank_of_missing other missing := agrees.blank_of_missing other ((same other).symm.trans missing)
  accounts other there found := agrees.accounts other there ((same other).symm.trans found)

theorem Agrees.write (agrees : ledger.Agrees snapshot) (sound : next.Sound) {change : Page → Page}
    {changed : Project} (found : next.project? id = some changed)
    (others : ∀ other, other ≠ id → next.project? other = snapshot.project? other)
    (accounts : (change (ledger id)).Accounts changed) : (ledger.turn id change).Agrees next where
  sound := sound
  blank_of_missing other missing := by
    have differs : other ≠ id := by
      rintro rfl
      rw [found] at missing
      cases missing
    rw [turn, Function.update_of_ne differs]
    exact agrees.blank_of_missing other ((others other differs).symm.trans missing)
  accounts other there there_found := by
    by_cases same : other = id
    · subst same
      rw [turn, Function.update_self]
      exact Option.some.inj (found.symm.trans there_found) ▸ accounts
    · rw [turn, Function.update_of_ne same]
      exact agrees.accounts other there ((others other same).symm.trans there_found)

/-- An operation on one project leaves the ledger right if the page follows the project where the
project lets the operation pass. -/
theorem Agrees.answer (agrees : ledger.Agrees snapshot) {attempt : Attempt Snapshot}
    (sound : attempt.reached.Sound) {operation : Snapshot.Operation} (change : Page → Page)
    (enter_eq : ledger.enter operation = ledger.turn id change)
    (missing : snapshot.project? id = none → ∃ fault, attempt = .stopped snapshot fault)
    {answer : Project → Except Fault Project}
    (answers : ∀ project, snapshot.project? id = some project →
      snapshot.Answers id (answer project) attempt)
    (follows : ∀ {project changed}, (ledger id).Accounts project →
      answer project = .ok changed → (change (ledger id)).Accounts changed) :
    (ledger.book operation attempt.fault?).Agrees attempt.reached := by
  cases found : snapshot.project? id with
  | none =>
    obtain ⟨fault, rfl⟩ := missing found
    exact agrees
  | some project =>
    rcases (answers project found).cases with
      ⟨changed, passed, fault_eq, replaced⟩ | ⟨fault, _, fault_eq, kept⟩
    · rw [fault_eq]
      show (ledger.enter operation).Agrees _
      rw [enter_eq]
      exact agrees.write sound replaced.found (fun _ => replaced.project?_of_ne)
        (follows (agrees.accounts id project found) passed)
    · rw [fault_eq]
      exact agrees.of_same sound kept

theorem Agrees.modifyWhole (agrees : ledger.Agrees snapshot) {operation : Snapshot.Operation}
    (change : Page → Page) (enter_eq : ledger.enter operation = ledger.turn id change)
    {answer : Project → Except Fault Project}
    (sound : (snapshot.modifyWhole id answer).reached.Sound)
    (follows : ∀ {project changed}, (ledger id).Accounts project →
      answer project = .ok changed → (change (ledger id)).Accounts changed) :
    (ledger.book operation (snapshot.modifyWhole id answer).fault?).Agrees
      (snapshot.modifyWhole id answer).reached :=
  agrees.answer sound change enter_eq (fun missing => ⟨_, Snapshot.modify_of_missing missing _⟩)
    (fun _ found => Snapshot.answers_modifyWhole found answer) follows

/-- An operation that leaves the references of its project alone leaves the ledger right. -/
theorem Agrees.modify (agrees : ledger.Agrees snapshot) {operation : Snapshot.Operation}
    (enter_eq : ledger.enter operation = ledger) {change : Project → Attempt Project}
    (sound : (snapshot.modify id change).reached.Sound)
    (same : ∀ project, (change project).reached.projectReferences = project.projectReferences ∧
      (change project).reached.holders = project.holders) :
    (ledger.book operation (snapshot.modify id change).fault?).Agrees
      (snapshot.modify id change).reached := by
  have book_eq (fault? : Option Fault) : ledger.book operation fault? = ledger := by
    cases fault? with
    | none => exact enter_eq
    | some fault => rfl
  rw [book_eq]
  cases found : snapshot.project? id with
  | none =>
    rw [Snapshot.modify_of_missing found]
    exact agrees
  | some project =>
    have replaced := Snapshot.replaced_write found (change project).reached
    rw [Snapshot.modify_of_found found] at sound ⊢
    rw [← turn_self ledger id]
    exact agrees.write sound replaced.found (fun _ => replaced.project?_of_ne)
      ((agrees.accounts id project found).of_same (same project).1 (same project).2)

theorem Agrees.addProject (agrees : ledger.Agrees snapshot) {info : ProjectInfo}
    (sound : next.Sound) (completed : snapshot.addProject info = .ok next) :
    ledger.Agrees next := by
  rw [Snapshot.addProject] at completed
  split at completed
  · cases completed
  · rename_i absent
    cases completed
    have missing := Snapshot.project?_eq_none_iff.mpr (Bool.eq_false_iff.mpr absent)
    rw [← turn_self ledger info.id]
    refine agrees.write sound (by rw [Snapshot.project?_write, if_pos rfl])
      (fun other differs => by rw [Snapshot.project?_write, if_neg differs]) ?_
    rw [agrees.blank_of_missing info.id missing]
    exact Page.accounts_blank info

theorem Agrees.removeProject (agrees : ledger.Agrees snapshot) (sound : next.Sound)
    (completed : snapshot.removeProject id = .ok next) : (ledger.strike id).Agrees next := by
  cases present : snapshot.contains id with
  | false =>
    rw [Snapshot.removeProject_of_not_contains present] at completed
    cases completed
  | true =>
    obtain ⟨removed, removed_eq, found_removed, _⟩ := Snapshot.removeProject_of_contains present
    cases removed_eq.symm.trans completed
    refine ⟨sound, fun other missing => ?_, fun other there found => ?_⟩
    · funext reference
      rw [found_removed] at missing
      simp only [strike]
      split
      · rfl
      · rename_i spared
        rw [not_or] at spared
        rw [if_neg spared.1, Option.map_eq_none_iff] at missing
        exact congrFun (agrees.blank_of_missing other missing) reference
    · rw [found_removed] at found
      split at found
      · cases found
      · rename_i differs
        obtain ⟨before, before_found, rfl⟩ := Option.map_eq_some_iff.mp found
        have accounts := agrees.accounts other before before_found
        obtain ⟨booked, holding_eq⟩ := Project.booked_cutOff accounts.booked id
        refine ⟨booked, fun reference => ?_⟩
        simp only [strike, differs, false_or, holding_eq]
        split
        · rfl
        · exact accounts.tally_eq reference

theorem Agrees.applyAll (agrees : ledger.Agrees snapshot) {transitions : List Transition}
    (sound : next.Sound) (completed : Transition.applyAll id snapshot transitions = .ok next) :
    (ledger.turn id fun page => transitions.foldl Page.enter page).Agrees next := by
  cases found : snapshot.project? id with
  | some project =>
    obtain ⟨changed, applied, replaced⟩ :=
      Transition.exists_effects_of_applyAll agrees.sound.keyed found completed
    exact agrees.write sound replaced.found (fun _ => replaced.project?_of_ne)
      ((agrees.accounts id project found).effects applied)
  | none =>
    obtain ⟨rfl, rfl⟩ := Transition.eq_nil_of_missing found completed
    exact (turn_self ledger id).symm ▸ agrees

theorem Agrees.ofExcept (agrees : ledger.Agrees snapshot) {operation : Snapshot.Operation}
    {result : Except Fault Snapshot}
    (completed : ∀ next, result = .ok next → (ledger.enter operation).Agrees next) :
    (ledger.book operation (Attempt.ofExcept snapshot result).fault?).Agrees
      (Attempt.ofExcept snapshot result).reached := by
  cases result with
  | error fault => exact agrees
  | ok next => exact completed next rfl

theorem Agrees.perform (agrees : ledger.Agrees snapshot) (operation : Snapshot.Operation) :
    (ledger.book operation (snapshot.perform operation).fault?).Agrees
      (snapshot.perform operation).reached := by
  have sound := Snapshot.sound_perform agrees.sound operation
  have keyed := agrees.sound.keyed
  -- what a transition of this kind does to a page, it does to the ledger
  have neutral (id : ProjectId) {answer : Project → Except Fault Project} {operation}
      (transition : Transition)
      (sound : (snapshot.modifyWhole id answer).reached.Sound)
      (answer_eq : ∀ project, answer project = transition.effect (snapshot.closes id) project)
      (enter_eq : ledger.enter operation = ledger.turn id fun page => page.enter transition) :
      (ledger.book operation (snapshot.modifyWhole id answer).fault?).Agrees
        (snapshot.modifyWhole id answer).reached := by
    exact agrees.modifyWhole _ enter_eq sound fun accounts completed =>
      accounts.effect ((answer_eq _).symm.trans completed)
  cases operation with
  | addProject info =>
    refine agrees.ofExcept fun next completed => ?_
    rw [Snapshot.perform, completed] at sound
    exact agrees.addProject sound completed
  | removeProject id =>
    refine agrees.ofExcept fun next completed => ?_
    rw [Snapshot.perform, completed] at sound
    exact agrees.removeProject sound completed
  | addProjectReference source reference =>
    refine agrees.answer sound (fun page => page.change reference (·.hold .direct)) rfl
      (Snapshot.addProjectReference_of_missing · reference)
      (fun _ found => Snapshot.answers_addProjectReference found (keyed _ _ found) reference) ?_
    intro project changed accounts completed
    split at completed
    · cases completed
    · exact accounts.addProjectReference completed
  | holdProjectReference source reference holder =>
    refine agrees.answer sound (fun page => page.change reference (·.hold holder)) rfl
      (Snapshot.holdProjectReference_of_missing · reference holder)
      (fun _ found => Snapshot.answers_holdProjectReference found (keyed _ _ found) reference holder)
      ?_
    intro project changed accounts completed
    exact accounts.hold completed
  | releaseProjectReference source reference holder =>
    exact agrees.modifyWhole (fun page => page.change reference (·.release holder)) rfl sound
      Page.Accounts.release
  | removeProjectReference source reference =>
    exact agrees.modifyWhole (fun page => page.change reference fun _ => {}) rfl sound
      Page.Accounts.removeProjectReference
  | addDocuments id collection documents =>
    exact agrees.modify rfl sound fun project => by cases collection <;> exact ⟨rfl, rfl⟩
  | removeDocuments id collection ids =>
    exact agrees.modify rfl sound fun project => by cases collection <;> exact ⟨rfl, rfl⟩
  | replaceLoader id collection document loader =>
    exact neutral id (.reloadDocument collection document loader) sound (fun _ => rfl)
      (turn_self ledger id).symm
  | addMetadataReference id reference =>
    exact neutral id (.addReference (.content reference)) sound (fun _ => rfl)
      (turn_self ledger id).symm
  | removeMetadataReference id reference =>
    refine agrees.modifyWhole (fun page => page) ?_ sound ?_
    · exact (turn_self ledger id).symm
    · intro project changed accounts completed
      rw [Project.removeMetadataReference] at completed
      split at completed <;> cases completed
      exact accounts.of_same rfl rfl
  | addAnalyzerReference id reference =>
    exact neutral id (.addAnalyzerReference reference) sound (fun _ => rfl)
      (turn_self ledger id).symm
  | removeAnalyzerReference id reference =>
    exact neutral id (.removeAnalyzerReference reference) sound (fun _ => rfl)
      (turn_self ledger id).symm
  | setProperty id property => exact agrees.modify rfl sound fun project => ⟨rfl, rfl⟩
  | setVersion version => exact agrees.of_same sound fun _ => rfl
  | applyAll id transitions =>
    refine agrees.ofExcept fun next completed => ?_
    rw [Snapshot.perform, completed] at sound
    exact agrees.applyAll sound completed

theorem Agrees.bookAll (agrees : ledger.Agrees snapshot) (operations : List Snapshot.Operation) :
    (ledger.bookAll snapshot operations).Agrees (snapshot.performAll operations) := by
  induction operations generalizing ledger snapshot with
  | nil => exact agrees
  | cons operation rest ih => exact ih (agrees.perform operation)

/-! ## What the ledger tells -/

variable {reference : ProjectReference} {holder : ReferenceHolder}

theorem Agrees.isOpen_iff (agrees : ledger.Agrees snapshot)
    (found : snapshot.project? id = some project) :
    (ledger id reference).isOpen = true ↔ reference ∈ project.projectReferences := by
  have accounts := agrees.accounts id project found
  rw [accounts.tally_eq, Tally.isOpen_ofHolders, accounts.booked.mem_iff, Bool.not_eq_true']

theorem Agrees.isHeldBy_eq (agrees : ledger.Agrees snapshot)
    (found : snapshot.project? id = some project) :
    project.isHeldBy reference holder = (ledger id reference).has holder := by
  rw [(agrees.accounts id project found).tally_eq, Tally.has_ofHolders, Project.isHeldBy_eq]

theorem Agrees.count_eq (agrees : ledger.Agrees snapshot)
    (found : snapshot.project? id = some project) :
    project.projectReferences.count reference =
      if (ledger id reference).isOpen then 1 else 0 := by
  rw [(agrees.accounts id project found).booked.distinct.count]
  simp only [agrees.isOpen_iff found]

theorem Agrees.converted_nonneg (agrees : ledger.Agrees snapshot) :
    0 ≤ (ledger id reference).converted := by
  cases found : snapshot.project? id with
  | none =>
    rw [agrees.blank_of_missing id found]
    exact Int.le_refl 0
  | some project =>
    rw [(agrees.accounts id project found).tally_eq]
    exact Int.natCast_nonneg _

/-- A hold is turned away for nothing but a second direct holder, a first hold that closes a cycle
and a project that is not there. -/
theorem Agrees.hold_refused_iff (agrees : ledger.Agrees snapshot) :
    (snapshot.holdProjectReference id reference holder).fault? ≠ none ↔
      snapshot.project? id = none ∨
      holder = .direct ∧ (ledger id reference).direct = true ∨
      (ledger id reference).isOpen = false ∧ snapshot.Closes id reference.target := by
  have keyed := agrees.sound.keyed
  cases found : snapshot.project? id with
  | none =>
    obtain ⟨fault, stopped⟩ := Snapshot.holdProjectReference_of_missing found reference holder
    simp [stopped, Attempt.stopped]
  | some project =>
    have answers :=
      Snapshot.answers_holdProjectReference found (keyed id project found) reference holder
    have direct_eq : (ledger id reference).direct = (project.holding reference).direct := by
      rw [(agrees.accounts id project found).tally_eq]
      rfl
    rw [answers.refused_iff, Project.hold_completes_iff, not_not, direct_eq, Bool.eq_false_iff,
      ne_eq, agrees.isOpen_iff found, Snapshot.closes, Snapshot.wouldCreateCycle_ofSnapshot keyed]
    simp

theorem Agrees.release_refused_iff (agrees : ledger.Agrees snapshot) :
    (snapshot.releaseProjectReference id reference holder).fault? ≠ none ↔
      (ledger id reference).has holder = false := by
  cases found : snapshot.project? id with
  | none =>
    rw [Snapshot.releaseProjectReference, Snapshot.modifyWhole, Snapshot.modify_of_missing found,
      agrees.blank_of_missing id found]
    cases holder <;> simp [Attempt.stopped, Page.blank, Tally.has]
  | some project =>
    have answers := Snapshot.answers_modifyWhole found fun project =>
      project.releaseProjectReference reference holder
    rw [← agrees.isHeldBy_eq found, Project.isHeldBy_eq, ← Bool.not_eq_true,
      ← Project.release_completes_iff]
    exact answers.refused_iff

theorem Agrees.add_refused_iff (agrees : ledger.Agrees snapshot) :
    (snapshot.addProjectReference id reference).fault? ≠ none ↔
      snapshot.project? id = none ∨ (ledger id reference).isOpen = true ∨
        snapshot.Closes id reference.target := by
  have keyed := agrees.sound.keyed
  cases found : snapshot.project? id with
  | none =>
    obtain ⟨fault, stopped⟩ := Snapshot.addProjectReference_of_missing found reference
    simp [stopped, Attempt.stopped]
  | some project =>
    have answers :=
      Snapshot.answers_addProjectReference found (keyed id project found) reference
    rw [answers.refused_iff, agrees.isOpen_iff found, ← Snapshot.wouldCreateCycle_ofSnapshot keyed]
    cases passed : snapshot.closes id reference.target with
    | true =>
      rw [Snapshot.closes] at passed
      simp [passed]
    | false =>
      rw [Snapshot.closes] at passed
      simp [passed, Project.addProjectReference_completes_iff]

theorem Agrees.remove_refused_iff (agrees : ledger.Agrees snapshot) :
    (snapshot.perform (.removeProjectReference id reference)).fault? ≠ none ↔
      (ledger id reference).isOpen = false := by
  cases found : snapshot.project? id with
  | none =>
    rw [Snapshot.perform, Snapshot.modifyWhole, Snapshot.modify_of_missing found,
      agrees.blank_of_missing id found]
    simp [Attempt.stopped, Page.blank, Tally.isOpen, Tally.has]
  | some project =>
    have answers := Snapshot.answers_modifyWhole found fun project =>
      project.removeProjectReference reference
    rw [Bool.eq_false_iff, ne_eq (Tally.isOpen _), agrees.isOpen_iff found,
      ← Project.removeProjectReference_completes_iff]
    exact answers.refused_iff

/-- Whatever is done to the empty snapshot, the ledger of the operations that were accepted tells
which references every project has, each of them once, and who holds them; no count of converted
holders falls below zero, nothing is outstanding on references of a project that is not there, and
the ledger and the chains of references tell which holds, releases and other changes of references
will be turned away. -/
theorem performAll_empty_agrees_with_ledger (operations : List Snapshot.Operation) :
    let snapshot := Snapshot.empty.performAll operations
    let ledger := blank.bookAll .empty operations
    ∀ source reference,
      (∀ project, snapshot.project? source = some project →
        project.projectReferences.count reference =
          (if (ledger source reference).isOpen then 1 else 0) ∧
        (project.isHeldBy reference .direct = true ↔ (ledger source reference).direct = true) ∧
        (project.isHeldBy reference .converted = true ↔
          0 < (ledger source reference).converted)) ∧
      (snapshot.project? source = none → ledger source reference = {}) ∧
      0 ≤ (ledger source reference).converted ∧
      (∀ holder, (snapshot.holdProjectReference source reference holder).fault? ≠ none ↔
        snapshot.project? source = none ∨
        holder = .direct ∧ (ledger source reference).direct = true ∨
        (ledger source reference).isOpen = false ∧
          (source = reference.target ∨
            Relation.TransGen snapshot.Refers reference.target source)) ∧
      (∀ holder, (snapshot.releaseProjectReference source reference holder).fault? ≠ none ↔
        (ledger source reference).has holder = false) ∧
      ((snapshot.addProjectReference source reference).fault? ≠ none ↔
        snapshot.project? source = none ∨ (ledger source reference).isOpen = true ∨
          source = reference.target ∨ Relation.TransGen snapshot.Refers reference.target source) ∧
      ((snapshot.perform (.removeProjectReference source reference)).fault? ≠ none ↔
        (ledger source reference).isOpen = false) := by
  intro snapshot ledger source reference
  have agrees : ledger.Agrees snapshot := agrees_empty.bookAll operations
  refine ⟨fun project found => ⟨agrees.count_eq found, ?_, ?_⟩, ?_, agrees.converted_nonneg,
    fun _ => agrees.hold_refused_iff, fun _ => agrees.release_refused_iff,
    agrees.add_refused_iff, agrees.remove_refused_iff⟩
  · rw [agrees.isHeldBy_eq found]
    rfl
  · rw [agrees.isHeldBy_eq found, Tally.has, decide_eq_true_eq]
  · exact fun missing => congrFun (agrees.blank_of_missing source missing) reference

end Ledger

end CodeWorkspace
