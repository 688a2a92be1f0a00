import CodeWorkspace.Proofs.Workspace.Delivery

/-!
# How often documents are loaded anew

Over a store that refuses nothing, a document that comes from a file has been loaded anew as often
as a change of the file was delivered while the document was committed and the editor did not have
the file open, whatever else happened before, in between and afterwards.
-/

namespace CodeWorkspace

theorem Command.Performs.other {command : Command} {operation : Session.Operation}
    (performs : command.Performs operation) (silent : command.isReport = false) (path : String) :
    operation ≠ .perform (.fileChanged path) := by
  rintro rfl
  cases command with
  | edit place edit =>
    cases performs
    cases silent
  | dispatch path => cases silent
  | raise path => cases silent
  | _ => cases performs

/-- Nothing that is introduced has been loaded anew. -/
theorem Command.generation_of_introduced {command : Command}
    {given : DocumentCollection × Document} (introduced : given ∈ command.introduced)
    {path : String} {generation : UInt32} (loader_eq : given.2.loader = .file path generation) :
    generation = 0 := by
  cases command with
  | edit place change => exact Edit.generation_of_introduced introduced loader_eq
  | _ => cases introduced

/-- The generation of a file is the number of reloads modulo `2 ^ 32`. -/
theorem Document.reloaded_iterate {document : Document} {path : String}
    (loader_eq : document.loader = .file path 0) (count : Nat) :
    reloaded^[count] document = { document with loader := .file path (.ofNat count) } := by
  induction count with
  | zero =>
    show document = { document with loader := .file path 0 }
    rw [← loader_eq]
  | succ count ih =>
    rw [Function.iterate_succ_apply', ih, UInt32.ofNat_add]
    rfl

theorem Document.loader_of_reloaded_iterate {document : Document} {count : Nat} {path : String}
    {generation : UInt32}
    (loader_eq : (reloaded^[count] document).loader = .file path generation) :
    ∃ first, document.loader = .file path first := by
  induction count generalizing document with
  | zero => exact ⟨generation, loader_eq⟩
  | succ count ih =>
    obtain ⟨first, first_eq⟩ := ih loader_eq
    cases origin : document.loader with
    | file other number =>
      simp only [reloaded, origin, Loader.reloaded, Loader.file.injEq] at first_eq
      exact ⟨number, by rw [first_eq.1]⟩
    | buffer held => simp [reloaded, origin, Loader.reloaded] at first_eq

/-- How many deliveries reached a document. -/
def timesReached (past : List Delivery) (place : Nat) (collection : DocumentCollection)
    (id : DocumentId) : Nat :=
  past.countP fun delivery => delivery.reaches place collection id

namespace Workspace

variable {comparison : PathComparison} {known : List DocumentId}
  {introduced : List (DocumentCollection × Document)} {past : List Delivery}
  {workspace : Workspace} {command : Command}

/-! ## The deliveries of a run -/

/-- The deliveries by which some drafts are told that a file changed. -/
def deliveriesTo (workspace : Workspace) (path : String) : List Nat → List Delivery
  | [] => []
  | place :: rest =>
    let delivery : Delivery := { workspace, place, path }
    delivery :: delivery.told.deliveriesTo path rest

/-- The deliveries by which all live drafts are told that some files changed. -/
def deliveriesOfPump (workspace : Workspace) : List String → List Delivery
  | [] => []
  | path :: rest =>
    workspace.deliveriesTo path workspace.live.values ++
      (workspace.dispatch path).2.deliveriesOfPump rest

/-- The deliveries that a command brings about. -/
def deliveriesOf (workspace : Workspace) : Command → List Delivery
  | .edit place (.fileChanged path) => [{ workspace, place, path }]
  | .dispatch path => workspace.deliveriesTo path workspace.live.values
  | .raise path =>
    let host := workspace.host
    let (paths, watcher) := (host.watcher.raise path).receiveAll
    (workspace.withHost { host with watcher }).deliveriesOfPump paths
  | _ => []

/-- The deliveries of a run, oldest first. -/
def deliveries (workspace : Workspace) : List Command → List Delivery
  | [] => []
  | command :: rest =>
    workspace.deliveriesOf command ++ (workspace.step command).2.deliveries rest

/-! ## Along a run -/

/-- Each document of a live draft was introduced, and since then it has been loaded anew by every
delivery that reached it and by nothing else; none reaches a document that waits to be added. -/
def Counted (introduced : List (DocumentCollection × Document)) (past : List Delivery)
    (workspace : Workspace) : Prop :=
  ∀ (place : Nat) draft, workspace.drafts[place]? = some draft → draft.removed = false →
    ∀ collection id entry, (draft.registry collection).entries.get? id = some entry →
      ∃ given, (collection, given) ∈ introduced ∧
        entry.document = Document.reloaded^[timesReached past place collection id] given ∧
        (entry.state = .pendingAdd → timesReached past place collection id = 0)

/-- What is known after a part of a run: which documents were introduced so far, and what was
delivered. -/
structure Course (comparison : PathComparison) (known : List DocumentId)
    (introduced : List (DocumentCollection × Document)) (past : List Delivery)
    (workspace : Workspace) : Prop
    extends workspace.Keeps comparison (Draft.InStep comparison) known where
  accepting : workspace.Accepting
  counted : workspace.Counted introduced past
  reached : ∀ delivery ∈ past, ∀ place collection id,
    delivery.reaches place collection id = true → id ∈ known
  reloads : ∀ delivery ∈ past, delivery.Reloads

theorem Keeps.known_of_reaches {relation : Project → Draft → Prop} {delivery : Delivery}
    (keeps : delivery.workspace.Keeps comparison relation known) {place : Nat}
    {collection : DocumentCollection} {id : DocumentId}
    (reaches : delivery.reaches place collection id = true) : id ∈ known := by
  obtain ⟨_, draft, found, _, entry, entry_found, _⟩ := Delivery.reaches_iff.mp reaches
  exact keeps.known_ids place draft found id
    (Draft.mem_ids.mpr ⟨collection, OrderedMap.mem_keys_iff.mpr ⟨entry, entry_found⟩⟩)

/-- A delivery loads anew what it reaches, which is counted, and nothing else. -/
theorem Counted.told {delivery : Delivery}
    (counted : delivery.workspace.Counted introduced past) (reloads : delivery.Reloads) :
    delivery.told.Counted introduced (past ++ [delivery]) := by
  intro place after after_found live collection id entry entry_found
  have within := (List.getElem?_eq_some_iff.mp after_found).1
  rw [delivery.length_drafts_told] at within
  have found := List.getElem?_eq_getElem within
  obtain ⟨same, same_found, identity, entries⟩ := reloads.entries place _ found
  rw [after_found] at same_found
  cases same_found
  rw [← Registry.mem_entries_iff, entries collection, List.mem_map] at entry_found
  obtain ⟨⟨old_id, old⟩, old_mem, entry_eq⟩ := entry_found
  have count_eq : timesReached (past ++ [delivery]) place collection old_id =
      timesReached past place collection old_id +
        if delivery.reaches place collection old_id then 1 else 0 := by
    rw [timesReached, List.countP_append, List.countP_singleton]
    rfl
  obtain ⟨given, given_mem, document_eq, waits⟩ := counted place _ found
    (identity.removed_eq.symm.trans live) collection old_id old
    (Registry.mem_entries_iff.mp old_mem)
  rw [changeAt] at entry_eq
  split at entry_eq
  · rename_i reaches
    cases entry_eq
    rw [count_eq, if_pos reaches]
    refine ⟨given, given_mem, (congrArg Document.reloaded document_eq).trans
      (Function.iterate_succ_apply' _ _ _).symm, fun state => ?_⟩
    -- what is reached is committed
    obtain ⟨_, draft, draft_found, _, there, there_found, hears, _⟩ :=
      Delivery.reaches_iff.mp reaches
    rw [found] at draft_found
    cases draft_found
    rw [Registry.mem_entries_iff.mp old_mem] at there_found
    cases there_found
    cases (RegistryEntry.hears_iff.mp hears).1.symm.trans state
  · rename_i missed
    cases entry_eq
    rw [count_eq, if_neg missed]
    exact ⟨given, given_mem, document_eq, waits⟩

theorem Course.told {delivery : Delivery}
    (course : delivery.workspace.Course comparison known introduced past) :
    delivery.told.Course comparison known introduced (past ++ [delivery]) := by
  have reloads := course.toKeeps.reloads course.accepting
  refine ⟨course.toKeeps.told (Draft.kept_inStep comparison), course.accepting.told,
    course.counted.told reloads, fun other other_mem => ?_, fun other other_mem => ?_⟩
  · rcases List.mem_append.mp other_mem with earlier | now
    · exact course.reached other earlier
    · rw [List.mem_singleton.mp now]
      exact fun place collection id => course.toKeeps.known_of_reaches
  · rcases List.mem_append.mp other_mem with earlier | now
    · exact course.reloads other earlier
    · rw [List.mem_singleton.mp now]
      exact reloads

theorem Course.dispatchTo (course : workspace.Course comparison known introduced past)
    (path : String) (places : List Nat) :
    (workspace.dispatchTo path places).2.Course comparison known introduced
      (past ++ workspace.deliveriesTo path places) := by
  induction places generalizing workspace past with
  | nil =>
    rw [deliveriesTo, List.append_nil]
    exact course
  | cons place rest ih =>
    have told := @Course.told _ _ _ _ { workspace, place, path } course
    have last := ih told
    rw [List.append_assoc] at last
    simp only [Workspace.dispatchTo]
    split <;> exact last

theorem Course.pump (course : workspace.Course comparison known introduced past)
    (paths : List String) : (workspace.pump paths).Course comparison known introduced
      (past ++ workspace.deliveriesOfPump paths) := by
  induction paths generalizing workspace past with
  | nil =>
    rw [deliveriesOfPump, List.append_nil]
    exact course
  | cons path rest ih =>
    have last := ih (course.dispatchTo path workspace.live.values)
    rw [List.append_assoc] at last
    exact last

/-- Any other operation changes no document that it leaves in the draft. -/
theorem Counted.worked (counted : workspace.Counted introduced past) {place : Nat} {draft : Draft}
    (found : workspace.drafts[place]? = some draft) {operation : Session.Operation}
    (other : ∀ path, operation ≠ .perform (.fileChanged path))
    (unreached : ∀ given ∈ operation.introduced,
      given ∈ introduced ∧ timesReached past place given.1 given.2.id = 0) :
    (workspace.worked place
      ({ host := workspace.host, draft : Session }.operate operation)).Counted introduced past := by
  let session : Session := { host := workspace.host, draft }
  intro there after after_found live collection id entry entry_found
  rcases getElem?_set_cases after_found with ⟨rfl, rfl⟩ | ⟨_, there_found⟩
  · have unremoved : draft.removed = false := by
      obtain ⟨_, _, proceeds⟩ := session.operate_proceeds operation
      rw [← Bool.not_eq_true]
      intro gone
      rw [(proceeds.removed gone).2.2.1] at live
      cases live
    rcases @Session.carries_operate session operation other collection id entry entry_found with
      ⟨old, old_found, document_eq, waits⟩ | ⟨rfl, new⟩
    · obtain ⟨given, given_mem, old_eq, old_waits⟩ :=
        counted there draft found unremoved collection id old old_found
      exact ⟨given, given_mem, document_eq.trans old_eq, fun state => old_waits (waits state)⟩
    · obtain ⟨given_mem, none_reached⟩ := unreached _ new
      refine ⟨entry.document, given_mem, ?_, fun _ => none_reached⟩
      rw [none_reached]
      rfl
  · exact counted there after there_found live collection id entry entry_found

theorem Counted.putIn (counted : workspace.Counted introduced past) (info : ProjectInfo)
    (store : Store) : (workspace.putIn info store).Counted introduced past := by
  intro place draft found live collection id entry entry_found
  rcases getElem?_concat_cases found with old | ⟨_, rfl⟩
  · exact counted place draft old live collection id entry entry_found
  · cases collection <;> cases entry_found

theorem Belongs.counted_takenOut {relation : Project → Draft → Prop}
    (belongs : workspace.Belongs comparison relation)
    (counted : workspace.Counted introduced past) {place : Nat} {id : ProjectId} {draft : Draft}
    {removed : Session} (live : workspace.live.get? id = some place)
    (found : workspace.drafts[place]? = some draft)
    (done : { host := workspace.host, draft : Session }.removeProject = (.ok (), removed)) :
    (workspace.takenOut place id removed).Counted introduced past := by
  obtain ⟨rfl, unremoved, discarded, _⟩ := belongs.takeOut_cases live found done
  intro other last last_found last_live collection document entry entry_found
  obtain ⟨there, there_found, live_there, _, rfl⟩ :=
    belongs.live_takenOut_cases found unremoved discarded last_found last_live
  have registry_eq : (there.forgetReferencesTo draft.id).registry collection =
      there.registry collection := by cases collection <;> rfl
  rw [registry_eq] at entry_found
  exact counted other there there_found live_there collection document entry entry_found

/-- A command that reports no change of a file. -/
theorem Course.step_silent (course : workspace.Course comparison known introduced past)
    (silent : command.isReport = false) (quiet : ∀ reason, command ≠ .refuse (some reason))
    (distinct : command.drawn.Nodup) (fresh : ∀ id ∈ command.drawn, id ∉ known)
    (within : command.introduced ⊆ introduced) :
    (workspace.step command).2.Course comparison (known ++ command.drawn) introduced past := by
  have unreached (place : Nat) : ∀ given ∈ command.introduced,
      timesReached past place given.1 given.2.id = 0 := by
    intro given given_mem
    refine List.countP_eq_zero.mpr fun delivery delivery_mem reaches => ?_
    exact fresh given.2.id (Command.drawn_of_introduced given_mem)
      (course.reached delivery delivery_mem place given.1 given.2.id reaches)
  have counted : (workspace.step command).2.Counted introduced past := by
    refine @holds_step workspace (Counted introduced past) command
      (fun counted _ drafts _ => ?_)
      (fun operation counted found performs => ?_)
      (fun _ _ _ => course.counted.putIn _ _)
      (fun _ live found done => course.toBelongs.counted_takenOut course.counted live found done)
      course.counted
    · rw [Counted, drafts]
      exact counted
    · refine counted.worked found (performs.other silent) fun given given_mem => ?_
      have here := performs.introduced_subset given_mem
      exact ⟨within here, unreached _ given here⟩
  exact ⟨course.toKeeps.command (Draft.kept_inStep comparison) distinct fresh,
    course.accepting.step quiet, counted,
    fun delivery delivery_mem place collection id reaches =>
      List.mem_append_left _ (course.reached delivery delivery_mem place collection id reaches),
    course.reloads⟩

/-- Whatever a command does, what it delivers is counted. -/
theorem Course.step (course : workspace.Course comparison known introduced past)
    (quiet : ∀ reason, command ≠ .refuse (some reason)) (distinct : command.drawn.Nodup)
    (fresh : ∀ id ∈ command.drawn, id ∉ known) (within : command.introduced ⊆ introduced) :
    (workspace.step command).2.Course comparison (known ++ command.drawn) introduced
      (past ++ workspace.deliveriesOf command) := by
  by_cases silent : command.isReport = false
  · have nothing : workspace.deliveriesOf command = [] := by
      unfold deliveriesOf
      split <;> first | rfl | cases silent
    rw [nothing, List.append_nil]
    exact course.step_silent silent quiet distinct fresh within
  · cases command with
    | edit place edit =>
      cases edit with
      | fileChanged path =>
        rw [step_fileChanged, show Command.drawn (.edit place (.fileChanged path)) = [] from rfl,
          List.append_nil]
        exact @Course.told _ _ _ _ { workspace, place, path } course
      | _ => exact absurd rfl silent
    | dispatch path =>
      rw [show Command.drawn (.dispatch path) = [] from rfl, List.append_nil]
      exact course.dispatchTo path workspace.live.values
    | raise path =>
      rw [show Command.drawn (.raise path) = [] from rfl, List.append_nil]
      let seen : Workspace := workspace.withHost { workspace.host with
        watcher := (workspace.host.watcher.raise path).receiveAll.2 }
      have noticed : seen.Course comparison known introduced past := by
        refine ⟨⟨course.toBelongs.of_same rfl rfl rfl rfl, course.known_ids, course.apart⟩,
          course.accepting.of_same rfl, course.counted, course.reached, course.reloads⟩
      exact noticed.pump _
    | _ => exact absurd rfl silent

theorem Course.run (course : workspace.Course comparison known introduced past)
    (commands : List Command) (quiet : ∀ reason, Command.refuse (some reason) ∉ commands)
    (distinct : (known ++ commands.flatMap Command.drawn).Nodup)
    (within : ∀ command ∈ commands, command.introduced ⊆ introduced) :
    (workspace.run commands).Course comparison (known ++ commands.flatMap Command.drawn) introduced
      (past ++ workspace.deliveries commands) := by
  induction commands generalizing workspace known past with
  | nil =>
    rw [List.flatMap_nil, deliveries, List.append_nil, List.append_nil]
    exact course
  | cons command rest ih =>
    rw [List.flatMap_cons, ← List.append_assoc] at distinct ⊢
    obtain ⟨first_distinct, _⟩ := List.nodup_append.mp distinct
    obtain ⟨_, drawn_distinct, apart⟩ := List.nodup_append.mp first_distinct
    have next := course.step (fun reason same => quiet reason (same ▸ List.mem_cons_self))
      drawn_distinct (fun id drawn known => apart id known id drawn rfl)
      (within command List.mem_cons_self)
    rw [deliveries, ← List.append_assoc]
    exact ih next (fun reason later => quiet reason (List.mem_cons_of_mem _ later)) distinct
      fun other other_mem => within other (List.mem_cons_of_mem _ other_mem)

/-! ## What has come of the deliveries -/

/-- Every document from a file has been loaded anew as often as it was reached, in the snapshot and
in the registry alike, and is the one that was introduced otherwise. -/
structure UpToDate (introduced : List (DocumentCollection × Document)) (past : List Delivery)
    (workspace : Workspace) : Prop where
  reloads : ∀ delivery ∈ past, delivery.Reloads
  generation : ∀ owner project collection held path number,
    workspace.snapshot.project? owner = some project →
      held ∈ (project.documents collection).entries → held.2.loader = .file path number →
        ∃ (place : Nat) (draft : Draft) (entry : RegistryEntry),
          workspace.live.get? owner = some place ∧ workspace.drafts[place]? = some draft ∧
            (draft.registry collection).entries.get? held.1 = some entry ∧
              entry.document = held.2 ∧ held.2.id = held.1 ∧
                number = .ofNat (timesReached past place collection held.1) ∧
                  (collection, { held.2 with loader := .file path 0 }) ∈ introduced
  waiting : ∀ (place : Nat) (draft : Draft), workspace.drafts[place]? = some draft →
    draft.removed = false → ∀ collection id entry path number,
      (draft.registry collection).entries.get? id = some entry → entry.state = .pendingAdd →
        entry.document.loader = .file path number →
          number = 0 ∧ timesReached past place collection id = 0 ∧
            (collection, entry.document) ∈ introduced

theorem Course.upToDate (course : workspace.Course comparison known introduced past)
    (untouched : ∀ given ∈ introduced, ∀ path number,
      given.2.loader = .file path number → number = 0) :
    workspace.UpToDate introduced past where
  reloads := course.reloads
  generation owner project collection held path number project_found held_mem loader_eq := by
    obtain ⟨place, live⟩ := course.live_of_project owner project project_found
    obtain ⟨draft, found, rfl, unremoved⟩ := course.draft_of_live owner place live
    have mirrors := ((course.related_of_found found unremoved project_found).mirrors
      collection).mirrors
    obtain ⟨entry, entry_found, document_eq, _⟩ := mirrors.exists_entry held_mem
    obtain ⟨given, given_mem, reloaded_eq, _⟩ :=
      course.counted place draft found unremoved collection held.1 entry entry_found
    rw [document_eq] at reloaded_eq
    have given_loader : given.loader = .file path 0 := by
      obtain ⟨first, first_eq⟩ := Document.loader_of_reloaded_iterate (reloaded_eq ▸ loader_eq)
      rw [first_eq, untouched _ given_mem path first first_eq]
    rw [Document.reloaded_iterate given_loader] at reloaded_eq
    have given_eq : { held.2 with loader := .file path 0 } = given := by
      rw [reloaded_eq, ← given_loader]
    refine ⟨place, draft, entry, live, found, entry_found, document_eq, ?_, ?_,
      given_eq ▸ given_mem⟩
    · exact document_eq ▸ mirrors.document_id held.1 entry entry_found
    · rw [reloaded_eq] at loader_eq
      exact (Loader.file.inj loader_eq).2.symm
  waiting place draft found live collection id entry path number entry_found state loader_eq := by
    obtain ⟨given, given_mem, reloaded_eq, waits⟩ :=
      course.counted place draft found live collection id entry entry_found
    have same : entry.document = given := by
      rw [reloaded_eq, waits state]
      rfl
    rw [same] at loader_eq ⊢
    exact ⟨untouched _ given_mem path number loader_eq, waits state, given_mem⟩

/-- After any run over a store that refuses nothing, every document from a file has been loaded anew
as often as it was reached while it was committed. -/
theorem upToDate_run (comparison : PathComparison) (watcher : Watcher) (editor : Editor)
    (commands : List Command) (quiet : ∀ reason, Command.refuse (some reason) ∉ commands)
    (distinct : (commands.flatMap Command.drawn).Nodup) :
    ((starting comparison watcher editor fun _ => none).run commands).UpToDate
      (commands.flatMap Command.introduced)
      ((starting comparison watcher editor fun _ => none).deliveries commands) := by
  have course : (starting comparison watcher editor fun _ => none).Course comparison []
      (commands.flatMap Command.introduced) [] := by
    refine ⟨keeps_starting comparison _ watcher editor fun _ => none, fun _ => rfl, ?_, ?_, ?_⟩
    · intro place draft found
      cases found
    · exact fun _ delivery_mem => absurd delivery_mem List.not_mem_nil
    · exact fun _ delivery_mem => absurd delivery_mem List.not_mem_nil
  refine (course.run commands quiet distinct fun command command_mem given given_mem =>
    List.mem_flatMap.mpr ⟨command, command_mem, given_mem⟩).upToDate
      fun given given_mem path number => ?_
  obtain ⟨command, _, given_mem⟩ := List.mem_flatMap.mp given_mem
  exact Command.generation_of_introduced given_mem

/-- A file changes while it waits to be added, after that, while it is open, once more, and while it
waits to be removed. -/
def changingFile : List Command :=
  [.createProject ⟨⟨.ofNat 1⟩, "C#", { name := "A", assemblyName := "A" }⟩,
    .openScope 0, .edit 0 (.addFile .source "/b" .regular [] ⟨.ofNat 2⟩), .dispatch "/b",
    .releaseScope 0, .dispatch "/b",
    .openPath "/b", .dispatch "/b", .closePath "/b", .edit 0 (.fileChanged "/b"),
    .openScope 0, .edit 0 (.removeFile .source "/b"), .dispatch "/b"]

theorem upToDate_changingFile :
    (∀ reason, Command.refuse (some reason) ∉ changingFile) ∧
      (changingFile.flatMap Command.drawn).Nodup ∧
      timesReached ((starting .ordinal {} .idle fun _ => none).deliveries changingFile) 0 .source
        ⟨.ofNat 2⟩ = 2 ∧
      ((starting .ordinal {} .idle fun _ => none).run changingFile).UpToDate
        (changingFile.flatMap Command.introduced)
        ((starting .ordinal {} .idle fun _ => none).deliveries changingFile) := by
  have quiet : ∀ reason, Command.refuse (some reason) ∉ changingFile := by simp [changingFile]
  have distinct : (changingFile.flatMap Command.drawn).Nodup := by decide
  exact ⟨quiet, distinct, by decide +kernel,
    upToDate_run .ordinal {} .idle changingFile quiet distinct⟩

end Workspace

end CodeWorkspace
