import CodeWorkspace.Proofs.Draft.Filling
import CodeWorkspace.Proofs.Session.Lockstep
import CodeWorkspace.Proofs.Session.Submission

/-!
# Filling an empty project

Whether an addition to a project that was empty at first is turned down is told by the additions
made before.  One by one each of them is committed at once; in a batch they wait, and closing the
batch commits the same.
-/

namespace CodeWorkspace

open Addition (documentsIn linesIn clash? refusal? transition)

namespace Session

variable {comparison : PathComparison} {start session reached : Session}
  {empty project changed : Project} {done : List Addition} {addition : Addition}

/-- Whether a path is taken is told by the documents that were added. -/
theorem ensureCanAdd_of_holds (holds : session.draft.Holds done) (stays : session.draft.Stays)
    (mirrors : Draft.Mirrors comparison project session.draft) (collection : DocumentCollection)
    (path : String) :
    (session.draft.registry collection).ensureCanAdd (some path) none =
      if ∃ document ∈ documentsIn collection done,
          document.path?.map comparison.key = some (comparison.key path) then
        .error (.tracked (.file collection path))
      else .ok () := by
  obtain ⟨collection_eq, comparison_eq, registered⟩ := mirrors collection
  have indexed := registered.toIndexed
  have knows_eq : (session.draft.registry collection).knowsPath path =
      ((session.draft.registry collection).lookupPath? path).isSome :=
    indexed.byPath.contains_eq fun id entry found leaves =>
      absurd leaves (stays collection id entry found)
  have knows_iff : (session.draft.registry collection).knowsPath path = true ↔
      ∃ document ∈ documentsIn collection done,
        document.path?.map comparison.key = some (comparison.key path) := by
    rw [knows_eq, Option.isSome_iff_exists]
    simp only [Registry.lookupPath?_eq_some_iff indexed, comparison_eq, holds.documents,
      List.mem_map, Prod.mk.injEq]
    constructor
    · rintro ⟨id, document, ⟨other, added, -, rfl⟩, same⟩
      exact ⟨other, added, same⟩
    · rintro ⟨document, added, same⟩
      exact ⟨document.id, document, ⟨document, added, rfl, rfl⟩, same⟩
  by_cases known : (session.draft.registry collection).knowsPath path = true
  · rw [if_pos (knows_iff.mp known)]
    simp [Registry.ensureCanAdd, Option.filter, known, collection_eq]
  · rw [if_neg fun taken => known (knows_iff.mpr taken)]
    simp [Registry.ensureCanAdd, Option.filter, known]

/-- The decision on an addition is told by the additions made before. -/
theorem decide_of_holds (holds : session.draft.Holds done) (stays : session.draft.Stays)
    (mirrors : Draft.Mirrors comparison project session.draft) (addition : Addition) :
    session.decide addition.edit =
      match addition.clash? comparison session.draft.id session.closing done with
      | some failure => .error failure
      | none => .ok (some (addition.action ⟨session.host.watcher.next⟩)) := by
  cases addition with
  | file collection path kind id =>
    simp only [Addition.edit, decide, clash?, ensureCanAdd_of_holds holds stays mirrors]
    split <;> rfl
  | metadata reference =>
    simp only [Addition.edit, decide, clash?, OrderedSet.mem_def, holds.metadata]
    split <;> rfl
  | project target =>
    have tracked_iff : (session.draft.referenceTo? target).isSome = true ↔
        ∃ line ∈ linesIn done, line.target = target := by
      rw [Draft.referenceTo?, List.find?_isSome, holds.projects]
      simp
    simp only [Addition.edit, decide, clash?, tracked_iff]
    split
    · rfl
    · show (if session.closing target = true then _ else _) = _
      split <;> rfl
  | analyzer path =>
    simp only [Addition.edit, decide, clash?, OrderedSet.mem_def, holds.analyzers]
    split <;> rfl

/-- An addition is turned down for the reason that what was made before tells, or it is carried
out. -/
theorem perform_of_holds (holds : session.draft.Holds done) (stays : session.draft.Stays)
    (mirrors : Draft.Mirrors comparison project session.draft)
    (live : session.draft.removed = false)
    (ready : session.draft.isBatching = true ∨ session.draft.hasPending = false)
    (addition : Addition) :
    (∃ failure, addition.refusal? comparison session.draft.id session.closing done = some failure ∧
      (session.perform addition.edit).1 = .error failure ∧
        SameCore session (session.perform addition.edit).2) ∨
    (addition.refusal? comparison session.draft.id session.closing done = none ∧
      session.Accepted addition.edit (addition.action ⟨session.host.watcher.next⟩) ∧
        ∃ reply, session.CarriesOut addition.edit (addition.action ⟨session.host.watcher.next⟩)
            reply ∧
          session.perform addition.edit = (reply.result, reply.session.notify reply.notices)) := by
  have decided := decide_of_holds holds stays mirrors addition
  cases objection : addition.edit.objection? session.draft.id with
  | some failure =>
    left
    rw [perform_of_objection objection, refusal?, objection]
    exact ⟨failure, rfl, rfl, .refl session⟩
  | none =>
    have mutation : addition.edit.isMutation = true := by cases addition <;> rfl
    obtain ⟨operation, performs, reacts⟩ := exists_operation mutation
    have performed : session.perform addition.edit = _ :=
      (performs session objection).trans (update_of_ready live ready operation)
    have reacted := reacts session
    rw [refusal?, objection, Option.none_or]
    rw [Reacts, decided] at reacted
    cases clash : addition.clash? comparison session.draft.id session.closing done with
    | some failure =>
      left
      rw [clash] at reacted
      rw [performed]
      exact ⟨failure, rfl, reacted.1, reacted.2.trans (sameCore_notify _ _)⟩
    | none =>
      right
      rw [clash] at reacted decided
      exact ⟨rfl, accepted_of_decide decided, operation session, reacted, performed⟩

/-! ## The start -/

/-- A session with a project that is empty, as is all that its draft shows. -/
structure Blank (comparison : PathComparison) (start : Session) (empty : Project) : Prop where
  tracked : start.Tracked comparison empty
  live : start.draft.removed = false
  closed : start.draft.isBatching = false
  settled : start.draft.hasPending = false
  holds : start.draft.Holds []
  waits : start.draft.AllWaits
  documents : ∀ collection, (empty.documents collection).entries = []
  expresses : empty.Expresses start.represent []

theorem blank_ofInfo {info : ProjectInfo} (draft_eq : start.draft = .ofInfo comparison info)
    (accepting : ∀ attempt, start.host.store.refusals attempt = none)
    (keyed : start.current.Keyed)
    (found : start.current.project? info.id = some (.ofInfo info)) :
    start.Blank comparison (.ofInfo info) where
  tracked := by
    refine ⟨accepting, keyed, ?_, ?_⟩
    · rw [draft_eq]
      exact found
    · rw [draft_eq]
      exact (Draft.kept_inStep comparison).created info
  live := by rw [draft_eq]; rfl
  closed := by rw [draft_eq]; rfl
  settled := by rw [draft_eq]; rfl
  holds := by
    rw [draft_eq]
    exact Draft.holds_ofInfo comparison info
  waits := by rw [draft_eq]; rfl
  documents collection := by cases collection <;> rfl
  expresses := ⟨.refl _, fun _ => rfl⟩

/-- What a session is after a project was filled with some additions. -/
structure FilledWith (start : Session) (empty : Project) (done : List Addition)
    (session : Session) (project : Project) : Prop where
  committed : Transition.effects start.closing empty (done.map (transition start.represent)) =
    .ok project
  replaced : start.current.Replaced start.draft.id project session.current
  outputs_eq : session.host.outputs = start.host.outputs
  accepting : ∀ attempt, session.host.store.refusals attempt = none

/-- An invariant of sessions in which additions are made, each of which is turned down for the
reason that those before it tell. -/
def Admits (comparison : PathComparison) (start : Session)
    (holds : List Addition → Session → Prop) : Prop :=
  ∀ {done : List Addition} {session : Session} {addition : Addition}, holds done session →
    (∀ id ∈ addition.edit.drawn, id ∉ done.flatMap fun made => made.edit.drawn) →
    (∃ failure, addition.refusal? comparison start.draft.id start.closing done = some failure ∧
      (session.perform addition.edit).1 = .error failure ∧
        holds done (session.perform addition.edit).2) ∨
    (addition.refusal? comparison start.draft.id start.closing done = none ∧
      (∃ answer, (session.perform addition.edit).1 = .ok answer) ∧
        holds (done ++ [addition]) (session.perform addition.edit).2)

/-! ## One by one -/

/-- A session in which additions were made one by one. -/
structure Advanced (comparison : PathComparison) (start : Session) (empty : Project)
    (done : List Addition) (session : Session) (project : Project) : Prop
    extends FilledWith start empty done session project where
  tracked : session.Tracked comparison project
  live : session.draft.removed = false
  closed : session.draft.isBatching = false
  settled : session.draft.hasPending = false
  id_eq : session.draft.id = start.draft.id
  expresses : project.Expresses start.represent session.draft.metadataReferences.elements
  holds : session.draft.Holds done

theorem Blank.advanced (blank : start.Blank comparison empty) :
    Advanced comparison start empty [] start empty where
  committed := rfl
  replaced := .refl blank.tracked.found
  outputs_eq := rfl
  accepting := blank.tracked.accepting
  tracked := blank.tracked
  live := blank.live
  closed := blank.closed
  settled := blank.settled
  id_eq := rfl
  expresses := by
    rw [blank.holds.metadata]
    exact blank.expresses
  holds := blank.holds

theorem Advanced.of_sameCore (advanced : Advanced comparison start empty done session project)
    (same : SameCore session reached) :
    Advanced comparison start empty done reached project := by
  obtain ⟨draft_eq, store_eq, outputs_eq⟩ := same
  have current_eq : reached.current = session.current := congrArg Store.current store_eq
  exact
    { committed := advanced.committed
      replaced := current_eq ▸ advanced.replaced
      outputs_eq := outputs_eq.trans advanced.outputs_eq
      accepting := store_eq ▸ advanced.accepting
      tracked := advanced.tracked.of_same draft_eq store_eq
      live := draft_eq ▸ advanced.live
      closed := draft_eq ▸ advanced.closed
      settled := draft_eq ▸ advanced.settled
      id_eq := draft_eq ▸ advanced.id_eq
      expresses := draft_eq ▸ advanced.expresses
      holds := draft_eq ▸ advanced.holds }

theorem Advanced.represent_eq (blank : start.Blank comparison empty)
    (advanced : Advanced comparison start empty done session project) :
    session.represent = start.represent :=
  represent_replaced blank.tracked.keyed (advanced.tracked.id_eq.trans advanced.id_eq)
    advanced.replaced advanced.id_eq advanced.outputs_eq

theorem Advanced.closing_eq (blank : start.Blank comparison empty)
    (advanced : Advanced comparison start empty done session project) :
    session.closing = start.closing :=
  closing_replaced blank.tracked.keyed (advanced.tracked.id_eq.trans advanced.id_eq)
    advanced.replaced advanced.id_eq

theorem Advanced.add (blank : start.Blank comparison empty)
    (advanced : Advanced comparison start empty done session project) {watch : WatchToken}
    (accepted : session.Accepted addition.edit (addition.action watch))
    (fresh : ∀ id ∈ addition.edit.drawn, id ∉ session.draft.ids) {reply : Reply Answer}
    (carries : session.CarriesOut addition.edit (addition.action watch) reply) :
    (∃ answer, reply.result = .ok answer) ∧
      ∃ changed, Advanced comparison start empty (done ++ [addition]) reply.session changed := by
  have represent_eq := advanced.represent_eq blank
  have closing_eq := advanced.closing_eq blank
  have expresses := advanced.expresses
  rw [← represent_eq] at expresses
  obtain ⟨allowed, drawn_eq⟩ := accepted.allowed
  obtain ⟨changed, store, result, reached, effect, replaced, refusals⟩ :=
    advanced.tracked.action_completes advanced.closed advanced.settled expresses accepted fresh
      carries
  have move : Draft.Move project session.draft (addition.action watch).drawn changed
      reply.session.draft := by
    rw [reached.draft]
    exact .now _ _ advanced.settled allowed effect
  have current_replaced : session.current.Replaced session.draft.id changed
      reply.session.current := by
    have current_eq : reply.session.current = store.current := by rw [current, reached.store]
    rw [current_eq]
    exact replaced
  have same_refusals : reply.session.host.store.refusals = session.host.store.refusals := by
    rw [reached.store, refusals]
  have quiet : addition.edit.isOutput = false := by cases addition <;> rfl
  refine ⟨⟨_, result⟩, changed, ?_⟩
  constructor
  · constructor
    · rw [List.map_append, Transition.effects_append_ok]
      refine ⟨project, advanced.committed, ?_⟩
      rw [← represent_eq, ← closing_eq, List.map_singleton, Transition.effects_singleton]
      cases addition <;> exact effect
    · exact advanced.replaced.trans (advanced.id_eq ▸ current_replaced)
    · exact (reached.outputs.2 quiet).trans advanced.outputs_eq
    · rw [same_refusals]
      exact advanced.accepting
  · exact advanced.tracked.move move (fun id drawn => fresh id (drawn_eq ▸ drawn)) current_replaced
      same_refusals
  · exact move.sameIdentity.removed_eq.trans advanced.live
  · rw [reached.draft, Draft.isBatching, Draft.batches_now]
    exact advanced.closed
  · rw [reached.draft, Draft.hasPending_now]
    exact advanced.settled
  · exact move.sameIdentity.id_eq.trans advanced.id_eq
  · rw [reached.draft, ← represent_eq]
    exact Draft.expresses_now advanced.tracked.inStep.references.booked expresses allowed effect
  · rw [reached.draft]
    exact advanced.holds.now allowed fresh

/-- One by one additions are turned down for the reason that those before them tell. -/
theorem Blank.admits_advanced (blank : start.Blank comparison empty) :
    Admits comparison start fun done session =>
      ∃ project, Advanced comparison start empty done session project := by
  rintro done session addition ⟨project, advanced⟩ fresh
  have mirrors := advanced.tracked.inStep.mirrors
  have stays := Draft.stays_of_settled mirrors advanced.settled
  rw [← advanced.closing_eq blank, ← advanced.id_eq]
  rcases perform_of_holds advanced.holds stays mirrors advanced.live (.inr advanced.settled)
    addition with
    ⟨failure, refused, answered, same⟩ | ⟨admitted, accepted, reply, carries, performed⟩
  · exact .inl ⟨failure, refused, answered, project, advanced.of_sameCore same⟩
  · obtain ⟨answered, changed, added⟩ := advanced.add blank accepted
      (fun id drawn known => fresh id drawn (advanced.holds.mem_ids stays known)) carries
    rw [performed]
    exact .inr ⟨admitted, answered, changed, added.of_sameCore (sameCore_notify _ _)⟩

/-! ## In a batch -/

/-- A session in which additions were put off in a batch. -/
structure Stocked (comparison : PathComparison) (start : Session) (empty : Project)
    (done : List Addition) (session : Session) : Prop where
  tracked : session.Tracked comparison empty
  live : session.draft.removed = false
  batches_eq : session.draft.batches = start.draft.batches.enter
  outputs_eq : session.host.outputs = start.host.outputs
  id_eq : session.draft.id = start.draft.id
  current_eq : session.current = start.current
  holds : session.draft.Holds done
  waits : session.draft.AllWaits

theorem Blank.stocked (blank : start.Blank comparison empty) :
    start.beginBatch.1 = .ok 1 ∧ Stocked comparison start empty [] start.beginBatch.2 := by
  have depth_eq : start.draft.batches.depth = 0 := by
    simpa [Draft.isBatching, BatchCounter.isOpen] using blank.closed
  have begun : start.beginBatch =
      (.ok 1, { start with
        draft := { start.draft with batches := start.draft.batches.enter } }) := by
    rw [beginBatch, blank.live]
    simp [BatchCounter.enter, depth_eq]
  obtain ⟨documents, metadata, projects, analyzers⟩ := blank.holds
  rw [begun]
  exact
    ⟨rfl,
      { tracked := blank.tracked.withBatches _
        live := blank.live
        batches_eq := rfl
        outputs_eq := rfl
        id_eq := rfl
        current_eq := rfl
        holds :=
          ⟨fun collection => by
            cases collection with
            | source => exact documents .source
            | additional => exact documents .additional, metadata, projects, analyzers⟩
        waits := blank.waits }⟩

theorem Stocked.of_sameCore (stocked : Stocked comparison start empty done session)
    (same : SameCore session reached) : Stocked comparison start empty done reached := by
  obtain ⟨draft_eq, store_eq, outputs_eq⟩ := same
  exact
    { tracked := stocked.tracked.of_same draft_eq store_eq
      live := draft_eq ▸ stocked.live
      batches_eq := draft_eq ▸ stocked.batches_eq
      outputs_eq := outputs_eq.trans stocked.outputs_eq
      id_eq := draft_eq ▸ stocked.id_eq
      current_eq := (congrArg Store.current store_eq).trans stocked.current_eq
      holds := draft_eq ▸ stocked.holds
      waits := draft_eq ▸ stocked.waits }

theorem Stocked.batching (stocked : Stocked comparison start empty done session) :
    session.draft.isBatching = true := by
  rw [Draft.isBatching, stocked.batches_eq]
  exact decide_eq_true (Nat.succ_pos _)

theorem Stocked.closing_eq (stocked : Stocked comparison start empty done session) :
    session.closing = start.closing := by
  funext target
  rw [closing, closing, stocked.id_eq, stocked.current_eq]

theorem Stocked.add (stocked : Stocked comparison start empty done session) {watch : WatchToken}
    (accepted : session.Accepted addition.edit (addition.action watch))
    (fresh : ∀ id ∈ addition.edit.drawn, id ∉ session.draft.ids) {reply : Reply Answer}
    (carries : session.CarriesOut addition.edit (addition.action watch) reply) :
    (∃ answer, reply.result = .ok answer) ∧
      Stocked comparison start empty (done ++ [addition]) reply.session := by
  obtain ⟨allowed, drawn_eq⟩ := accepted.allowed
  rw [CarriesOut, if_pos stocked.batching] at carries
  obtain ⟨result, reached⟩ := carries
  have move : Draft.Move empty session.draft (addition.action watch).drawn empty
      reply.session.draft := by
    rw [reached.draft]
    exact .later stocked.batching allowed
  have current_eq : reply.session.current = session.current := by
    rw [current, reached.store]
    rfl
  have replaced : session.current.Replaced session.draft.id empty reply.session.current := by
    rw [current_eq]
    exact .refl stocked.tracked.found
  have quiet : addition.edit.isOutput = false := by cases addition <;> rfl
  refine ⟨⟨_, result⟩, ?_⟩
  constructor
  · refine stocked.tracked.move move (fun id drawn => fresh id (drawn_eq ▸ drawn)) replaced ?_
    rw [reached.store]
  · exact move.sameIdentity.removed_eq.trans stocked.live
  · rw [reached.draft, Draft.batches_later]
    exact stocked.batches_eq
  · exact (reached.outputs.2 quiet).trans stocked.outputs_eq
  · exact move.sameIdentity.id_eq.trans stocked.id_eq
  · exact current_eq.trans stocked.current_eq
  · rw [reached.draft]
    exact stocked.holds.later allowed fresh
  · rw [reached.draft]
    exact stocked.waits.later addition watch

/-- In a batch additions are turned down for the same reasons as one by one. -/
theorem Blank.admits_stocked (blank : start.Blank comparison empty) :
    Admits comparison start (Stocked comparison start empty) := by
  intro done session addition stocked fresh
  have mirrors := stocked.tracked.inStep.mirrors
  have stays := Draft.stays_of_blank mirrors blank.documents
  rw [← stocked.closing_eq, ← stocked.id_eq]
  rcases perform_of_holds stocked.holds stays mirrors stocked.live (.inl stocked.batching)
    addition with
    ⟨failure, refused, answered, same⟩ | ⟨admitted, accepted, reply, carries, performed⟩
  · exact .inl ⟨failure, refused, answered, stocked.of_sameCore same⟩
  · obtain ⟨answered, added⟩ := stocked.add accepted
      (fun id drawn known => fresh id drawn (stocked.holds.mem_ids stays known)) carries
    rw [performed]
    exact .inr ⟨admitted, answered, added.of_sameCore (sameCore_notify _ _)⟩

/-- A plan that can be committed is committed. -/
theorem Tracked.flush_completes (tracked : session.Tracked comparison project)
    (committed : Transition.effects session.closing project
      (session.draft.planBy session.represent) = .ok changed) :
    ∃ notices flushed, session.flush = (.ok notices, flushed) ∧
      session.current.Replaced session.draft.id changed flushed.current ∧
      flushed.host.store.refusals = session.host.store.refusals ∧
      flushed.host.outputs = session.host.outputs := by
  cases pending : session.draft.hasPending with
  | false =>
    rw [Draft.planBy_of_settled pending] at committed
    cases committed
    refine ⟨[], session, ?_, .refl tracked.found, rfl, rfl⟩
    rw [flush, pending]
    rfl
  | true =>
    rcases Store.transform_accepting tracked.accepting tracked.keyed tracked.found
      (session.draft.plan session.host.outputs) with
      ⟨fault, failed, _⟩ | ⟨other, next, effects, transformed, replaced, refusals⟩
    · cases failed.symm.trans committed
    · cases effects.symm.trans committed
      simp only [flush, pending, if_true, submit, transform, transformed]
      exact ⟨_, _, rfl, replaced, refusals, rfl⟩

theorem Stocked.left_represent (stocked : Stocked comparison start empty done session) :
    session.left.represent = start.represent := by
  funext reference
  show session.representing session.current reference = _
  simp only [represent, representing, stocked.id_eq, stocked.outputs_eq, stocked.current_eq]

/-- The plan of what waits comes to what the additions come to one by one. -/
theorem Stocked.effects_plan (blank : start.Blank comparison empty)
    (stocked : Stocked comparison start empty done session)
    (grouped : done.Pairwise fun first second => first.group ≤ second.group)
    (committed : Transition.effects start.closing empty (done.map (transition start.represent)) =
      .ok project) :
    Transition.effects session.left.closing empty
      (session.left.draft.planBy session.left.represent) = .ok project := by
  have closing_eq : session.left.closing = start.closing := stocked.closing_eq
  have tracked : session.left.Tracked comparison empty := stocked.tracked.withBatches _
  have mirrors := tracked.inStep.mirrors
  have stays := Draft.stays_of_blank mirrors blank.documents
  have waits : session.left.draft.AllWaits := stocked.waits
  have holds : session.left.draft.Holds done :=
    ⟨fun collection => by
      cases collection with
      | source => exact stocked.holds.documents .source
      | additional => exact stocked.holds.documents .additional,
      stocked.holds.metadata, stocked.holds.projects, stocked.holds.analyzers⟩
  have additions {before after : Project} (collection : DocumentCollection)
      (added : Transition.effects start.closing before ((documentsIn collection done).map
        fun document => .addDocuments collection [document]) = .ok after) :
      Transition.effects start.closing before
        (FlushPlan.additions (session.left.draft.registry collection)) = .ok after := by
    rw [Transition.effects_additions_eq, (mirrors collection).collection_eq,
      Draft.pendingDocuments_of_blank mirrors (blank.documents collection) stays holds]
    exact Transition.effect_addDocuments added
  rw [Addition.map_transition_of_grouped _ grouped] at committed
  rw [closing_eq, stocked.left_represent,
    Draft.planBy_of_allWaits waits mirrors blank.documents holds]
  simp only [Transition.effects_append_ok] at committed ⊢
  obtain ⟨analyzed, ⟨lined, ⟨listed, ⟨sourced, sources, additional⟩, references⟩, lines⟩,
    analyzers⟩ := committed
  exact ⟨analyzed, ⟨lined, ⟨listed, ⟨sourced, additions .source sources,
    additions .additional additional⟩, references⟩, lines⟩, analyzers⟩

/-- When the batch is closed, the additions are committed if they can be one by one. -/
theorem Stocked.release (blank : start.Blank comparison empty)
    (stocked : Stocked comparison start empty done session)
    (grouped : done.Pairwise fun first second => first.group ≤ second.group)
    (committed : Transition.effects start.closing empty (done.map (transition start.represent)) =
      .ok project) :
    session.endBatch.1 = .ok () ∧ FilledWith start empty done session.endBatch.2 project := by
  have depth_eq : start.draft.batches.depth = 0 := by
    simpa [Draft.isBatching, BatchCounter.isOpen] using blank.closed
  have outermost : session.draft.batches.depth = 1 := by
    rw [stocked.batches_eq, BatchCounter.enter, depth_eq]
  have tracked : session.left.Tracked comparison empty := stocked.tracked.withBatches _
  have left_id : session.left.draft.id = start.draft.id := stocked.id_eq
  have left_current : session.left.current = start.current := stocked.current_eq
  obtain ⟨notices, flushed, flushes, replaced, refusals, outputs_eq⟩ :=
    tracked.flush_completes (stocked.effects_plan blank grouped committed)
  rw [left_id, left_current] at replaced
  rw [endBatch_of_outermost outermost stocked.live, flushAndNotify, flushes]
  refine ⟨rfl, committed, replaced, outputs_eq.trans stocked.outputs_eq, fun attempt => ?_⟩
  show flushed.host.store.refusals attempt = none
  rw [refusals]
  exact stocked.tracked.accepting attempt

end Session

end CodeWorkspace
