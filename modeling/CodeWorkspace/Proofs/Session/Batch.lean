import CodeWorkspace.Proofs.Session.Lockstep

/-!
# Whole batches

Edits that are made inside of a batch are answered as they are one by one, and when the batch is
closed they are committed.  The project is then the same as after the edits one by one, up to the
order of its references, and so is all that the draft shows.
-/

namespace CodeWorkspace

namespace Session

variable {comparison : PathComparison} {start session single batched : Session}
  {project changed : Project}

/-! ## Runs -/

/-- Makes several edits one after another; tells what each of them was answered. -/
def performEach (session : Session) : List Edit → List (Except Failure Answer) × Session
  | [] => ([], session)
  | edit :: rest =>
    let (answers, last) := (session.perform edit).2.performEach rest
    ((session.perform edit).1 :: answers, last)

/-- No edit of a list, made one after another, adds a document of the project again that is no
longer tracked then. -/
def NeverReadds (comparison : PathComparison) (project : Project) (session : Session)
    (edits : List Edit) : Prop :=
  ∀ front edit, front ++ [edit] <+: edits → ∀ collection id document,
    (id, document) ∈ (project.documents collection).entries →
      id ∉ ((session.performEach front).2.draft.registry collection).documentIds →
        ¬ edit.Readds comparison collection document

theorem NeverReadds.head {rest : List Edit}
    (spared : session.NeverReadds comparison project (edit :: rest)) :
    ∀ collection id document, (id, document) ∈ (project.documents collection).entries →
      id ∉ (session.draft.registry collection).documentIds →
        ¬ edit.Readds comparison collection document :=
  spared [] edit (List.prefix_append [edit] rest)

theorem NeverReadds.tail {rest : List Edit}
    (spared : session.NeverReadds comparison project (edit :: rest)) :
    (session.perform edit).2.NeverReadds comparison project rest := by
  intro front later within
  exact spared (edit :: front) later (List.cons_prefix_cons.mpr ⟨rfl, within⟩)

theorem perform_ids_subset (tracked : session.Tracked comparison project) (edit : Edit)
    {id : DocumentId} (known : id ∈ (session.perform edit).2.draft.ids) :
    id ∈ session.draft.ids ∨ id ∈ edit.drawn := by
  obtain ⟨drawn, drawn_sub, advances⟩ := session.perform_advances edit
  obtain ⟨changed, moves, _⟩ := advances.moves project tracked.keyed tracked.found
  exact (moves.ids_subset known).imp_right fun introduced => drawn_sub.subset introduced

/-- Edits that are made one after another are answered alike and leave the sessions in lockstep. -/
theorem Lockstep.run (tracked : start.Tracked comparison project)
    (lockstep : Lockstep comparison start project single batched changed) (edits : List Edit)
    (mutations : ∀ edit ∈ edits, edit.isMutation = true ∧ edit.isOutput = false)
    (distinct : (edits.flatMap Edit.drawn).Nodup)
    (fresh : ∀ id ∈ edits.flatMap Edit.drawn, id ∉ single.draft.ids ∧ id ∉ batched.draft.ids)
    (spared : single.NeverReadds comparison project edits) :
    (batched.performEach edits).1 = (single.performEach edits).1 ∧
      ∃ after, Lockstep comparison start project (single.performEach edits).2
        (batched.performEach edits).2 after := by
  induction edits generalizing single batched changed with
  | nil => exact ⟨rfl, changed, lockstep⟩
  | cons edit rest ih =>
    rw [List.flatMap_cons] at distinct fresh
    obtain ⟨_, rest_distinct, apart⟩ := List.nodup_append.mp distinct
    obtain ⟨mutation, quiet⟩ := mutations edit List.mem_cons_self
    obtain ⟨answer_eq, middle, next⟩ := lockstep.step tracked mutation quiet
      (fun id drawn => fresh id (List.mem_append_left _ drawn)) spared.head
    have later_fresh : ∀ id ∈ rest.flatMap Edit.drawn,
        id ∉ (single.perform edit).2.draft.ids ∧ id ∉ (batched.perform edit).2.draft.ids := by
      intro id drawn
      obtain ⟨single_fresh, batched_fresh⟩ := fresh id (List.mem_append_right _ drawn)
      constructor
      · intro known
        rcases perform_ids_subset lockstep.single_tracked edit known with old | introduced
        · exact single_fresh old
        · exact apart id introduced id drawn rfl
      · intro known
        rcases perform_ids_subset lockstep.batched_tracked edit known with old | introduced
        · exact batched_fresh old
        · exact apart id introduced id drawn rfl
    obtain ⟨answers_eq, after, last⟩ := ih next
      (fun later later_mem => mutations later (List.mem_cons_of_mem _ later_mem)) rest_distinct
      later_fresh spared.tail
    exact ⟨congrArg₂ List.cons answer_eq answers_eq, after, last⟩

/-! ## The batch as a whole -/

/-- Two sessions that came from the same one show the same things, nothing waits in either of them,
and they differ in nothing but the order of the references of their project. -/
structure SameOutcome (start single batched : Session) : Prop where
  single_settled : single.draft.hasPending = false
  batched_settled : batched.draft.hasPending = false
  batched_closed : batched.draft.isBatching = false
  facade : Draft.SameFacade single.draft batched.draft
  projects : ∃ changed last, changed.SameUpToOrder last ∧
    start.current.Replaced start.draft.id changed single.current ∧
    start.current.Replaced start.draft.id last batched.current

theorem lockstep_begin (tracked : start.Tracked comparison project)
    (live : start.draft.removed = false) (closed : start.draft.isBatching = false)
    (settled : start.draft.hasPending = false)
    (expresses : project.Expresses start.represent start.draft.metadataReferences.elements) :
    start.beginBatch = (.ok 1, { start with
      draft := { start.draft with batches := start.draft.batches.enter } }) ∧
    Lockstep comparison start project start { start with
      draft := { start.draft with batches := start.draft.batches.enter } } project := by
  have depth_eq : start.draft.batches.depth = 0 := by
    simpa [Draft.isBatching, BatchCounter.isOpen] using closed
  have defers := Draft.defers_of_settled start.closing settled
  constructor
  · simp [beginBatch, live, BatchCounter.enter, depth_eq]
  · exact
      { single_tracked := tracked
        single_live := live
        single_closed := closed
        single_settled := settled
        single_outputs := rfl
        replaced := .refl tracked.found
        language_eq := rfl
        expresses
        batched_tracked := tracked.withBatches _
        batched_live := live
        batches_eq := rfl
        batched_outputs := rfl
        batched_current := rfl
        defers := ⟨defers.metadata, defers.unclosed⟩
        facade := ⟨rfl, fun collection => by cases collection <;> exact ⟨rfl, rfl, rfl⟩, rfl, rfl,
          rfl, rfl⟩
        id_eq := rfl }

/-- A session that has committed what was put off shows the same as the one that has put off
nothing, and its project is the same. -/
theorem Lockstep.sameOutcome {last : Project} {flushed : Session}
    (lockstep : Lockstep comparison start project single batched changed)
    (tracked : flushed.Tracked comparison last) (settled : flushed.draft.hasPending = false)
    (closed : flushed.draft.isBatching = false)
    (facade : Draft.SameFacade single.draft flushed.draft)
    (expresses : last.Expresses start.represent flushed.draft.metadataReferences.elements)
    (language_eq : last.language = project.language)
    (replaced : start.current.Replaced start.draft.id last flushed.current)
    (notices : List Notice) : SameOutcome start single (flushed.notify notices) := by
  have id_eq : last.id = changed.id := by
    rw [tracked.id_eq, lockstep.single_tracked.id_eq, facade.id_eq]
  have same := facade.sameUpToOrder lockstep.single_tracked.inStep tracked.inStep
    lockstep.single_settled settled lockstep.expresses expresses id_eq
    (language_eq.trans lockstep.language_eq.symm)
  exact ⟨lockstep.single_settled, settled, closed, facade, changed, last, same, lockstep.replaced,
    replaced⟩

/-- When the batch is closed, what was put off in it is committed. -/
theorem Lockstep.release (tracked : start.Tracked comparison project)
    (closed : start.draft.isBatching = false)
    (expresses : project.Expresses start.represent start.draft.metadataReferences.elements)
    (lockstep : Lockstep comparison start project single batched changed) :
    batched.endBatch.1 = .ok () ∧ SameOutcome start single batched.endBatch.2 := by
  let left : Session :=
    { batched with draft := { batched.draft with batches := batched.draft.batches.exit } }
  have depth_eq : start.draft.batches.depth = 0 := by
    simpa [Draft.isBatching, BatchCounter.isOpen] using closed
  have outermost : batched.draft.batches.isOutermost = true := by
    simp [lockstep.batches_eq, BatchCounter.isOutermost, BatchCounter.enter, depth_eq]
  have left_closed : left.draft.isBatching = false := by
    simp [left, Draft.isBatching, BatchCounter.isOpen, BatchCounter.exit, lockstep.batches_eq,
      BatchCounter.enter, depth_eq]
  have ended : batched.endBatch = left.flushAndNotify := by
    rw [endBatch]
    exact if_pos (by rw [outermost, lockstep.batched_live]; rfl)
  have left_tracked : left.Tracked comparison project := lockstep.batched_tracked.withBatches _
  have left_facade : Draft.SameFacade single.draft left.draft :=
    { lockstep.facade with
      documents := fun collection => by
        cases collection with
        | source => exact lockstep.facade.documents .source
        | additional => exact lockstep.facade.documents .additional }
  have left_represent : left.represent = start.represent := lockstep.batched_represent
  have left_closing : left.closing = start.closing := lockstep.batched_closing
  have left_defers : left.draft.Defers start.closing start.draft.metadataReferences :=
    ⟨lockstep.defers.metadata, lockstep.defers.unclosed⟩
  have left_id : left.draft.id = start.draft.id := lockstep.batched_id
  have left_current : left.current = start.current := lockstep.batched_current
  rw [ended, flushAndNotify]
  rcases left_tracked.flush_cases with
    ⟨fault, attempted, _, stale⟩ | ⟨settled, stays⟩ | ⟨last, notices, flushed, done, flushing⟩
  · rw [left_represent, left_closing] at stale
    exact absurd stale (left_defers.not_stale expresses start.sensible_represent)
  · rw [stays]
    refine ⟨rfl, lockstep.sameOutcome left_tracked settled left_closed left_facade
      (left_defers.expresses_of_settled expresses settled) rfl ?_ []⟩
    rw [left_current]
    exact .refl tracked.found
  · rw [done]
    have committed := flushing.committed
    rw [left_represent, left_closing] at committed
    have replaced := flushing.replaced
    rw [left_id, left_current] at replaced
    refine ⟨rfl, lockstep.sameOutcome (flushing.tracked left_tracked) ?_ ?_ ?_ ?_
      (Transition.language_effects committed) replaced notices⟩
    · rw [flushing.draft]
      exact hasPending_settle _
    · rw [flushing.draft]
      exact left_closed
    · rw [flushing.draft]
      exact left_facade.trans (Draft.sameFacade_settle left_tracked.inStep.mirrors)
    · rw [flushing.draft]
      exact left_defers.expresses left_tracked.inStep.references.booked expresses committed

/-- Edits inside of a batch are answered as they are one by one, closing the batch succeeds, and the
outcome is the same. -/
theorem batch_means_one_by_one (tracked : start.Tracked comparison project)
    (live : start.draft.removed = false) (closed : start.draft.isBatching = false)
    (settled : start.draft.hasPending = false)
    (expresses : project.Expresses start.represent start.draft.metadataReferences.elements)
    (edits : List Edit)
    (mutations : ∀ edit ∈ edits, edit.isMutation = true ∧ edit.isOutput = false)
    (distinct : (edits.flatMap Edit.drawn).Nodup)
    (fresh : ∀ id ∈ edits.flatMap Edit.drawn, id ∉ start.draft.ids)
    (spared : start.NeverReadds comparison project edits) :
    start.beginBatch.1 = .ok 1 ∧
      (start.beginBatch.2.performEach edits).1 = (start.performEach edits).1 ∧
      (start.beginBatch.2.performEach edits).2.endBatch.1 = .ok () ∧
      SameOutcome start (start.performEach edits).2
        (start.beginBatch.2.performEach edits).2.endBatch.2 := by
  obtain ⟨begun, lockstep⟩ := lockstep_begin tracked live closed settled expresses
  rw [begun]
  obtain ⟨answers_eq, changed, last⟩ := lockstep.run tracked edits mutations distinct
    (fun id drawn => ⟨fresh id drawn, fresh id drawn⟩) spared
  obtain ⟨released, outcome⟩ := last.release tracked closed expresses
  exact ⟨rfl, answers_eq, released, outcome⟩

end Session

end CodeWorkspace
