import CodeWorkspace.Proofs.Draft.Facade
import CodeWorkspace.Proofs.Session.Perform

/-!
# What is submitted to the store

A store changes by attempts only, and `Store.Attempts` tells of which sort they are.  In a session
every attempt is made on behalf of the project of its draft, a change of a file leads to reloads
only, and closing the outermost batch is one attempt if anything waits.
-/

namespace CodeWorkspace

namespace Store

variable {sort other : ProjectId → (Snapshot → Except Fault Snapshot) → Prop}
  {start before between after store : Store}

/-- A store reached from another one by attempts of some sort. -/
inductive Attempts (sort : ProjectId → (Snapshot → Except Fault Snapshot) → Prop) :
    Store → Store → Prop where
  | refl (store : Store) : Attempts sort store store
  | step {store after : Store} {project : ProjectId} {change : Snapshot → Except Fault Snapshot}
      (proper : sort project change) (rest : Attempts sort (store.transform project change).2 after) :
      Attempts sort store after

theorem Attempts.once {project : ProjectId} {change : Snapshot → Except Fault Snapshot}
    (proper : sort project change) (store : Store) :
    Attempts sort store (store.transform project change).2 := .step proper (.refl _)

theorem Attempts.trans (first : Attempts sort before between)
    (second : Attempts sort between after) : Attempts sort before after := by
  induction first with
  | refl => exact second
  | step proper _ ih => exact .step proper (ih second)

theorem Attempts.mono (weaker : ∀ project change, sort project change → other project change)
    (attempts : Attempts sort before after) : Attempts other before after := by
  induction attempts with
  | refl => exact .refl _
  | step proper _ ih => exact .step (weaker _ _ proper) ih

/-- An attempt logs nothing, or that something was committed on behalf of its project. -/
theorem log_transform (store : Store) (project : ProjectId)
    (change : Snapshot → Except Fault Snapshot) :
    ∃ records, (store.transform project change).2.log = store.log ++ records ∧
      ∀ record ∈ records, record.project = project := by
  rcases store.transform_cases project change with ⟨error, failed⟩ | ⟨next, _, committed⟩
  · rw [failed]
    exact ⟨[], (List.append_nil _).symm, by simp⟩
  · rw [committed]
    exact ⟨[⟨store.current.version + 1, project⟩], rfl, by simp⟩

/-- Attempts log nothing but commits of their sort. -/
theorem Attempts.log (attempts : Attempts sort before after) :
    ∃ records, after.log = before.log ++ records ∧
      ∀ record ∈ records, ∃ change, sort record.project change := by
  induction attempts with
  | refl => exact ⟨[], (List.append_nil _).symm, by simp⟩
  | @step store _ project change proper _ ih =>
    obtain ⟨first, first_eq, on_behalf⟩ := store.log_transform project change
    obtain ⟨later, later_eq, sorted⟩ := ih
    refine ⟨first ++ later, by rw [later_eq, first_eq, List.append_assoc], fun record logged => ?_⟩
    rcases List.mem_append.mp logged with now | then_later
    · exact ⟨change, (on_behalf record now).symm ▸ proper⟩
    · exact sorted record then_later

/-! ## Versions -/

/-- A store goes on from another one: since then the versions in the log follow one another, and
the current snapshot has the last of them. -/
def Continues (start store : Store) : Prop :=
  ∃ records, store.log = start.log ++ records ∧
    records.map CommitRecord.version = (List.range records.length).map
      (fun place => start.current.version + UInt64.ofNat (place + 1)) ∧
    store.current.version = start.current.version + UInt64.ofNat records.length

theorem Continues.refl (store : Store) : Continues store store :=
  ⟨[], (List.append_nil _).symm, rfl, (UInt64.add_zero _).symm⟩

theorem Continues.of_same (continues : Continues start store) (log : after.log = store.log)
    (current : after.current = store.current) : Continues start after := by
  obtain ⟨records, log_eq, versions, version⟩ := continues
  exact ⟨records, log.trans log_eq, versions, current ▸ version⟩

theorem Continues.transform (continues : Continues start store) (project : ProjectId)
    (change : Snapshot → Except Fault Snapshot) :
    Continues start (store.transform project change).2 := by
  rcases store.transform_cases project change with ⟨error, failed⟩ | ⟨next, _, committed⟩
  · rw [failed]
    exact continues.of_same rfl rfl
  · rw [committed]
    obtain ⟨records, log_eq, versions, version⟩ := continues
    have next_version : store.current.version + 1 =
        start.current.version + UInt64.ofNat (records.length + 1) := by
      rw [version, UInt64.ofNat_add, UInt64.add_assoc]
      rfl
    refine ⟨records ++ [⟨store.current.version + 1, project⟩], ?_, ?_, ?_⟩
    · rw [log_eq, List.append_assoc]
    · rw [List.map_append, versions, List.length_append, List.length_singleton, List.range_succ,
        List.map_append, List.map_singleton, List.map_singleton, next_version]
    · rw [List.length_append, List.length_singleton]
      exact next_version

theorem Continues.attempts (continues : Continues start before)
    (attempts : Attempts sort before after) : Continues start after := by
  induction attempts with
  | refl => exact continues
  | step _ _ ih => exact ih (continues.transform _ _)

end Store

/-- A reload of a document, as it is submitted on behalf of a project. -/
def Store.Reloads (project : ProjectId) (change : Snapshot → Except Fault Snapshot) : Prop :=
  ∃ collection id loader, change = fun snapshot =>
    Transition.applyAll project snapshot [.reloadDocument collection id loader]

namespace Session

variable {session before between after ready : Session} {edit : Edit}

/-- What goes on in a session between opening and closing batches: the draft stays the same project,
no batch is opened or closed, and what is submitted is submitted on behalf of the project. -/
structure Works (before after : Session) : Prop where
  identity : Draft.SameIdentity before.draft after.draft
  batches : after.draft.batches = before.draft.batches
  attempts : before.host.store.Attempts (fun project _ => project = before.draft.id) after.host.store

theorem Works.refl (session : Session) : Works session session := ⟨⟨rfl, rfl⟩, rfl, .refl _⟩

theorem SameCore.works (same : SameCore before after) : Works before after :=
  ⟨⟨congrArg Draft.id same.draft, congrArg Draft.removed same.draft⟩,
    congrArg Draft.batches same.draft, same.store ▸ .refl _⟩

theorem Works.trans (first : Works before between) (second : Works between after) :
    Works before after where
  identity := ⟨second.identity.id_eq.trans first.identity.id_eq,
    second.identity.removed_eq.trans first.identity.removed_eq⟩
  batches := second.batches.trans first.batches
  attempts := first.attempts.trans <|
    second.attempts.mono fun _ _ same => same.trans first.identity.id_eq

theorem works_notify (session : Session) (notices : List Notice) :
    Works session (session.notify notices) := (sameCore_notify session notices).works

theorem works_submit (session : Session) (plan : Snapshot → List Transition) :
    Works session (session.submit plan).2 := by
  have once : session.host.store.Attempts (fun project _ => project = session.draft.id)
      (session.host.store.transform session.draft.id fun snapshot =>
        Transition.applyAll session.draft.id snapshot (plan snapshot)).2 := .once rfl _
  exact ⟨⟨rfl, rfl⟩, rfl, once⟩

/-! ## Edits -/

theorem Reacts.works {reply : Reply Answer} (reacts : ready.Reacts edit reply) :
    Works ready reply.session := by
  rw [Reacts] at reacts
  split at reacts
  · exact reacts.2.works
  · exact reacts.2.works
  · rename_i action _
    rw [CarriesOut] at reacts
    split at reacts
    · obtain ⟨_, reached⟩ := reacts
      refine ⟨?_, ?_, reached.store ▸ .refl _⟩
      · rw [reached.draft]
        exact Draft.sameIdentity_later _ _
      · rw [reached.draft, Draft.batches_later]
    · have once : ready.host.store.Attempts (fun project _ => project = ready.draft.id)
          (ready.host.store.transform ready.draft.id fun snapshot =>
            Transition.applyAll ready.draft.id snapshot
              [action.transition (representing ready snapshot)]).2 := .once rfl _
      generalize ready.host.store.transform ready.draft.id _ = outcome at reacts once
      obtain ⟨result, store⟩ := outcome
      cases result with
      | error error =>
        obtain ⟨_, reached⟩ := reacts
        refine ⟨?_, ?_, reached.store ▸ once⟩
        · rw [reached.draft]
          exact ⟨rfl, rfl⟩
        · rw [reached.draft]
      | ok done =>
        obtain ⟨_, reached⟩ := reacts
        refine ⟨?_, ?_, reached.store ▸ once⟩
        · rw [reached.draft]
          exact Draft.sameIdentity_now _ _
        · rw [reached.draft, Draft.batches_now]

/-- What a flush submits, if anything waits. -/
theorem store_flush (session : Session) :
    session.flush.2.host.store =
      if session.draft.hasPending then
        (session.host.store.transform session.draft.id fun snapshot =>
          Transition.applyAll session.draft.id snapshot
            (session.draft.plan session.host.outputs snapshot)).2
      else session.host.store := by
  rw [flush]
  split
  · simp only [submit, transform]
    generalize session.host.store.transform session.draft.id _ = outcome
    obtain ⟨result, store⟩ := outcome
    cases result <;> rfl
  · rfl

theorem works_flush (session : Session) : Works session session.flush.2 := by
  have submitted := session.works_submit (session.draft.plan session.host.outputs)
  rw [flush]
  split
  · generalize session.submit _ = outcome at submitted
    obtain ⟨result, reached⟩ := outcome
    cases result with
    | error failure => exact submitted
    | ok done => exact submitted.trans ⟨⟨rfl, rfl⟩, rfl, .refl _⟩
  · exact .refl session

theorem works_flushAndNotify (session : Session) : Works session session.flushAndNotify.2 :=
  holds_flushAndNotify session.works_flush fun reached notices works =>
    works.trans (works_notify reached notices)

/-! ## Reloads -/

/-- A reload submits nothing but reloads on behalf of the project. -/
theorem reload_attempts (session : Session) (collection : DocumentCollection) (path : String) :
    Draft.SameIdentity session.draft (session.reload collection path).2.draft ∧
      (session.reload collection path).2.draft.batches = session.draft.batches ∧
      session.host.store.Attempts
        (fun project change => project = session.draft.id ∧ Store.Reloads project change)
        (session.reload collection path).2.host.store := by
  rw [reload]
  split
  · exact ⟨⟨rfl, rfl⟩, rfl, .refl _⟩
  · rename_i id loader _
    have once : session.host.store.Attempts
        (fun project change => project = session.draft.id ∧ Store.Reloads project change)
        (session.host.store.transform session.draft.id fun snapshot =>
          Transition.applyAll session.draft.id snapshot
            [.reloadDocument collection id loader]).2 :=
      .once ⟨rfl, collection, id, loader, rfl⟩ _
    simp only [commit, submit, transform]
    generalize session.host.store.transform session.draft.id _ = outcome at once
    obtain ⟨result, store⟩ := outcome
    cases result with
    | error error => exact ⟨⟨rfl, rfl⟩, rfl, once⟩
    | ok done => cases collection <;> exact ⟨⟨rfl, rfl⟩, rfl, once⟩

theorem fileChanged_attempts (session : Session) (path : String) :
    Draft.SameIdentity session.draft (session.fileChanged path).2.draft ∧
      (session.fileChanged path).2.draft.batches = session.draft.batches ∧
      session.host.store.Attempts
        (fun project change => project = session.draft.id ∧ Store.Reloads project change)
        (session.fileChanged path).2.host.store := by
  let soFar (reached : Session) : Prop := Draft.SameIdentity session.draft reached.draft ∧
    reached.draft.batches = session.draft.batches ∧ session.host.store.Attempts
      (fun project change => project = session.draft.id ∧ Store.Reloads project change)
      reached.host.store
  refine @holds_fileChanged session soFar path ⟨⟨rfl, rfl⟩, rfl, .refl _⟩
    fun reached collection so_far => ?_
  obtain ⟨⟨id_eq, removed_eq⟩, batches_eq, attempts⟩ := so_far
  obtain ⟨⟨last_id, last_removed⟩, last_batches, more⟩ := reached.reload_attempts collection path
  exact ⟨⟨last_id.trans id_eq, last_removed.trans removed_eq⟩, last_batches.trans batches_eq,
    attempts.trans (more.mono fun _ _ proper => ⟨proper.1.trans id_eq, proper.2⟩)⟩

/-! ## All that is done in a session -/

theorem perform_works (session : Session) (edit : Edit) :
    Works session (session.perform edit).2 := by
  by_cases file : ∃ path, edit = .fileChanged path
  · obtain ⟨path, rfl⟩ := file
    obtain ⟨identity, batches, attempts⟩ := session.fileChanged_attempts path
    exact ⟨identity, batches, attempts.mono fun _ _ proper => proper.1⟩
  · exact holds_perform (.refl session) session.works_flush
      (fun reached notices works => works.trans (works_notify reached notices))
      (fun _ _ _ reacts works => works.trans reacts.works) fun path same => file ⟨path, same⟩

/-! ## Batches -/

/-- The session with one batch less. -/
def left (session : Session) : Session :=
  { session with draft := { session.draft with batches := session.draft.batches.exit } }

theorem endBatch_of_outermost (outermost : session.draft.batches.depth = 1)
    (live : session.draft.removed = false) : session.endBatch = session.left.flushAndNotify := by
  have closes : (session.draft.batches.isOutermost && !session.draft.removed) = true := by
    simp [BatchCounter.isOutermost, outermost, live]
  exact if_pos closes

theorem endBatch_of_inner
    (inner : ¬ (session.draft.batches.depth = 1 ∧ session.draft.removed = false)) :
    session.endBatch = (.ok (), session.left) := by
  have stays : ¬ (session.draft.batches.isOutermost && !session.draft.removed) = true := by
    simpa [BatchCounter.isOutermost] using inner
  exact if_neg stays

/-- Closing a batch submits what waits if it is the outermost one of a live project. -/
theorem store_endBatch (session : Session) :
    session.endBatch.2.host.store =
      if session.draft.batches.depth = 1 ∧ session.draft.removed = false ∧
          session.draft.hasPending = true then
        (session.host.store.transform session.draft.id fun snapshot =>
          Transition.applyAll session.draft.id snapshot
            (session.draft.plan session.host.outputs snapshot)).2
      else session.host.store := by
  by_cases outermost : session.draft.batches.depth = 1 ∧ session.draft.removed = false
  · have told : session.left.flushAndNotify.2.host.store = session.left.flush.2.host.store := by
      rw [flushAndNotify]
      generalize session.left.flush = outcome
      obtain ⟨result, reached⟩ := outcome
      cases result <;> rfl
    rw [endBatch_of_outermost outermost.1 outermost.2, told, store_flush]
    simp only [outermost, true_and]
    rfl
  · rw [endBatch_of_inner outermost, if_neg fun closes => outermost ⟨closes.1, closes.2.1⟩]
    rfl

theorem endBatch_closes (session : Session) :
    Draft.SameIdentity session.draft session.endBatch.2.draft ∧
      session.endBatch.2.draft.batches = session.draft.batches.exit := by
  by_cases outermost : session.draft.batches.depth = 1 ∧ session.draft.removed = false
  · rw [endBatch_of_outermost outermost.1 outermost.2]
    obtain ⟨⟨id_eq, removed_eq⟩, batches, _⟩ := session.left.works_flushAndNotify
    exact ⟨⟨id_eq, removed_eq⟩, batches⟩
  · rw [endBatch_of_inner outermost]
    exact ⟨⟨rfl, rfl⟩, rfl⟩

end Session

end CodeWorkspace
