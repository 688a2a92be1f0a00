import Mathlib.Data.List.Basic
import CodeWorkspace.Editor

/-!
# What an editor was told of a document

News is passed on to the editor in the order in which it comes, except that the editor does not hear
of a file that it has not open.  What it was told of one document depends on the news of that
document only.
-/

namespace CodeWorkspace

/-- The document that a piece of news is about. -/
def Notice.document : Notice → DocumentId
  | .checkOpen document _ | .opened document | .closed document => document

/-- The document that an event is about. -/
def EditorEvent.document : EditorEvent → DocumentId
  | .opened _ document | .closed _ document => document

/-- The news of one document. -/
def newsOf (id : DocumentId) (notices : List Notice) : List Notice :=
  notices.filter fun notice => notice.document = id

theorem newsOf_append (id : DocumentId) (first second : List Notice) :
    newsOf id (first ++ second) = newsOf id first ++ newsOf id second :=
  List.filter_append first second

/-- When something is said of each of several documents, it contains what is said of one. -/
theorem newsOf_flatMap {tell : DocumentId → List Notice}
    (own : ∀ id, ∀ notice ∈ tell id, notice.document = id) {ids : List DocumentId}
    (distinct : ids.Nodup) (id : DocumentId) :
    newsOf id (ids.flatMap tell) = if id ∈ ids then tell id else [] := by
  induction ids with
  | nil => rfl
  | cons first rest ih =>
    obtain ⟨first_fresh, rest_distinct⟩ := List.nodup_cons.mp distinct
    rw [List.flatMap_cons, newsOf_append, ih rest_distinct]
    by_cases same : id = first
    · have whole : newsOf id (tell first) = tell first :=
        List.filter_eq_self.mpr fun notice told => by simp [own first notice told, same]
      rw [whole, same, if_neg first_fresh, if_pos List.mem_cons_self, List.append_nil]
    · have silent : newsOf id (tell first) = [] :=
        List.filter_eq_nil_iff.mpr fun notice told => by simp [own first notice told, Ne.symm same]
      simp [silent, same]

/-- The event by which a piece of news about a project is passed on, by the paths that are open. -/
def Notice.event? (isOpen : String → Bool) (project : ProjectId) : Notice → Option EditorEvent
  | .checkOpen document path => if isOpen path then some (.opened project document) else none
  | .opened document => some (.opened project document)
  | .closed document => some (.closed project document)

theorem Notice.document_of_event? {isOpen : String → Bool} {project : ProjectId}
    {notice : Notice} {event : EditorEvent} (passed : notice.event? isOpen project = some event) :
    event.document = notice.document := by
  cases notice with
  | checkOpen document path =>
    simp only [event?] at passed
    split at passed <;> cases passed
    rfl
  | opened document =>
    cases passed
    rfl
  | closed document =>
    cases passed
    rfl

namespace Editor

variable {editor : Editor}

/-- What the editor was told of a document, oldest first. -/
def history (editor : Editor) (id : DocumentId) : List EditorEvent :=
  editor.events.filter fun event => event.document = id

theorem mem_history {id : DocumentId} {event : EditorEvent} :
    event ∈ editor.history id ↔ event ∈ editor.events ∧ event.document = id := by
  simp [history]

/-- An editor that is there goes on to be there, with the same paths open, and was told the news. -/
theorem notifyAll_eq (present : editor ≠ .absent) (project : ProjectId) (notices : List Notice) :
    editor.notifyAll project notices ≠ .absent ∧
      (editor.notifyAll project notices).isOpen = editor.isOpen ∧
        (editor.notifyAll project notices).events =
          editor.events ++ notices.filterMap (Notice.event? editor.isOpen project) := by
  induction notices generalizing editor with
  | nil => exact ⟨present, rfl, (List.append_nil _).symm⟩
  | cons notice rest ih =>
    have first : editor.notify project notice ≠ .absent ∧
        (editor.notify project notice).isOpen = editor.isOpen ∧
          (editor.notify project notice).events =
            editor.events ++ (notice.event? editor.isOpen project).toList := by
      cases editor with
      | absent => exact absurd rfl present
      | present openPaths events =>
        cases notice with
        | checkOpen document path =>
          rw [notify, Notice.event?]
          split
          · exact ⟨Editor.noConfusion, rfl, rfl⟩
          · exact ⟨Editor.noConfusion, rfl, (List.append_nil _).symm⟩
        | opened document => exact ⟨Editor.noConfusion, rfl, rfl⟩
        | closed document => exact ⟨Editor.noConfusion, rfl, rfl⟩
    obtain ⟨present_next, same_open, told⟩ := first
    obtain ⟨present_last, still_open, told_rest⟩ := ih present_next
    refine ⟨present_last, still_open.trans same_open, ?_⟩
    show ((editor.notify project notice).notifyAll project rest).events = _
    rw [told_rest, told, same_open, List.append_assoc]
    cases passed : notice.event? editor.isOpen project <;> simp [passed]

/-- News of other documents is of no concern. -/
theorem history_notifyAll (present : editor ≠ .absent) (project : ProjectId)
    (notices : List Notice) (id : DocumentId) :
    (editor.notifyAll project notices).history id =
      editor.history id ++ (newsOf id notices).filterMap (Notice.event? editor.isOpen project) := by
  rw [history, (notifyAll_eq present project notices).2.2, List.filter_append, history, newsOf]
  refine congrArg (editor.events.filter _ ++ ·) ?_
  rw [List.filter_filterMap, List.filterMap_filter]
  refine List.filterMap_congr fun notice _ => ?_
  cases passed : notice.event? editor.isOpen project with
  | none => simp
  | some event => simp [Option.filter_some, Notice.document_of_event? passed]

end Editor

end CodeWorkspace
