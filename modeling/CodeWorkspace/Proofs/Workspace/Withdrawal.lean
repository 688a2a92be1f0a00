import CodeWorkspace.Proofs.Workspace.Chronicle

/-!
# Withdrawing metadata references

A metadata reference that has been committed and is taken out leaves the snapshot: it is not listed
any more, and if it was converted into a reference to a project, exactly one holder of that is
released for it.  Whether it is converted is found out anew, and depends on the references of other
projects.  If they let a reference become convertible that was committed as itself, its removal is a
stray: it releases a holder that is not its own or none at all, and leaves the reference behind.
-/

namespace CodeWorkspace

namespace Workspace

variable {comparison : PathComparison} {workspace after : Workspace}

/-- A draft whose references are turned over in a portion is the one that is worked on. -/
theorem turnsOver_of_withdrawn (portion : workspace.Portion after) {place : Nat}
    {draft there : Draft} (found : workspace.drafts[place]? = some draft)
    (there_found : after.drafts[place]? = some there) {reference : MetadataReference}
    (leaves : reference ∈ draft.withdrawn there) :
    draft.removed = false ∧ Session.TurnsOver { host := workspace.host, draft }
      { host := after.host, draft := there } := by
  obtain ⟨committed, gone⟩ := Draft.mem_withdrawn.mp leaves
  cases portion with
  | quiet quiet =>
    obtain ⟨old, old_found, outline_eq⟩ := quiet.of_draft there_found
    rw [found] at old_found
    cases old_found
    rw [Draft.committedReferences_of_outline outline_eq] at gone
    exact absurd committed gone
  | worked found_here live turns host drafts =>
    rw [drafts] at there_found
    rcases getElem?_set_cases there_found with ⟨rfl, rfl⟩ | ⟨_, old_found⟩
    · rw [found] at found_here
      cases found_here
      refine ⟨live, ?_⟩
      rw [host]
      exact turns
    · rw [found] at old_found
      cases old_found
      exact absurd committed gone
  | putIn _ _ =>
    rcases getElem?_concat_cases there_found with old_found | ⟨rfl, _⟩
    · rw [found] at old_found
      cases old_found
      exact absurd committed gone
    · rw [List.getElem?_eq_none_iff.mpr (Nat.le_refl _)] at found
      cases found

/-- Taking a project out turns over the references of no other draft. -/
theorem Belongs.not_withdrawn_takenOut {relation : Project → Draft → Prop}
    (belongs : workspace.Belongs comparison relation) {id : ProjectId} {removed : Session}
    {place other : Nat} {draft old there : Draft} (live : workspace.live.get? id = some place)
    (found : workspace.drafts[place]? = some draft)
    (done : { host := workspace.host, draft : Session }.removeProject = (.ok (), removed))
    (old_found : workspace.drafts[other]? = some old)
    (there_found : (workspace.takenOut place id removed).drafts[other]? = some there)
    (live_there : there.removed = false) (reference : MetadataReference) :
    reference ∉ old.withdrawn there := by
  obtain ⟨rfl, unremoved, discarded, _⟩ := belongs.takeOut_cases live found done
  obtain ⟨last, last_found, _, _, rfl⟩ :=
    belongs.live_takenOut_cases found unremoved discarded there_found live_there
  rw [old_found] at last_found
  cases last_found
  intro leaves
  obtain ⟨committed, gone⟩ := Draft.mem_withdrawn.mp leaves
  exact gone committed

end Workspace

/-- How many metadata references are represented as a reference to a project. -/
def Session.convertedInto (session : Session) (references : List MetadataReference)
    (line : ProjectReference) : Nat :=
  references.countP fun reference => session.represent reference = .structural line

namespace Account

variable {account : Account} {before after : Session} {project changed : Project}
  {reference : MetadataReference} {line : ProjectReference} {publisher? : Option ProjectId}

/-- A reference that is converted stays convertible: the reference to a project that it holds cannot
close a cycle. -/
theorem Fits.represent_eq (fits : account.Fits before.current project before.draft)
    (sound : before.current.Sound)
    (found : before.current.project? before.draft.id = some project)
    (entered : account.entries reference = some ⟨.structural line, publisher?⟩)
    (published : before.host.outputs.owner? reference.path = publisher?)
    (unstrayed : account.straysOn line = 0) : before.represent reference = .structural line := by
  have stands := fits.structural reference line publisher? entered
  have counted := convertedInto_pos (fits.committed reference _ entered) entered
  have covered := fits.holders line
  have listed : line ∈ project.projectReferences :=
    mem_projectReferences_of_converted (by omega)
  have refers : before.current.Refers before.draft.id line.target :=
    ⟨project, found, Project.refersTo_iff.mpr ⟨line, listed, rfl⟩⟩
  have unclosed : before.current.closes before.draft.id line.target = false := by
    rw [Bool.eq_false_iff, Snapshot.closes, ne_eq,
      Snapshot.wouldCreateCycle_ofSnapshot sound.keyed]
    rintro (same | back)
    · exact stands.differs same.symm
    · exact sound.acyclic _ (back.head refers)
  rw [← published] at stands
  exact stands.reconcile_eq unclosed

/-- As long as no stray concerns a line, a turnover releases one of its holders for each reference
that was converted into it and is withdrawn. -/
theorem Fits.released (fits : account.Fits before.current project before.draft)
    (turnover : Draft.Turnover before.represent project before.draft changed after.draft)
    (unstrayed : (account.follow before after).straysOn line = 0) :
    (changed.holding line).converted +
        before.convertedInto (before.draft.withdrawn after.draft) line =
      (project.holding line).converted +
        before.convertedInto (before.draft.entered after.draft) line := by
  have released := account.countP_withdrawn_le (before.draft.withdrawn after.draft)
    before.represent line
  have fewer : account.convertedInto (before.draft.withdrawn after.draft) line ≤
      account.convertedInto before.draft.committedReferences line :=
    List.filter_sublist.countP_le
  have covered := fits.holders line
  rw [straysOn_follow] at unstrayed
  rw [turnover.converted, Session.convertedInto, Session.convertedInto]
  omega

end Account

namespace Chronicle

variable {comparison : PathComparison} {chronicle before after : Chronicle} {command : Command}
  {place : Nat} {draft there : Draft} {reference : MetadataReference}

/-- What a command does, in two portions. -/
inductive Half (chronicle : Chronicle) (command : Command) : Chronicle → Chronicle → Prop where
  | first : Half chronicle command chronicle (chronicle.prepare command)
  | second : Half chronicle command (chronicle.prepare command) (chronicle.step command)

theorem Half.balanced (half : Half chronicle command before after)
    (balanced : Balanced comparison chronicle) :
    Balanced comparison before ∧ Balanced comparison after := by
  cases half with
  | first => exact ⟨balanced, balanced.prepare command⟩
  | second => exact ⟨balanced.prepare command, balanced.step command⟩

/-- A reference of a live project is withdrawn by a turnover of that project. -/
theorem Half.turnsOver (half : Half chronicle command before after)
    (balanced : Balanced comparison chronicle)
    (found : before.workspace.drafts[place]? = some draft)
    (there_found : after.workspace.drafts[place]? = some there) (live : there.removed = false)
    (leaves : reference ∈ draft.withdrawn there) :
    draft.removed = false ∧ Session.TurnsOver { host := before.workspace.host, draft }
      { host := after.workspace.host, draft := there } := by
  cases half with
  | first =>
    exact Workspace.turnsOver_of_withdrawn (chronicle.workspace.portion_prepare command) found
      there_found leaves
  | second =>
    by_cases removal : ∃ id, command = .removeProject id
    · obtain ⟨id, rfl⟩ := removal
      have there_found : (chronicle.workspace.removeProject id).2.drafts[place]? = some there :=
        there_found
      have found : chronicle.workspace.drafts[place]? = some draft := found
      rcases chronicle.workspace.removeProject_cases id with
        ⟨_, drafts, _⟩ | ⟨taken, last, removed, live_taken, last_found, done, taken_eq⟩
      · rw [drafts, found] at there_found
        cases there_found
        obtain ⟨committed, gone⟩ := Draft.mem_withdrawn.mp leaves
        exact absurd committed gone
      · rw [taken_eq] at there_found
        exact absurd leaves (balanced.belongs.not_withdrawn_takenOut live_taken last_found done
          found there_found live reference)
    · exact Workspace.turnsOver_of_withdrawn (chronicle.workspace.portion_step fun id same =>
        removal ⟨id, same⟩) found there_found leaves

end Chronicle

end CodeWorkspace
