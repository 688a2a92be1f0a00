import CodeWorkspace.Proofs.Session.Filling
import CodeWorkspace.Proofs.Workspace.Batch

/-!
# Filling the project of a manifest

An entry of a manifest fills its project with documents, metadata references, references to projects
and analyzers, which is the order of the groups of a flush plan.  So filling comes to the same in
one batch as one by one: it stops at the first addition that is turned down, and what was made by
then is committed.
-/

namespace CodeWorkspace

private theorem map_mapIdx {α β γ : Type} (form : β → γ) (place : Nat → α → β) (list : List α) :
    (list.mapIdx place).map form = list.mapIdx fun index item => form (place index item) := by
  apply List.ext_getElem?
  intro index
  simp [List.getElem?_mapIdx, Function.comp_def]

namespace ProjectManifest

/-- What an entry adds to its project, given the projects that it refers to. -/
def additions (entry : ProjectManifest) (targets : List ProjectId) (document : Nat → DocumentId) :
    List Addition :=
  (entry.documents.mapIdx fun place (collection, kind, path) =>
      .file collection path kind (document place)) ++
    entry.metadataReferences.map (fun reference => .metadata reference.reference) ++
    targets.map .project ++ entry.analyzers.map .analyzer

variable (entry : ProjectManifest) (targets : List ProjectId) (document : Nat → DocumentId)

theorem edits_eq :
    entry.edits targets document = (entry.additions targets document).map Addition.edit := by
  simp only [edits, additions, List.map_append, map_mapIdx, List.map_map]
  rfl

/-- The identities of the documents that an entry adds. -/
def documentIds (entry : ProjectManifest) (document : Nat → DocumentId) : List DocumentId :=
  (List.range entry.documents.length).map document

theorem drawn_additions :
    ((entry.additions targets document).flatMap fun addition => addition.edit.drawn) =
      entry.documentIds document := by
  have documents : ((entry.documents.mapIdx fun place (file : _ × _ × _) =>
      Addition.file file.1 file.2.2 file.2.1 (document place)).map
        fun addition => addition.edit.drawn) =
          (List.range entry.documents.length).map fun place => [document place] := by
    rw [map_mapIdx]
    apply List.ext_getElem <;> simp [Addition.edit, Edit.drawn]
  have others {α : Type} (form : α → Addition) (items : List α)
      (silent : ∀ item, (form item).edit.drawn = []) :
      ((items.map form).flatMap fun addition => addition.edit.drawn) = [] := by
    rw [List.flatMap_map]
    exact List.flatMap_eq_nil_iff.mpr fun item _ => silent item
  rw [additions, List.flatMap_append, List.flatMap_append, List.flatMap_append,
    others _ _ fun _ => rfl, others _ _ fun _ => rfl, others _ _ fun _ => rfl, List.flatMap_def,
    documents, ← List.flatMap_def]
  simp [documentIds, ← List.map_eq_flatMap]

/-- An entry makes its additions in the order of their groups. -/
theorem grouped_additions :
    (entry.additions targets document).Pairwise
      fun first second => first.group ≤ second.group := by
  have groups : (entry.additions targets document).map Addition.group =
      List.replicate entry.sources.length 0 ++ List.replicate entry.scripts.length 0 ++
        List.replicate entry.additional.length 1 ++
        List.replicate entry.metadataReferences.length 2 ++ List.replicate targets.length 3 ++
        List.replicate entry.analyzers.length 4 := by
    have documents : ((entry.documents.mapIdx fun place (file : _ × _ × _) =>
        Addition.file file.1 file.2.2 file.2.1 (document place)).map Addition.group) =
          entry.documents.map fun file => if file.1 = .source then 0 else 1 := by
      rw [map_mapIdx]
      apply List.ext_getElem
      · simp
      · intro index within bound
        simp only [List.getElem_mapIdx, List.getElem_map, Addition.group]
        split <;> simp_all
    simp only [additions, List.map_append, documents, List.map_map]
    simp [ProjectManifest.documents, Function.comp_def, Addition.group,
      -List.replicate_append_replicate]
  rw [← List.pairwise_map, groups]
  simp only [List.pairwise_append, List.mem_append, List.mem_replicate, List.pairwise_replicate]
  grind

end ProjectManifest

namespace Workspace

variable {comparison : PathComparison} {workspace : Workspace} {place : Nat} {draft : Draft}
  {start : Session} {empty : Project}

/-- Additions are made until one of them is turned down. -/
theorem performEach_resume (found : workspace.drafts[place]? = some draft) (scopes : List Scope)
    {holds : List Addition → Session → Prop} (admits : Session.Admits comparison start holds)
    {done : List Addition} {session : Session} (held : holds done session) (rest : List Addition)
    (distinct : ((done ++ rest).flatMap fun addition => addition.edit.drawn).Nodup) :
    ∃ last, (workspace.resume place scopes session).performEach place (rest.map Addition.edit) =
        ((Addition.accept comparison start.draft.id start.closing done rest).1,
          workspace.resume place scopes last) ∧
      holds (Addition.accept comparison start.draft.id start.closing done rest).2 last := by
  induction rest generalizing done session with
  | nil => exact ⟨session, rfl, held⟩
  | cons addition rest ih =>
    have fresh : ∀ id ∈ addition.edit.drawn, id ∉ done.flatMap fun made => made.edit.drawn := by
      rw [List.flatMap_append, List.nodup_append] at distinct
      exact fun id drawn known => distinct.2.2 id known id (by simp [drawn]) rfl
    have performed : (workspace.resume place scopes session).onDraft place (.ok .done)
        (fun session => session.perform addition.edit) =
          ((session.perform addition.edit).1,
            workspace.resume place scopes (session.perform addition.edit).2) :=
      onDraft_resume found scopes session _ _
    rw [List.map_cons, performEach, performed, Addition.accept]
    rcases admits held fresh with
      ⟨failure, refused, answered, stays⟩ | ⟨admitted, ⟨answer, answered⟩, added⟩
    · rw [refused, answered]
      exact ⟨_, rfl, stays⟩
    · rw [admitted, answered]
      exact ih added (by rwa [List.append_assoc, List.singleton_append])

/-- Filling a project comes to the same in one batch as one by one. -/
theorem fill_eq (batched : Bool) (found : workspace.drafts[place]? = some draft)
    (start_eq : start = { host := workspace.host, draft })
    (blank : start.Blank comparison empty) {additions : List Addition}
    (grouped : additions.Pairwise fun first second => first.group ≤ second.group)
    (distinct : (additions.flatMap fun addition => addition.edit.drawn).Nodup) :
    ∃ scopes session project,
      Manifest.fill batched workspace place (additions.map Addition.edit) =
        ((Addition.accept comparison start.draft.id start.closing [] additions).1,
          workspace.resume place scopes session) ∧
      Session.FilledWith start empty
        (Addition.accept comparison start.draft.id start.closing [] additions).2 session
        project := by
  have admitted := Addition.accept_prefix comparison start.draft.id start.closing [] additions
  obtain ⟨single, one_by_one, project, advanced⟩ := performEach_resume found workspace.scopes
    blank.admits_advanced ⟨empty, blank.advanced⟩ additions distinct
  have resumed : workspace.resume place workspace.scopes start = workspace := by
    rw [start_eq]
    exact resume_self found
  cases batched with
  | false =>
    rw [resumed] at one_by_one
    exact ⟨workspace.scopes, single, project, one_by_one, advanced.toFilledWith⟩
  | true =>
    obtain ⟨begun, stocked⟩ := blank.stocked
    obtain ⟨last, put_off, stocked⟩ := performEach_resume found
      (workspace.scopes ++ [{ draft := place }]) blank.admits_stocked stocked additions distinct
    obtain ⟨made, made_first, made_eq⟩ := admitted
    rw [List.nil_append] at made_eq
    rw [made_eq] at stocked advanced ⊢
    obtain ⟨ended, filled⟩ := stocked.release blank (grouped.sublist made_first.sublist)
      advanced.committed
    obtain ⟨left, released⟩ := releaseScope_resume found last
      (List.getElem?_concat_length : (workspace.scopes ++ [_])[workspace.scopes.length]? = _)
    refine ⟨left, last.endBatch.2, project, ?_, filled⟩
    show workspace.performInBatch place _ = _
    rw [performInBatch, openScope_resume found start_eq begun]
    simp only [put_off]
    cases (Addition.accept comparison start.draft.id start.closing [] additions).1 with
    | error failure => simp only [released]
    | ok done => simp only [released, ended]

end Workspace

end CodeWorkspace
