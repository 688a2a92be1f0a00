import CodeWorkspace.Proofs.Manifest.Load

/-!
# Loading in batches

It makes no difference to what a workspace holds whether a manifest is loaded project by project in
batches or change by change.
-/

namespace CodeWorkspace

namespace Manifest

open Workspace (Underway)

variable {comparison : PathComparison} {infos : List ProjectInfo} {filled : Nat}
  {single batched : Workspace}

/-- Filling the projects of the same contents in batches and change by change comes to the same. -/
theorem fillEach_eq (manifest : Manifest) (draws : Draws)
    (single_underway : single.Underway comparison infos filled)
    (batched_underway : batched.Underway comparison infos filled)
    (same : single.snapshot.SameContents batched.snapshot) (entries : List ProjectManifest)
    (listed : ∀ (place : Nat) entry, entries[place]? = some entry →
      infos[filled + place]? = some (entry.info (draws.project (filled + place))) ∧
        (entry.documentIds (draws.document (filled + place))).Nodup) :
    (manifest.fillEach draws true batched filled
        (entries.zip (List.range' filled entries.length))).1 =
      (manifest.fillEach draws false single filled
        (entries.zip (List.range' filled entries.length))).1 ∧
    (manifest.fillEach draws false single filled
        (entries.zip (List.range' filled entries.length))).2.snapshot.SameContents
      (manifest.fillEach draws true batched filled
        (entries.zip (List.range' filled entries.length))).2.snapshot := by
  induction entries generalizing filled single batched with
  | nil => exact ⟨rfl, same⟩
  | cons entry rest ih =>
    obtain ⟨info_listed, distinct⟩ := listed 0 entry rfl
    rw [Nat.add_zero] at info_listed distinct
    generalize entry.info (draws.project filled) = info at info_listed
    rw [List.length_cons, List.range'_succ, List.zip_cons_cons, fillEach, fillEach]
    cases manifest.targets draws entry with
    | error error => exact ⟨rfl, same⟩
    | ok targets =>
      have additions_distinct := entry.drawn_additions targets (draws.document filled) ▸ distinct
      have grouped := entry.grouped_additions targets (draws.document filled)
      obtain ⟨single_reached, project, single_fills, single_next, replaced, committed⟩ :=
        single_underway.fill false info_listed grouped additions_distinct
      obtain ⟨batched_reached, other, batched_fills, batched_next, other_replaced,
        other_committed⟩ := batched_underway.fill true info_listed grouped additions_distinct
      have closes_eq := same.closes_eq single_underway.keyed batched_underway.keyed info.id
      simp only [batched_underway.outputs_eq, ← single_underway.outputs_eq,
        same.reconcile_eq single_underway.keyed batched_underway.keyed] at other_committed
      rw [closes_eq] at batched_fills other_committed
      cases other_committed.symm.trans committed
      have reached_same := same.replaced replaced other_replaced
      simp only [entry.edits_eq, single_fills, batched_fills]
      cases (Addition.accept comparison info.id (single.snapshot.closes info.id) []
        (entry.additions targets (draws.document filled))).1 with
      | error failure => exact ⟨rfl, reached_same⟩
      | ok done =>
        refine ih single_next batched_next reached_same fun place other there => ?_
        rw [Nat.add_assoc, Nat.add_comm 1]
        exact listed (place + 1) other there

/-- Whether a manifest is loaded in batches or change by change makes no difference to the answer
and to the projects of the workspace, if no two documents are to have the same identity. -/
theorem load_batched_eq (manifest : Manifest) (draws : Draws) (comparison : PathComparison)
    (distinct : (manifest.documentIds draws).Nodup) :
    (manifest.load draws true (.inMemory comparison)).1 =
        (manifest.load draws false (.inMemory comparison)).1 ∧
      (manifest.load draws true (.inMemory comparison)).2.snapshot.contents =
        (manifest.load draws false (.inMemory comparison)).2.snapshot.contents := by
  rcases createEach_cases draws (Workspace.opened_inMemory comparison)
    manifest.projects with ⟨created, creates, opened, -⟩ | ⟨⟨error, attempted, fails⟩, -⟩
  · rw [List.nil_append] at opened
    rw [List.length_nil] at creates opened
    have underway := opened.underway
    obtain ⟨answers_eq, same⟩ := fillEach_eq manifest draws underway underway (.refl _)
      manifest.projects fun place entry listed => by
        rw [Nat.zero_add, infosFrom, List.getElem?_mapIdx, listed, Nat.zero_add]
        exact ⟨rfl, documentIds_nodup distinct listed⟩
    simp only [load, creates, answers_eq]
    exact ⟨trivial, same.contents_eq⟩
  · rw [List.length_nil] at fails
    simp only [load, fails]
    exact ⟨trivial, trivial⟩

/-- Two projects that refer to each other's output; one of them refers to the other one by name
besides, so that this reference closes a cycle. -/
def circle : Manifest where
  projects := [
    { name := "App", outputPath? := some "/app.dll", sources := ["Main.cs", "App.cs"],
      scripts := ["App.csx"], metadataReferences := [{ path := "/base.dll" }] },
    { name := "Base", outputPath? := some "/base.dll", sources := ["Base.cs"],
      metadataReferences := [{ path := "/core.dll" }, { path := "/app.dll" }],
      projectReferences := ["App"], analyzers := ["/rules.dll"] }]

theorem load_batched_eq_circle :
    (circle.load counting true (.inMemory .ordinal)).1 =
        (circle.load counting false (.inMemory .ordinal)).1 ∧
      (circle.load counting true (.inMemory .ordinal)).2.snapshot.contents =
        (circle.load counting false (.inMemory .ordinal)).2.snapshot.contents :=
  load_batched_eq circle counting .ordinal (by decide)

end Manifest

end CodeWorkspace
