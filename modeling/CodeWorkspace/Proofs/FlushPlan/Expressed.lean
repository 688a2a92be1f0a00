import CodeWorkspace.Proofs.FlushPlan.Outcome
import Mathlib.Data.List.Basic

/-!
# Metadata references as a project has them

A project expresses a list of metadata references if it lists those that are represented as
themselves and has a converted holder for each of the others.  Adding and removing references keeps
this, one after another or all at once, as long as every reference is represented in the same way
throughout.
-/

namespace CodeWorkspace

namespace Project

variable {project changed : Project} {represent : MetadataReference → Representation}
  {references after : List MetadataReference}

/-- The metadata references of a project, and the holders that stand for metadata references, are
what some references are represented as. -/
structure Expresses (represent : MetadataReference → Representation)
    (references : List MetadataReference) (project : Project) : Prop where
  metadata : project.metadataReferences.Perm
    (references.filterMap fun reference => (represent reference).content?)
  converted : ∀ line, (project.holding line).converted =
    references.countP fun reference => represent reference = .structural line

theorem Expresses.of_same (expresses : project.Expresses represent references)
    (metadata_eq : changed.metadataReferences = project.metadataReferences)
    (converted_eq : ∀ line, (changed.holding line).converted = (project.holding line).converted) :
    changed.Expresses represent references where
  metadata := by
    rw [metadata_eq]
    exact expresses.metadata
  converted line := (converted_eq line).trans (expresses.converted line)

theorem Expresses.of_perm (expresses : project.Expresses represent references)
    (same : after.Perm references) : project.Expresses represent after where
  metadata := expresses.metadata.trans (same.filterMap _).symm
  converted line := (expresses.converted line).trans (same.countP_eq _).symm

private theorem diff_perm_of_append {α : Type} [DecidableEq α] {all part rest : List α}
    (parted : all.Perm (rest ++ part)) : (all.diff part).Perm rest := by
  have within : ∀ item ∈ part, part.count item ≤ all.count item := by
    intro item _
    rw [parted.count_eq, List.count_append]
    omega
  have together := (List.subperm_append_diff_self_of_count_le within).trans
    (parted.trans List.perm_append_comm)
  exact (List.perm_append_left_iff part).mp together

/-- References that are added and removed together are expressed afterwards. -/
theorem Expresses.update (expresses : project.Expresses represent references)
    (added removed : List MetadataReference) {table : ProjectReference → Holders}
    (lists : changed.Lists ((project.metadataReferences ++ added.filterMap fun reference =>
      (represent reference).content?).diff (removed.filterMap fun reference =>
        (represent reference).content?)) table)
    (counts : ∀ line, (table line).converted = (project.holding line).converted +
      (added.countP fun reference => represent reference = .structural line) -
        removed.countP fun reference => represent reference = .structural line)
    (parted : (after ++ removed).Perm (references ++ added)) :
    changed.Expresses represent after where
  metadata := by
    rw [lists.metadata_eq]
    apply diff_perm_of_append
    rw [← List.filterMap_append]
    refine List.Perm.trans ?_ (parted.filterMap _).symm
    rw [List.filterMap_append]
    exact expresses.metadata.append_right _
  converted line := by
    have balance := parted.countP_eq fun reference => represent reference = .structural line
    simp only [List.countP_append] at balance
    rw [lists.holding_eq, counts, expresses.converted]
    omega

variable {closes : ProjectId → Bool} {reference : MetadataReference}

theorem Expresses.addReference (expresses : project.Expresses represent references)
    (booked : project.Booked)
    (completed : Transition.effects closes project
      ([reference].map (.addReference ∘ represent)) = .ok changed) :
    changed.Expresses represent (references ++ [reference]) := by
  have lists := Transition.lists_addReferences booked.lists completed
  refine expresses.update [reference] [] lists (fun line => ?_) (by rw [List.append_nil])
  rw [List.countP_nil, Nat.sub_zero]
  rfl

theorem Expresses.removeReference (expresses : project.Expresses represent references)
    (booked : project.Booked) (present : reference ∈ references)
    (completed : Transition.effects closes project
      ([reference].map (.removeReference ∘ represent)) = .ok changed) :
    changed.Expresses represent (references.erase reference) := by
  have lists := Transition.lists_removeReferences booked.lists completed
  rw [← List.append_nil project.metadataReferences] at lists
  refine expresses.update [] [reference] lists (fun line => ?_) ?_
  · rw [List.countP_nil, Nat.add_zero]
    rfl
  · rw [List.append_nil]
    exact List.perm_append_comm.trans (List.perm_cons_erase present).symm

end Project

end CodeWorkspace
