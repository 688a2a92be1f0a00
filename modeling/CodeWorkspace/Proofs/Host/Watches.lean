import CodeWorkspace.Proofs.Host.Upkeep

/-!
# Holding watches

The watches of a watcher are held by several parties.  Whoever takes a watch holds it besides those
that he had, and whoever gives one back must have held it; then the watches are always those that
somebody holds, and no token comes back twice.
-/

namespace CodeWorkspace

namespace Watcher

variable {watcher between after : Watcher} {token : WatchToken} {path : String}
  {held left last given rest : List (WatchToken × String)}

/-- Every token is used once: one that was given back was handed out before, stands for no watch
any more, and does not come back again. -/
structure InOrder (watcher : Watcher) : Prop where
  numbered : watcher.Numbered
  once : watcher.released.Nodup
  spent : ∀ token ∈ watcher.released, token.number < watcher.next ∧ token ∉ watcher.active.keys

theorem inOrder_of_feed (feed : ChangeFeed) : InOrder { feed } where
  numbered _ used := absurd used List.not_mem_nil
  once := List.nodup_nil
  spent _ back := absurd back List.not_mem_nil

theorem InOrder.watch (inOrder : watcher.InOrder) (path : String) :
    (watcher.watch path).2.InOrder where
  numbered := inOrder.numbered.watch path
  once := inOrder.once
  spent token back := by
    obtain ⟨smaller, unused⟩ := inOrder.spent token back
    refine ⟨Nat.lt_succ_of_lt smaller, fun used => ?_⟩
    rw [OrderedMap.keys, inOrder.numbered.entries_watch, List.map_append, List.mem_append] at used
    rcases used with old | new
    · exact unused old
    · rw [List.mem_singleton.mp new] at smaller
      exact Nat.lt_irrefl _ smaller

theorem InOrder.unwatch (inOrder : watcher.InOrder) (used : token ∈ watcher.active.keys) :
    (watcher.unwatch token).InOrder where
  numbered := inOrder.numbered.unwatch token
  once := by
    refine List.nodup_append.mpr ⟨inOrder.once, by simp, ?_⟩
    rintro old back new here rfl
    rw [List.mem_singleton.mp here] at back
    exact (inOrder.spent token back).2 used
  spent other back := by
    simp only [Watcher.unwatch, OrderedMap.keys_erase, List.mem_filter, not_and]
    rcases List.mem_append.mp back with old | new
    · obtain ⟨smaller, unused⟩ := inOrder.spent other old
      exact ⟨smaller, fun still => absurd still unused⟩
    · rw [List.mem_singleton.mp new]
      exact ⟨inOrder.numbered token used, fun _ => by simp⟩

/-! ## Trades -/

/-- Somebody who held some watches comes to hold others in their place, whatever watches there are
besides. -/
def Trades (watcher : Watcher) (held : List (WatchToken × String)) (after : Watcher)
    (left : List (WatchToken × String)) : Prop :=
  ∀ others, watcher.InOrder → watcher.active.entries.Perm (others ++ held) →
    after.InOrder ∧ after.active.entries.Perm (others ++ left)

theorem trades_of_perm (same : held.Perm left) : watcher.Trades held watcher left :=
  fun others inOrder shared => ⟨inOrder, shared.trans (same.append_left others)⟩

theorem Trades.trans (first : watcher.Trades held between left)
    (second : between.Trades left after last) : watcher.Trades held after last := by
  intro others inOrder shared
  obtain ⟨between_inOrder, between_shared⟩ := first others inOrder shared
  exact second others between_inOrder between_shared

/-- What is held besides is of no concern. -/
theorem Trades.frame (trades : watcher.Trades held after left)
    (rest : List (WatchToken × String)) : watcher.Trades (held ++ rest) after (left ++ rest) := by
  intro others inOrder shared
  have aside (mine : List (WatchToken × String)) :
      (others ++ (mine ++ rest)).Perm (others ++ rest ++ mine) := by
    rw [List.append_assoc]
    exact List.perm_append_comm.append_left others
  obtain ⟨after_inOrder, after_shared⟩ :=
    trades (others ++ rest) inOrder (shared.trans (aside held))
  exact ⟨after_inOrder, after_shared.trans (aside left).symm⟩

theorem trades_watch (watcher : Watcher) (held : List (WatchToken × String)) (path : String) :
    watcher.Trades held (watcher.watch path).2 (held ++ [(⟨watcher.next⟩, path)]) := by
  intro others inOrder shared
  refine ⟨inOrder.watch path, ?_⟩
  rw [inOrder.numbered.entries_watch, ← List.append_assoc]
  exact shared.append_right _

theorem trades_unwatch (watcher : Watcher) (token : WatchToken) (path : String)
    (left : List (WatchToken × String)) :
    watcher.Trades ((token, path) :: left) (watcher.unwatch token) left := by
  intro others inOrder shared
  have first := shared.trans List.perm_middle
  have listed : (token, path) ∈ watcher.active.entries := first.mem_iff.mpr List.mem_cons_self
  have found := OrderedMap.get?_eq_some_iff.mpr listed
  refine ⟨inOrder.unwatch (OrderedMap.mem_keys_of_mem_entries listed), ?_⟩
  exact ((OrderedMap.entries_perm_erase found).symm.trans first).cons_inv

/-- Whoever holds some watches may give them all back. -/
theorem trades_unwatchAll (watcher : Watcher) (given left : List (WatchToken × String)) :
    watcher.Trades (given ++ left) (watcher.unwatchAll (given.map Prod.fst)) left := by
  induction given generalizing watcher with
  | nil => exact trades_of_perm (.refl left)
  | cons first rest ih =>
    exact (trades_unwatch watcher first.1 first.2 (rest ++ left)).trans (ih _)

end Watcher

end CodeWorkspace
