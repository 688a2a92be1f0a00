import CodeWorkspace.Json.Parser
import CodeWorkspace.Proofs.Json.Tokens

/-!
# Reading what was written

The pushdown machine that reads the tokens of a tree ends up behind that tree with the stack as it
was.  So the compact form of every tree reads back as the tree, whatever strings and number
literals it holds.
-/

namespace CodeWorkspace

namespace Json

namespace Machine

/-- An array that does not end at once waits for its first item like for any other. -/
theorem run_atFirstItem (stack : List Frame) (item : Tree) (more : List Tree)
    (rest : List Token) :
    run (.atFirstItem stack) (Tree.itemTokens (item :: more) ++ rest) =
      run (.atValue (.array [] :: stack)) (Tree.itemTokens (item :: more) ++ rest) := by
  have started : ∃ after, Tree.itemTokens (item :: more) = item.tokens ++ after := by
    cases more with
    | nil => exact ⟨[], (List.append_nil _).symm⟩
    | cons next more => exact ⟨_, rfl⟩
  obtain ⟨after, after_eq⟩ := started
  rw [after_eq]
  cases item <;> rfl

/-- An object that does not end at once waits for its first key like for any other. -/
theorem run_atFirstKey (stack : List Frame) (member : Option String × Tree)
    (more : List (Option String × Tree)) (rest : List Token) :
    run (.atFirstKey stack) (Tree.memberTokens (member :: more) ++ rest) =
      run (.atKey [] stack) (Tree.memberTokens (member :: more) ++ rest) := by
  cases more <;> rfl

mutual

/-- Where a value may stand, the tokens of a tree lead behind the tree. -/
theorem run_tokens (tree : Tree) (stack : List Frame) (rest : List Token) :
    run (.atValue stack) (tree.tokens ++ rest) = run (.behind tree stack) rest := by
  match tree with
  | .null => rfl
  | .bool value => rfl
  | .number numeral => rfl
  | .string content? => rfl
  | .array [] => rfl
  | .array (item :: more) =>
    have inside := run_items (item :: more) (List.cons_ne_nil _ _) [] stack rest
    rw [← run_atFirstItem] at inside
    simpa [Tree.tokens, run, step, startValue] using inside
  | .object [] => rfl
  | .object ((key, value) :: more) =>
    have inside := run_members ((key, value) :: more) (List.cons_ne_nil _ _) [] stack rest
    rw [← run_atFirstKey] at inside
    simpa [Tree.tokens, run, step, startValue] using inside

theorem run_items (items : List Tree) (nonempty : items ≠ []) (done : List Tree)
    (stack : List Frame) (rest : List Token) :
    run (.atValue (.array done :: stack)) (Tree.itemTokens items ++ .closeArray :: rest) =
      run (.behind (.array (done.reverse ++ items)) stack) rest := by
  match items, nonempty with
  | [item], _ =>
    rw [Tree.itemTokens, run_tokens item]
    simp [run, step, afterValue]
  | item :: next :: more, _ =>
    rw [Tree.itemTokens, List.append_assoc, run_tokens item, List.cons_append]
    have later := run_items (next :: more) (List.cons_ne_nil _ _) (item :: done) stack rest
    simpa [run, step, afterValue] using later

theorem run_members (members : List (Option String × Tree)) (nonempty : members ≠ [])
    (done : List (Option String × Tree)) (stack : List Frame) (rest : List Token) :
    run (.atKey done stack) (Tree.memberTokens members ++ .closeObject :: rest) =
      run (.behind (.object (done.reverse ++ members)) stack) rest := by
  match members, nonempty with
  | [(key, value)], _ =>
    have read := run_tokens value (.object done key :: stack) (.closeObject :: rest)
    simpa [Tree.memberTokens, run, step, afterValue] using read
  | (key, value) :: next :: more, _ =>
    have read := run_tokens value (.object done key :: stack)
      (.comma :: (Tree.memberTokens (next :: more) ++ .closeObject :: rest))
    have later := run_members (next :: more) (List.cons_ne_nil _ _) ((key, value) :: done) stack rest
    simp only [run, step, afterValue] at read
    rw [later] at read
    simpa [Tree.memberTokens, run, step] using read

end

end Machine

namespace Tree

/-- The compact form of a tree reads back as the tree. -/
theorem parse?_compact (tree : Tree) : parse? tree.compact = some tree := by
  have cut := tokenize_compact tree behind_nil
  rw [List.append_nil, tokenize, Option.map_some, List.append_nil] at cut
  have read := Machine.run_tokens tree [] []
  rw [List.append_nil] at read
  rw [parse?, compact, String.toList_ofList, parseChars?, cut]
  simp only [bind, Option.bind_some, read, Machine.run, Machine.result?]

end Tree

end Json

end CodeWorkspace
