import CodeWorkspace.Json.Value

/-!
# Values read back

A value without doubles reads back from its tree, unless the tree is deeper than the reader may
go.  The members of an object come back in the order of their keys, which is the order in which
they are written.
-/

namespace CodeWorkspace

namespace Json

namespace Tree

mutual

/-- How many containers of a tree stand one within another. -/
def depth : Tree → Nat
  | .array items => itemDepth items + 1
  | .object members => memberDepth members + 1
  | _ => 0

/-- The depth of the deepest item. -/
def itemDepth : List Tree → Nat
  | [] => 0
  | item :: rest => max item.depth (itemDepth rest)

/-- The depth of the deepest member. -/
def memberDepth : List (Option String × Tree) → Nat
  | [] => 0
  | (_, value) :: rest => max value.depth (memberDepth rest)

end

theorem depth_le_itemDepth {items : List Tree} {item : Tree} (item_mem : item ∈ items) :
    item.depth ≤ itemDepth items := by
  induction items with
  | nil => cases item_mem
  | cons first rest ih =>
    rw [itemDepth]
    rcases List.mem_cons.mp item_mem with rfl | later
    · exact Nat.le_max_left _ _
    · exact Nat.le_trans (ih later) (Nat.le_max_right _ _)

theorem depth_le_memberDepth {members : List (Option String × Tree)}
    {member : Option String × Tree} (member_mem : member ∈ members) :
    member.2.depth ≤ memberDepth members := by
  induction members with
  | nil => cases member_mem
  | cons first rest ih =>
    obtain ⟨key, value⟩ := first
    rw [memberDepth]
    rcases List.mem_cons.mp member_mem with rfl | later
    · exact Nat.le_max_left _ _
    · exact Nat.le_trans (ih later) (Nat.le_max_right _ _)

theorem depth_le_of_mem_array {items : List Tree} {item : Tree} {depth : Nat}
    (item_mem : item ∈ items) (shallow : (array items).depth ≤ depth + 1) : item.depth ≤ depth :=
  Nat.le_trans (depth_le_itemDepth item_mem) (Nat.le_of_succ_le_succ shallow)

theorem depth_le_of_mem_record {members : List (String × Tree)} {member : String × Tree}
    {depth : Nat} (member_mem : member ∈ members)
    (shallow : (record members).depth ≤ depth + 1) : member.2.depth ≤ depth := by
  have kept : (some member.1, member.2) ∈ members.map fun member => (some member.1, member.2) :=
    List.mem_map_of_mem member_mem
  exact Nat.le_trans (depth_le_memberDepth kept) (Nat.le_of_succ_le_succ shallow)

end Tree

namespace Value

mutual

/-- Whether no part of a value is a double. -/
def doubleFree : Value → Bool
  | .double _ => false
  | .array items => doubleFreeItems items
  | .object members => doubleFreeMembers members
  | _ => true

/-- Whether no item has a double in it. -/
def doubleFreeItems : List Value → Bool
  | [] => true
  | item :: rest => item.doubleFree && doubleFreeItems rest

/-- Whether no member has a double in it. -/
def doubleFreeMembers : List (String × Value) → Bool
  | [] => true
  | (_, value) :: rest => value.doubleFree && doubleFreeMembers rest

end

theorem toInt?_ofInt (value : Int) : (Numeral.ofInt value).toInt? = some value := by
  by_cases negative : value < 0
  · simp [Numeral.toInt?, Numeral.ofInt, negative, Int.ne_of_lt negative,
      Int.ofNat_natAbs_of_nonpos (Int.le_of_lt negative)]
  · simp [Numeral.toInt?, Numeral.ofInt, negative, Int.natAbs_of_nonneg (Int.not_lt.mp negative)]

theorem ofNumeral?_ofInt {value : Int} (fitting : fits value = true) :
    ofNumeral? (.ofInt value) = some (.integer value) := by
  simp only [ofNumeral?, toInt?_ofInt, fitting, if_true]

theorem read?_natural {number : Nat} (depth : Nat) (small : number < 0x10000000000000000) :
    read? depth (.natural number) = some (.integer number) := by
  have fitting : fits number = true := by
    simp only [fits, Bool.and_eq_true, decide_eq_true_eq]
    omega
  have literal : Numeral.ofNat number = .ofInt number := by
    simp [Numeral.ofNat, Numeral.ofInt, Int.not_lt.mpr (Int.natCast_nonneg number)]
  rw [Tree.natural, literal, read?, ofNumeral?_ofInt fitting]

/-- The members of an object can be read if each of their values can. -/
theorem exists_readMembers? {depth : Nat} {members : List (String × Tree)}
    (each : ∀ member ∈ members, ∃ value, read? depth member.2 = some value) :
    ∃ values, readMembers? depth (members.map fun member => (some member.1, member.2)) =
      some values := by
  induction members with
  | nil => exact ⟨[], rfl⟩
  | cons member rest ih =>
    obtain ⟨value, value_eq⟩ := each member List.mem_cons_self
    obtain ⟨values, values_eq⟩ :=
      ih fun later later_mem => each later (List.mem_cons_of_mem _ later_mem)
    rw [List.map_cons, readMembers?, value_eq, values_eq]
    exact ⟨_, rfl⟩

/-- A member whose key is below all others goes in front. -/
theorem addMember_of_least {key : String} {value : Value} {members : List (String × Value)}
    (least : ∀ member ∈ members, key < member.1) :
    addMember key value members = (key, value) :: members := by
  cases members with
  | nil => rfl
  | cons member rest =>
    obtain ⟨other, old⟩ := member
    rw [addMember, if_pos (least (other, old) List.mem_cons_self)]

mutual

/-- A value without doubles reads back from its tree. -/
theorem read?_tree {value : Value} {depth : Nat} (canonical : value.Canonical)
    (free : value.doubleFree = true) (shallow : value.tree.depth ≤ depth) :
    read? depth value.tree = some value := by
  match value with
  | .null => rfl
  | .bool value => rfl
  | .integer value => exact ofNumeral?_ofInt canonical
  | .double value => cases free
  | .string content => rfl
  | .array items =>
    match depth, shallow with
    | depth + 1, shallow =>
      rw [tree, read?, readItems?_itemTrees canonical free (Nat.le_of_succ_le_succ shallow)]
      rfl
  | .object members =>
    match depth, shallow with
    | depth + 1, shallow =>
      rw [tree, read?, readMembers?_memberTrees canonical free (Nat.le_of_succ_le_succ shallow)]
      rfl

theorem readItems?_itemTrees {items : List Value} {depth : Nat} (canonical : CanonicalItems items)
    (free : doubleFreeItems items = true) (shallow : Tree.itemDepth (itemTrees items) ≤ depth) :
    readItems? depth (itemTrees items) = some items := by
  match items with
  | [] => rfl
  | item :: rest =>
    simp only [doubleFreeItems, Bool.and_eq_true] at free
    simp only [itemTrees, Tree.itemDepth, Nat.max_le] at shallow
    rw [itemTrees, readItems?, read?_tree canonical.1 free.1 shallow.1,
      readItems?_itemTrees canonical.2 free.2 shallow.2]
    rfl

theorem readMembers?_memberTrees {members : List (String × Value)} {depth : Nat}
    (canonical : CanonicalMembers members) (free : doubleFreeMembers members = true)
    (shallow : Tree.memberDepth (memberTrees members) ≤ depth) :
    readMembers? depth (memberTrees members) = some members := by
  match members with
  | [] => rfl
  | (key, value) :: rest =>
    simp only [doubleFreeMembers, Bool.and_eq_true] at free
    simp only [memberTrees, Tree.memberDepth, Nat.max_le] at shallow
    obtain ⟨value_canonical, least, rest_canonical⟩ := canonical
    rw [memberTrees, readMembers?, read?_tree value_canonical free.1 shallow.1,
      readMembers?_memberTrees rest_canonical free.2 shallow.2]
    exact congrArg some (addMember_of_least least)

end

end Value

end Json

end CodeWorkspace
