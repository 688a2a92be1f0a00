import CodeWorkspace.Json.Decoder
import CodeWorkspace.Json.Number

/-!
# JSON values

What a syntax tree means when nothing more is known about it.  Strings are texts, numbers are
integers of 64 bits or doubles, and the members of an object are sorted by key, each key occurring
once; of repeated members the last counts.  `Value.canonical_of_read?` says that every value read
from a tree has this form.
-/

namespace CodeWorkspace

namespace Json

/-- A JSON value. -/
inductive Value where
  | null
  | bool (value : Bool)
  | integer (value : Int)
  | double (value : Double)
  | string (content : String)
  | array (items : List Value)
  | object (members : List (String × Value))
  deriving Inhabited

namespace Value

/-- Whether an integer fits into 64 bits, with or without a sign. -/
def fits (value : Int) : Bool :=
  -0x8000000000000000 ≤ value && value < 0x10000000000000000

mutual

/-- Integers fit into 64 bits, and objects list their members in the order of their keys. -/
def Canonical : Value → Prop
  | .integer value => fits value
  | .array items => CanonicalItems items
  | .object members => CanonicalMembers members
  | _ => True

/-- Every item is canonical. -/
def CanonicalItems : List Value → Prop
  | [] => True
  | item :: rest => item.Canonical ∧ CanonicalItems rest

/-- Every member has a canonical value and a key below those of all members behind it. -/
def CanonicalMembers : List (String × Value) → Prop
  | [] => True
  | (key, value) :: rest =>
    value.Canonical ∧ (∀ member ∈ rest, key < member.1) ∧ CanonicalMembers rest

end

/-! ## Equality -/

mutual

/-- Equality of values.  An integer never equals a double, and the two zeros are equal. -/
def same : Value → Value → Bool
  | .null, .null => true
  | .bool first, .bool second => first == second
  | .integer first, .integer second => first == second
  | .double first, .double second => first.same second
  | .string first, .string second => first == second
  | .array first, .array second => sameItems first second
  | .object first, .object second => sameMembers first second
  | _, _ => false

/-- Equality of lists of values. -/
def sameItems : List Value → List Value → Bool
  | [], [] => true
  | first :: firsts, second :: seconds => first.same second && sameItems firsts seconds
  | _, _ => false

/-- Equality of sorted members. -/
def sameMembers : List (String × Value) → List (String × Value) → Bool
  | [], [] => true
  | (firstKey, first) :: firsts, (secondKey, second) :: seconds =>
    firstKey == secondKey && first.same second && sameMembers firsts seconds
  | _, _ => false

end

/-! ## Reading -/

/-- Puts a member in its place among sorted members, unless its key is already there. -/
def addMember (key : String) (value : Value) : List (String × Value) → List (String × Value)
  | [] => [(key, value)]
  | (other, old) :: rest =>
    if key < other then (key, value) :: (other, old) :: rest
    else if key = other then (other, old) :: rest
    else (other, old) :: addMember key value rest

/-- The value of a number literal. -/
def ofNumeral? (numeral : Numeral) : Option Value :=
  match numeral.toInt? with
  | some value => if fits value then some (.integer value) else numeral.double?.map .double
  | none => numeral.double?.map .double

mutual

/-- The value that a tree denotes, if it opens no more containers than allowed. -/
def read? (depth : Nat) : Tree → Option Value
  | .null => some .null
  | .bool value => some (.bool value)
  | .number numeral => ofNumeral? numeral
  | .string content? => content?.map .string
  | .array items =>
    match depth with
    | 0 => none
    | depth + 1 => (readItems? depth items).map .array
  | .object members =>
    match depth with
    | 0 => none
    | depth + 1 => (readMembers? depth members).map .object

/-- The values of items. -/
def readItems? (depth : Nat) : List Tree → Option (List Value)
  | [] => some []
  | item :: rest =>
    match read? depth item with
    | none => none
    | some value => (readItems? depth rest).map (value :: ·)

/-- The sorted members of an object. -/
def readMembers? (depth : Nat) : List (Option String × Tree) → Option (List (String × Value))
  | [] => some []
  | (none, _) :: _ => none
  | (some key, item) :: rest =>
    match read? depth item with
    | none => none
    | some value => (readMembers? depth rest).map (addMember key value)

end

theorem mem_addMember {key : String} {value : Value} {members : List (String × Value)}
    {member : String × Value} (member_mem : member ∈ addMember key value members) :
    member = (key, value) ∨ member ∈ members := by
  induction members with
  | nil => simpa [addMember] using member_mem
  | cons head rest ih =>
    simp only [addMember] at member_mem
    split at member_mem
    · simpa using member_mem
    · split at member_mem
      · exact Or.inr member_mem
      · rcases List.mem_cons.mp member_mem with rfl | later
        · exact Or.inr List.mem_cons_self
        · exact (ih later).imp_right (List.mem_cons_of_mem _)

theorem canonicalMembers_addMember {key : String} {value : Value}
    {members : List (String × Value)} (value_canonical : value.Canonical)
    (members_canonical : CanonicalMembers members) :
    CanonicalMembers (addMember key value members) := by
  induction members with
  | nil => exact ⟨value_canonical, by simp, trivial⟩
  | cons head rest ih =>
    obtain ⟨other, old⟩ := head
    simp only [CanonicalMembers] at members_canonical
    obtain ⟨old_canonical, other_least, rest_canonical⟩ := members_canonical
    simp only [addMember]
    split
    · rename_i key_less
      refine ⟨value_canonical, ?_, old_canonical, other_least, rest_canonical⟩
      intro member member_mem
      rcases List.mem_cons.mp member_mem with rfl | later
      · exact key_less
      · exact String.lt_trans key_less (other_least member later)
    · rename_i key_not_less
      split
      · exact ⟨old_canonical, other_least, rest_canonical⟩
      · rename_i key_ne
        refine ⟨old_canonical, ?_, ih rest_canonical⟩
        intro member member_mem
        rcases mem_addMember member_mem with rfl | later
        · exact Std.lt_of_le_of_ne (String.not_lt.mp key_not_less) (Ne.symm key_ne)
        · exact other_least member later

theorem canonical_ofNumeral? {numeral : Numeral} {value : Value}
    (read : ofNumeral? numeral = some value) : value.Canonical := by
  unfold ofNumeral? at read
  split at read
  · split at read
    · rename_i fitting
      cases read
      exact fitting
    · obtain ⟨number, _, rfl⟩ := Option.map_eq_some_iff.mp read
      trivial
  · obtain ⟨number, _, rfl⟩ := Option.map_eq_some_iff.mp read
    trivial

mutual

/-- Every value read from a tree is canonical. -/
theorem canonical_of_read? {depth : Nat} {tree : Tree} {value : Value}
    (read : read? depth tree = some value) : value.Canonical := by
  match tree with
  | .null => cases read; trivial
  | .bool _ => cases read; trivial
  | .number numeral => exact canonical_ofNumeral? read
  | .string content? =>
    obtain ⟨content, _, rfl⟩ := Option.map_eq_some_iff.mp read
    trivial
  | .array items =>
    match depth with
    | 0 => cases read
    | depth + 1 =>
      obtain ⟨values, values_read, rfl⟩ := Option.map_eq_some_iff.mp read
      exact canonicalItems_of_readItems? values_read
  | .object members =>
    match depth with
    | 0 => cases read
    | depth + 1 =>
      obtain ⟨values, values_read, rfl⟩ := Option.map_eq_some_iff.mp read
      exact canonicalMembers_of_readMembers? values_read

theorem canonicalItems_of_readItems? {depth : Nat} {items : List Tree} {values : List Value}
    (read : readItems? depth items = some values) : CanonicalItems values := by
  match items with
  | [] => cases read; trivial
  | item :: rest =>
    simp only [readItems?] at read
    split at read
    · cases read
    · rename_i value value_read
      obtain ⟨values, values_read, rfl⟩ := Option.map_eq_some_iff.mp read
      exact ⟨canonical_of_read? value_read, canonicalItems_of_readItems? values_read⟩

theorem canonicalMembers_of_readMembers? {depth : Nat} {members : List (Option String × Tree)}
    {values : List (String × Value)} (read : readMembers? depth members = some values) :
    CanonicalMembers values := by
  match members with
  | [] => cases read; trivial
  | (none, _) :: _ => cases read
  | (some key, item) :: rest =>
    simp only [readMembers?] at read
    split at read
    · cases read
    · rename_i value value_read
      obtain ⟨values, values_read, rfl⟩ := Option.map_eq_some_iff.mp read
      exact canonicalMembers_addMember (canonical_of_read? value_read)
        (canonicalMembers_of_readMembers? values_read)

end

/-! ## Writing -/

mutual

/-- The tree of a value. -/
def tree : Value → Tree
  | .null => .null
  | .bool value => .bool value
  | .integer value => .number (.ofInt value)
  | .double value => .number (.ofDouble value)
  | .string content => .text content
  | .array items => .array (itemTrees items)
  | .object members => .object (memberTrees members)

/-- The trees of items. -/
def itemTrees : List Value → List Tree
  | [] => []
  | item :: rest => item.tree :: itemTrees rest

/-- The trees of members. -/
def memberTrees : List (String × Value) → List (Option String × Tree)
  | [] => []
  | (key, value) :: rest => (some key, value.tree) :: memberTrees rest

end

end Value

end Json

end CodeWorkspace
