import CodeWorkspace.Json.Tree
import CodeWorkspace.Text.Hex

/-!
# JSON tokens

A text is cut into tokens from left to right.  Blanks between tokens are a space, a tab, a line
feed and a carriage return.  A string may hold neither a raw control character nor an unknown
escape; an escape `\u` names one UTF-16 unit, and two units that form a surrogate pair name one
character.
-/

namespace CodeWorkspace

namespace Json

/-- The pieces that a JSON text is made of. -/
inductive Token where
  | openObject
  | closeObject
  | openArray
  | closeArray
  | colon
  | comma
  | null
  | bool (value : Bool)
  | number (numeral : Numeral)
  | string (content? : Option String)
  deriving DecidableEq, Inhabited

/-- Whether a character may stand between tokens. -/
def isSpace (c : Char) : Bool := c = ' ' || c = '\t' || c = '\n' || c = '\r'

/-! ## Strings -/

/-- One element of a string: a character, or a UTF-16 unit named by an escape. -/
inductive Piece where
  | char (c : Char)
  | unit (value : Nat)
  deriving DecidableEq

/-- The character that a short escape names. -/
def shortEscape? (c : Char) : Option Char :=
  if c = '"' then some '"'
  else if c = '\\' then some '\\'
  else if c = '/' then some '/'
  else if c = 'b' then some (Char.ofNat 8)
  else if c = 'f' then some (Char.ofNat 12)
  else if c = 'n' then some '\n'
  else if c = 'r' then some '\r'
  else if c = 't' then some '\t'
  else none

/-- Where the reader stands inside a string. -/
inductive StringMode where
  /-- Between two elements. -/
  | plain
  /-- Behind a backslash. -/
  | escape
  /-- Inside a `\u` escape: the digits to come after the next, and the value so far. -/
  | unit (after value : Nat)

/-- Reads the rest of a string, up to and including its closing quote. -/
def scanString : StringMode → List Char → Option (List Piece × List Char)
  | _, [] => none
  | .plain, c :: rest =>
    if c = '"' then some ([], rest)
    else if c = '\\' then scanString .escape rest
    else if c.toNat < 32 then none
    else (scanString .plain rest).map fun (pieces, rest) => (.char c :: pieces, rest)
  | .escape, c :: rest =>
    if c = 'u' then scanString (.unit 3 0) rest
    else
      match shortEscape? c with
      | none => none
      | some named =>
        (scanString .plain rest).map fun (pieces, rest) => (.char named :: pieces, rest)
  | .unit after value, c :: rest =>
    match Hex.value? c with
    | none => none
    | some digit =>
      match after with
      | 0 =>
        (scanString .plain rest).map fun (pieces, rest) =>
          (.unit (16 * value + digit) :: pieces, rest)
      | after + 1 => scanString (.unit after (16 * value + digit)) rest

/-- Whether a UTF-16 unit is the first half of a surrogate pair. -/
def isHighHalf (unit : Nat) : Bool := 0xD800 ≤ unit && unit < 0xDC00

/-- Whether a UTF-16 unit is the second half of a surrogate pair. -/
def isLowHalf (unit : Nat) : Bool := 0xDC00 ≤ unit && unit < 0xE000

/-- The characters that the elements of a string name, if no half of a pair stands alone. -/
def joinPieces : List Piece → Option (List Char)
  | [] => some []
  | .char c :: rest => (joinPieces rest).map (c :: ·)
  | .unit high :: .unit low :: rest =>
    if isHighHalf high && isLowHalf low then
      (joinPieces rest).map
        (Char.ofNat (0x10000 + (high - 0xD800) * 0x400 + (low - 0xDC00)) :: ·)
    else if isHighHalf high || isLowHalf high then none
    else (joinPieces (.unit low :: rest)).map (Char.ofNat high :: ·)
  | .unit value :: rest =>
    if isHighHalf value || isLowHalf value then none
    else (joinPieces rest).map (Char.ofNat value :: ·)

/-- The content of a string, if it is a text. -/
def pieceText (pieces : List Piece) : Option String := (joinPieces pieces).map String.ofList

/-! ## Numbers -/

/-- The digits at the front of a text and what follows them. -/
def scanDigits : List Char → List Decimal.Digit × List Char
  | [] => ([], [])
  | c :: rest =>
    match Decimal.Digit.ofChar? c with
    | none => ([], c :: rest)
    | some digit =>
      let (digits, rest) := scanDigits rest
      (digit :: digits, rest)

/-- Reads a point and the digits behind it, if there is a point. -/
def scanFraction : List Char → Option (List Decimal.Digit × List Char)
  | '.' :: rest =>
    match scanDigits rest with
    | ([], _) => none
    | (digits, rest) => some (digits, rest)
  | rest => some ([], rest)

/-- Reads the digits of an exponent. -/
def scanPower (negative : Bool) (text : List Char) : Option (Option Int × List Char) :=
  match scanDigits text with
  | ([], _) => none
  | (digits, rest) =>
    let power : Int := Decimal.ofDigits digits
    some (some (if negative then -power else power), rest)

/-- Reads the sign and the digits of an exponent. -/
def scanSignedPower : List Char → Option (Option Int × List Char)
  | '+' :: rest => scanPower false rest
  | '-' :: rest => scanPower true rest
  | rest => scanPower false rest

/-- Reads an exponent, if there is one. -/
def scanExponent : List Char → Option (Option Int × List Char)
  | 'e' :: rest => scanSignedPower rest
  | 'E' :: rest => scanSignedPower rest
  | rest => some (none, rest)

/-- Reads a number literal behind its sign.  Its first digit is a zero only if it stands alone. -/
def scanNumeral (negative : Bool) (text : List Char) : Option (Numeral × List Char) :=
  match scanDigits text with
  | ([], _) => none
  | (first :: more, rest) =>
    if first.val = 0 && !more.isEmpty then none
    else
      match scanFraction rest with
      | none => none
      | some (fraction, rest) =>
        match scanExponent rest with
        | none => none
        | some (exponent?, rest) =>
          some ({ negative, whole := Decimal.ofDigits (first :: more), fraction, exponent? }, rest)

/-! ## Tokens -/

/-- The rest of a text behind an expected word. -/
def expect? : List Char → List Char → Option (List Char)
  | [], rest => some rest
  | _ :: _, [] => none
  | wanted :: word, c :: rest => if c = wanted then expect? word rest else none

/-- The token that starts with a given character, and what follows it. -/
def scanToken (c : Char) (rest : List Char) : Option (Token × List Char) :=
  if c = '{' then some (.openObject, rest)
  else if c = '}' then some (.closeObject, rest)
  else if c = '[' then some (.openArray, rest)
  else if c = ']' then some (.closeArray, rest)
  else if c = ':' then some (.colon, rest)
  else if c = ',' then some (.comma, rest)
  else if c = '"' then
    (scanString .plain rest).map fun (pieces, rest) => (.string (pieceText pieces), rest)
  else if c = 'n' then (expect? ['u', 'l', 'l'] rest).map fun rest => (.null, rest)
  else if c = 't' then (expect? ['r', 'u', 'e'] rest).map fun rest => (.bool true, rest)
  else if c = 'f' then (expect? ['a', 'l', 's', 'e'] rest).map fun rest => (.bool false, rest)
  else if c = '-' then (scanNumeral true rest).map fun (numeral, rest) => (.number numeral, rest)
  else (scanNumeral false (c :: rest)).map fun (numeral, rest) => (.number numeral, rest)

/-! ## Progress -/

theorem length_scanString {mode : StringMode} {text : List Char} {pieces : List Piece}
    {rest : List Char} (scanned : scanString mode text = some (pieces, rest)) :
    rest.length < text.length := by
  fun_induction scanString mode text generalizing pieces rest <;>
    simp_all <;> grind

theorem length_scanDigits (text : List Char) :
    (scanDigits text).1.length + (scanDigits text).2.length = text.length := by
  induction text with
  | nil => rfl
  | cons c rest ih =>
    simp only [scanDigits]
    split
    · simp
    · simp only [List.length_cons]
      omega

theorem length_scanDigits_le {text : List Char} {digits : List Decimal.Digit} {rest : List Char}
    (scanned : scanDigits text = (digits, rest)) : rest.length ≤ text.length := by
  have lengths := length_scanDigits text
  rw [scanned] at lengths
  simp only at lengths
  omega

theorem length_scanFraction {text : List Char} {digits : List Decimal.Digit} {rest : List Char}
    (scanned : scanFraction text = some (digits, rest)) : rest.length ≤ text.length := by
  unfold scanFraction at scanned
  split at scanned
  · split at scanned
    · cases scanned
    · rename_i digits_eq
      have shorter := length_scanDigits_le digits_eq
      cases scanned
      exact Nat.le_succ_of_le shorter
  · cases scanned
    exact Nat.le_refl _

theorem length_scanPower {negative : Bool} {text : List Char} {power? : Option Int}
    {rest : List Char} (scanned : scanPower negative text = some (power?, rest)) :
    rest.length ≤ text.length := by
  unfold scanPower at scanned
  split at scanned
  · cases scanned
  · rename_i digits_eq
    have shorter := length_scanDigits_le digits_eq
    cases scanned
    exact shorter

theorem length_scanSignedPower {text : List Char} {power? : Option Int} {rest : List Char}
    (scanned : scanSignedPower text = some (power?, rest)) : rest.length ≤ text.length := by
  unfold scanSignedPower at scanned
  split at scanned
  · exact Nat.le_succ_of_le (length_scanPower scanned)
  · exact Nat.le_succ_of_le (length_scanPower scanned)
  · exact length_scanPower scanned

theorem length_scanExponent {text : List Char} {power? : Option Int} {rest : List Char}
    (scanned : scanExponent text = some (power?, rest)) : rest.length ≤ text.length := by
  unfold scanExponent at scanned
  split at scanned
  · exact Nat.le_succ_of_le (length_scanSignedPower scanned)
  · exact Nat.le_succ_of_le (length_scanSignedPower scanned)
  · cases scanned
    exact Nat.le_refl _

theorem length_scanNumeral {negative : Bool} {text : List Char} {numeral : Numeral}
    {rest : List Char} (scanned : scanNumeral negative text = some (numeral, rest)) :
    rest.length < text.length := by
  have lengths := length_scanDigits text
  rw [scanNumeral] at scanned
  split at scanned
  · cases scanned
  · rename_i first more after digits_eq
    rw [digits_eq] at lengths
    split at scanned
    · cases scanned
    · split at scanned
      · cases scanned
      · rename_i fraction behind fraction_eq
        have := length_scanFraction fraction_eq
        split at scanned
        · cases scanned
        · rename_i power? last power_eq
          have := length_scanExponent power_eq
          simp only [Option.some.injEq, Prod.mk.injEq] at scanned
          rw [← scanned.2]
          simp only [List.length_cons] at lengths
          omega

theorem length_expect? {word text rest : List Char} (expected : expect? word text = some rest) :
    rest.length ≤ text.length := by
  fun_induction expect? word text with
  | case1 text =>
    cases expected
    exact Nat.le_refl _
  | case2 => cases expected
  | case3 _ _ _ ih => exact Nat.le_succ_of_le (ih expected)
  | case4 => cases expected

theorem length_scanToken {c : Char} {text : List Char} {token : Token} {rest : List Char}
    (scanned : scanToken c text = some (token, rest)) : rest.length ≤ text.length := by
  unfold scanToken at scanned
  by_cases symbol : c = '{' ∨ c = '}' ∨ c = '[' ∨ c = ']' ∨ c = ':' ∨ c = ','
  · rcases symbol with rfl | rfl | rfl | rfl | rfl | rfl <;> cases scanned <;> exact Nat.le_refl _
  simp only [not_or] at symbol
  obtain ⟨not1, not2, not3, not4, not5, not6⟩ := symbol
  simp only [if_neg not1, if_neg not2, if_neg not3, if_neg not4, if_neg not5, if_neg not6,
    apply_ite (· = some (token, rest)), Option.map_eq_some_iff, Prod.exists, Prod.mk.injEq]
    at scanned
  split at scanned
  · obtain ⟨_, _, string_eq, _, rfl⟩ := scanned
    exact Nat.le_of_lt (length_scanString string_eq)
  split at scanned
  · obtain ⟨_, word_eq, _, rfl⟩ := scanned
    exact length_expect? word_eq
  split at scanned
  · obtain ⟨_, word_eq, _, rfl⟩ := scanned
    exact length_expect? word_eq
  split at scanned
  · obtain ⟨_, word_eq, _, rfl⟩ := scanned
    exact length_expect? word_eq
  split at scanned
  · obtain ⟨_, _, numeral_eq, _, rfl⟩ := scanned
    exact Nat.le_of_lt (length_scanNumeral numeral_eq)
  · obtain ⟨_, _, numeral_eq, _, rfl⟩ := scanned
    exact Nat.le_of_lt_succ (length_scanNumeral numeral_eq)

/-- Cuts a text into tokens. -/
def tokenize : List Char → Option (List Token)
  | [] => some []
  | c :: rest =>
    if isSpace c then tokenize rest
    else
      match _scanned : scanToken c rest with
      | none => none
      | some (token, rest) => (tokenize rest).map (token :: ·)
termination_by text => text.length
decreasing_by
  · simp
  · have := length_scanToken _scanned
    simp only [List.length_cons]
    omega

end Json

end CodeWorkspace
