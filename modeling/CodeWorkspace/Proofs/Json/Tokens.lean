import CodeWorkspace.Json.Printer
import CodeWorkspace.Json.Token

/-!
# The tokens of a written tree

The compact form of a tree is cut into exactly the tokens that spell the tree: every string and
every number literal reads back as it was, and no token runs into what follows it, because behind
a tree there is nothing, a comma or a closing bracket.
-/

namespace CodeWorkspace

namespace Decimal

theorem head_digits_pos {number : Nat} (positive : 0 < number) :
    ∀ first ∈ (digits number).head?, 0 < first.val := by
  induction number using Nat.strongRecOn with
  | ind number ih =>
    rw [digits]
    split
    · intro first first_mem
      cases first_mem
      show 0 < number % 10
      omega
    · intro first first_mem
      rw [List.head?_append, Option.or_of_isSome (by simp [digits_ne_nil])] at first_mem
      exact ih (number / 10) (by omega) (by omega) first first_mem

/-- A number starts with a zero only if it is zero. -/
theorem tail_eq_nil_of_digits {number : Nat} {first : Digit}
    {more : List Digit} (spelled : digits number = first :: more)
    (zero : first.val = 0) : more = [] := by
  rcases Nat.eq_zero_or_pos number with rfl | positive
  · have alone : digits 0 = [0] := by rw [digits]; rfl
    rw [alone] at spelled
    exact (List.cons.inj spelled).2.symm
  · have := head_digits_pos positive first (by rw [spelled]; rfl)
    omega

end Decimal

namespace Json

/-! ## Strings -/

/-- The characters that a short escape stands for when they are written. -/
def shortlyEscaped : List Char := ['"', '\\'] ++ [8, 9, 10, 12, 13].map Char.ofNat

/-- The element of a string that a character is written as. -/
def writtenPiece (c : Char) : Piece :=
  if c.toNat < 32 ∧ c ∉ shortlyEscaped then .unit c.toNat else .char c

theorem scanString_unit {front rest : List Char} {after value total : Nat}
    (spelled : Hex.continueWith? value front = some total) (full : front.length = after + 1) :
    scanString (.unit after value) (front ++ rest) =
      (scanString .plain rest).map fun (pieces, rest) => (.unit total :: pieces, rest) := by
  induction front generalizing after value with
  | nil => cases full
  | cons c front ih =>
    obtain ⟨digit, digit_eq, spelled⟩ := Option.bind_eq_some_iff.mp spelled
    simp only [List.cons_append, scanString, digit_eq]
    cases after with
    | zero =>
      have last : front = [] := by simpa using full
      subst last
      cases spelled
      rfl
    | succ after => exact ih spelled (by simpa using full)

theorem escapedChar_of_not_short {c : Char} (long : c ∉ shortlyEscaped) :
    escapedChar c = if c.toNat < 32 then '\\' :: 'u' :: Hex.digits 4 c.toNat else [c] := by
  have differs {number : Nat} (short : Char.ofNat number ∈ shortlyEscaped) : c.toNat ≠ number := by
    rintro rfl
    rw [Char.ofNat_toNat] at short
    exact long short
  rw [escapedChar, if_neg (by rintro rfl; exact long (by decide)),
    if_neg (by rintro rfl; exact long (by decide)), if_neg (differs (by decide)),
    if_neg (differs (by decide)), if_neg (differs (by decide)), if_neg (differs (by decide)),
    if_neg (differs (by decide))]

theorem scanString_escapedChar (c : Char) (rest : List Char) :
    scanString .plain (escapedChar c ++ rest) =
      (scanString .plain rest).map fun (pieces, rest) => (writtenPiece c :: pieces, rest) := by
  by_cases short : c ∈ shortlyEscaped
  · simp only [shortlyEscaped, List.map_cons, List.map_nil, List.cons_append, List.nil_append,
      List.mem_cons, List.not_mem_nil, or_false] at short
    rcases short with rfl | rfl | rfl | rfl | rfl | rfl | rfl <;> rfl
  · rw [escapedChar_of_not_short short]
    split
    · rename_i control
      have fits : c.toNat < Nat.pow 16 4 := Nat.lt_trans control (by decide)
      rw [writtenPiece, if_pos ⟨control, short⟩, List.cons_append, List.cons_append, scanString,
        if_neg (by decide), if_pos rfl, scanString, if_pos rfl]
      exact scanString_unit (Hex.ofDigits?_digits fits) (Hex.length_digits 4 _)
    · rename_i no_control
      rw [writtenPiece, if_neg (fun both => no_control both.1), List.singleton_append, scanString,
        if_neg (by rintro rfl; exact short (by decide)),
        if_neg (by rintro rfl; exact short (by decide)), if_neg no_control]

theorem scanString_escaped (content : List Char) (rest : List Char) :
    scanString .plain (content.flatMap escapedChar ++ '"' :: rest) =
      some (content.map writtenPiece, rest) := by
  induction content with
  | nil => rfl
  | cons c content ih =>
    rw [List.flatMap_cons, List.append_assoc, scanString_escapedChar, ih]
    rfl

theorem joinPieces_unit {value : Nat} (whole : value < 0xD800) (pieces : List Piece) :
    joinPieces (.unit value :: pieces) = (joinPieces pieces).map (Char.ofNat value :: ·) := by
  have not_high : isHighHalf value = false := by
    simp only [isHighHalf, Bool.and_eq_false_iff, decide_eq_false_iff_not]
    omega
  have not_low : isLowHalf value = false := by
    simp only [isLowHalf, Bool.and_eq_false_iff, decide_eq_false_iff_not]
    omega
  cases pieces with
  | nil => simp [joinPieces, not_high, not_low]
  | cons piece rest =>
    cases piece with
    | char c => simp [joinPieces, not_high, not_low]
    | unit low => simp [joinPieces, not_high, not_low]

theorem joinPieces_written (content : List Char) :
    joinPieces (content.map writtenPiece) = some content := by
  induction content with
  | nil => rfl
  | cons c content ih =>
    rw [List.map_cons, writtenPiece]
    split
    · rename_i control
      rw [joinPieces_unit (Nat.lt_trans control.1 (by decide)), ih, Char.ofNat_toNat]
      rfl
    · rw [joinPieces, ih]
      rfl

/-! ## Numbers -/

/-- A text that does not go on with a digit. -/
def NoDigit (text : List Char) : Prop := ∀ c ∈ text.head?, Decimal.Digit.ofChar? c = none

/-- What may stand behind a tree: nothing, a comma or a closing bracket. -/
def Behind (text : List Char) : Prop := ∀ c ∈ text.head?, c = ',' ∨ c = ']' ∨ c = '}'

theorem Behind.noDigit {text : List Char} (behind : Behind text) : NoDigit text := by
  intro c c_mem
  rcases behind c c_mem with rfl | rfl | rfl <;> rfl

theorem scanDigits_written (digits : List Decimal.Digit) {rest : List Char}
    (ends : NoDigit rest) :
    scanDigits (digits.map Decimal.Digit.char ++ rest) = (digits, rest) := by
  induction digits with
  | nil =>
    cases rest with
    | nil => rfl
    | cons c rest => rw [List.map_nil, List.nil_append, scanDigits, ends c rfl]
  | cons digit digits ih =>
    rw [List.map_cons, List.cons_append, scanDigits, Decimal.Digit.ofChar?_char, ih]

/-- The characters of the digits behind the point, with the point. -/
def fractionText : List Decimal.Digit → List Char
  | [] => []
  | digits => '.' :: digits.map Decimal.Digit.char

/-- The characters of an exponent. -/
def exponentText : Option Int → List Char
  | none => []
  | some power => 'e' :: (if power < 0 then '-' else '+') :: Decimal.text power.natAbs

theorem Numeral.text_eq (numeral : Numeral) :
    numeral.text = (if numeral.negative then ['-'] else []) ++ (Decimal.text numeral.whole ++
      (fractionText numeral.fraction ++ exponentText numeral.exponent?)) := by
  obtain ⟨negative, whole, fraction, exponent?⟩ := numeral
  cases fraction <;> cases exponent? <;>
    simp [Numeral.text, fractionText, exponentText]

theorem scanFraction_written (fraction : List Decimal.Digit) {rest : List Char}
    (ends : NoDigit rest) (no_point : rest.head? ≠ some '.') :
    scanFraction (fractionText fraction ++ rest) = some (fraction, rest) := by
  cases fraction with
  | nil =>
    rw [fractionText, List.nil_append]
    unfold scanFraction
    split
    · exact absurd rfl no_point
    · rfl
  | cons digit digits =>
    have scanned := scanDigits_written (digit :: digits) ends
    simp only [fractionText, List.cons_append, scanFraction, scanned]

theorem scanPower_written (negative : Bool) (power : Nat) {rest : List Char}
    (ends : NoDigit rest) :
    scanPower negative (Decimal.text power ++ rest) =
      some (some (if negative then -(power : Int) else power), rest) := by
  rw [scanPower, Decimal.text, scanDigits_written _ ends]
  obtain ⟨first, more, digits_eq⟩ := List.exists_cons_of_ne_nil (Decimal.digits_ne_nil power)
  have value_eq := Decimal.ofDigits_digits power
  rw [digits_eq] at value_eq ⊢
  simp only [value_eq]

theorem scanExponent_written (exponent? : Option Int) {rest : List Char} (behind : Behind rest) :
    scanExponent (exponentText exponent? ++ rest) = some (exponent?, rest) := by
  cases exponent? with
  | none =>
    rw [exponentText, List.nil_append]
    unfold scanExponent
    split
    · exact absurd (behind 'e' rfl) (by decide)
    · exact absurd (behind 'E' rfl) (by decide)
    · rfl
  | some power =>
    simp only [exponentText, List.cons_append, scanExponent]
    split
    · rename_i negative
      simp only [scanSignedPower, scanPower_written _ _ behind.noDigit]
      rw [if_true, Int.ofNat_natAbs_of_nonpos (Int.le_of_lt negative), Int.neg_neg]
    · rename_i not_negative
      simp only [scanSignedPower, scanPower_written _ _ behind.noDigit]
      rw [if_neg Bool.false_ne_true, Int.natAbs_of_nonneg (Int.not_lt.mp not_negative)]

/-- The digits of a literal, and all that follows them, read back. -/
theorem scanNumeral_written (numeral : Numeral) {rest : List Char} (behind : Behind rest) :
    scanNumeral numeral.negative (Decimal.text numeral.whole ++
      (fractionText numeral.fraction ++ (exponentText numeral.exponent? ++ rest))) =
        some (numeral, rest) := by
  obtain ⟨negative, whole, fraction, exponent?⟩ := numeral
  have exponent_ends : NoDigit (exponentText exponent? ++ rest) ∧
      (exponentText exponent? ++ rest).head? ≠ some '.' := by
    cases exponent? with
    | none =>
      refine ⟨behind.noDigit, fun point => ?_⟩
      exact absurd (behind '.' point) (by decide)
    | some power => exact ⟨fun c c_mem => by cases c_mem; rfl, by simp [exponentText]⟩
  have fraction_ends : NoDigit (fractionText fraction ++ (exponentText exponent? ++ rest)) := by
    cases fraction with
    | nil => exact exponent_ends.1
    | cons digit digits => exact fun c c_mem => by cases c_mem; rfl
  obtain ⟨first, more, digits_eq⟩ := List.exists_cons_of_ne_nil (Decimal.digits_ne_nil whole)
  have value_eq := Decimal.ofDigits_digits whole
  have alone : ¬ (first.val = 0 && !more.isEmpty) = true := by
    simp only [Bool.and_eq_true, decide_eq_true_eq, Bool.not_eq_true', not_and, Bool.not_eq_false]
    intro zero
    rw [Decimal.tail_eq_nil_of_digits digits_eq zero]
    rfl
  rw [digits_eq] at value_eq
  rw [scanNumeral, Decimal.text, digits_eq, scanDigits_written _ fraction_ends]
  simp only [if_neg alone, scanFraction_written fraction exponent_ends.1 exponent_ends.2,
    scanExponent_written exponent? behind, value_eq]

/-! ## Tokens -/

theorem tokenize_of_scan {c : Char} {rest after : List Char} {token : Token}
    (solid : isSpace c = false) (scanned : scanToken c rest = some (token, after)) :
    tokenize (c :: rest) = (tokenize after).map (token :: ·) := by
  rw [tokenize, if_neg (by rw [solid]; exact Bool.false_ne_true)]
  split
  · rename_i failed
    rw [failed] at scanned
    cases scanned
  · rename_i found
    rw [found] at scanned
    cases scanned
    rfl

theorem tokenize_string (content? : Option String) (rest : List Char) :
    tokenize (quoted content? ++ rest) = (tokenize rest).map (.string content? :: ·) := by
  have scanned : ∃ pieces, pieceText pieces = content? ∧
      scanString .plain ((quoted content?).tail ++ rest) = some (pieces, rest) := by
    cases content? with
    | none =>
      refine ⟨[.unit 0xD800], rfl, ?_⟩
      rfl
    | some content =>
      refine ⟨content.toList.map writtenPiece, ?_, ?_⟩
      · rw [pieceText, joinPieces_written, Option.map_some, String.ofList_toList]
      · simp only [quoted, List.cons_append, List.tail_cons, List.append_assoc, List.nil_append]
        exact scanString_escaped content.toList rest
  obtain ⟨pieces, pieces_eq, scanned⟩ := scanned
  have opened : quoted content? ++ rest = '"' :: ((quoted content?).tail ++ rest) := rfl
  rw [opened]
  apply tokenize_of_scan rfl
  simp [scanToken, scanned, pieces_eq]

theorem scanToken_digit (digit : Decimal.Digit) (rest : List Char) :
    scanToken digit.char rest =
      (scanNumeral false (digit.char :: rest)).map fun (numeral, rest) =>
        (.number numeral, rest) := by
  have plain : ∀ digit : Decimal.Digit, digit.char ∉
      ['{', '}', '[', ']', ':', ',', '"', 'n', 't', 'f', '-'] := by decide
  have not_mem := plain digit
  simp only [List.mem_cons, List.not_mem_nil, or_false, not_or] at not_mem
  simp only [scanToken, not_mem, if_false]

theorem tokenize_numeral (numeral : Numeral) {rest : List Char} (behind : Behind rest) :
    tokenize (numeral.text ++ rest) = (tokenize rest).map (.number numeral :: ·) := by
  have scanned := scanNumeral_written numeral behind
  rw [Numeral.text_eq, List.append_assoc, List.append_assoc, List.append_assoc]
  cases sign : numeral.negative with
  | true =>
    rw [sign] at scanned
    apply tokenize_of_scan rfl
    simp [scanToken, scanned]
  | false =>
    rw [sign] at scanned
    obtain ⟨first, more, digits_eq⟩ :=
      List.exists_cons_of_ne_nil (Decimal.digits_ne_nil numeral.whole)
    have solid : ∀ digit : Decimal.Digit, isSpace digit.char = false := by decide
    rw [Decimal.text, digits_eq, List.map_cons, List.cons_append] at scanned ⊢
    apply tokenize_of_scan (solid first)
    rw [scanToken_digit, scanned]
    rfl

theorem behind_nil : Behind [] := fun _ c_mem => by cases c_mem

theorem behind_comma (rest : List Char) : Behind (',' :: rest) :=
  fun _ c_mem => Or.inl (Option.some.inj c_mem).symm

theorem behind_closeArray (rest : List Char) : Behind (']' :: rest) :=
  fun _ c_mem => Or.inr (Or.inl (Option.some.inj c_mem).symm)

theorem behind_closeObject (rest : List Char) : Behind ('}' :: rest) :=
  fun _ c_mem => Or.inr (Or.inr (Option.some.inj c_mem).symm)

/-! ## Trees -/

namespace Tree

mutual

/-- The tokens that spell a tree. -/
def tokens : Tree → List Token
  | .null => [.null]
  | .bool value => [.bool value]
  | .number numeral => [.number numeral]
  | .string content? => [.string content?]
  | .array items => .openArray :: itemTokens items ++ [.closeArray]
  | .object members => .openObject :: memberTokens members ++ [.closeObject]

/-- The tokens that spell items, with commas between them. -/
def itemTokens : List Tree → List Token
  | [] => []
  | [item] => item.tokens
  | item :: next :: rest => item.tokens ++ .comma :: itemTokens (next :: rest)

/-- The tokens that spell members, with commas between them. -/
def memberTokens : List (Option String × Tree) → List Token
  | [] => []
  | [(key, value)] => .string key :: .colon :: value.tokens
  | (key, value) :: next :: rest =>
    .string key :: .colon :: value.tokens ++ .comma :: memberTokens (next :: rest)

end

theorem tokenize_symbol {c : Char} {token : Token} (solid : isSpace c = false)
    (scanned : ∀ rest, scanToken c rest = some (token, rest)) (rest : List Char) :
    tokenize (c :: rest) = (tokenize rest).map (token :: ·) :=
  tokenize_of_scan solid (scanned rest)

mutual

/-- The compact form of a tree is cut into the tokens that spell it. -/
theorem tokenize_compact (tree : Tree) {rest : List Char} (behind : Behind rest) :
    tokenize (tree.compactChars ++ rest) = (tokenize rest).map (tree.tokens ++ ·) := by
  match tree with
  | .null => exact tokenize_of_scan rfl rfl
  | .bool value => cases value <;> exact tokenize_of_scan rfl rfl
  | .number numeral => exact tokenize_numeral numeral behind
  | .string content? => exact tokenize_string content? rest
  | .array items =>
    simp only [compactChars, tokens, List.cons_append, List.append_assoc, List.nil_append]
    rw [tokenize_symbol rfl (fun _ => rfl), tokenize_items items rest, Option.map_map]
    rfl
  | .object members =>
    simp only [compactChars, tokens, List.cons_append, List.append_assoc, List.nil_append]
    rw [tokenize_symbol rfl (fun _ => rfl), tokenize_members members rest, Option.map_map]
    rfl

theorem tokenize_items (items : List Tree) (rest : List Char) :
    tokenize (compactItems items ++ ']' :: rest) =
      (tokenize rest).map fun after => itemTokens items ++ .closeArray :: after := by
  have closed : tokenize (']' :: rest) = (tokenize rest).map (.closeArray :: ·) :=
    tokenize_symbol rfl (fun _ => rfl) rest
  match items with
  | [] => exact closed
  | [item] =>
    rw [compactItems, tokenize_compact item (behind_closeArray rest), closed, Option.map_map]
    rfl
  | item :: next :: more =>
    simp only [compactItems, itemTokens, List.append_assoc, List.cons_append]
    rw [tokenize_compact item (behind_comma _), tokenize_symbol rfl (fun _ => rfl),
      tokenize_items (next :: more) rest, Option.map_map, Option.map_map]
    rfl

theorem tokenize_members (members : List (Option String × Tree)) (rest : List Char) :
    tokenize (compactMembers members ++ '}' :: rest) =
      (tokenize rest).map fun after => memberTokens members ++ .closeObject :: after := by
  have closed : tokenize ('}' :: rest) = (tokenize rest).map (.closeObject :: ·) :=
    tokenize_symbol rfl (fun _ => rfl) rest
  have keyed (key : Option String) (text : List Char) :
      tokenize (quoted key ++ ':' :: text) =
        (tokenize text).map fun after => .string key :: .colon :: after := by
    rw [tokenize_string, tokenize_symbol rfl (fun _ => rfl), Option.map_map]
    rfl
  match members with
  | [] => exact closed
  | [(key, value)] =>
    simp only [compactMembers, List.append_assoc, List.cons_append]
    rw [keyed, tokenize_compact value (behind_closeObject rest), closed, Option.map_map,
      Option.map_map]
    rfl
  | (key, value) :: next :: more =>
    simp only [compactMembers, memberTokens, List.append_assoc, List.cons_append]
    rw [keyed, tokenize_compact value (behind_comma _), tokenize_symbol rfl (fun _ => rfl),
      tokenize_members (next :: more) rest, Option.map_map, Option.map_map, Option.map_map]
    rfl

end

end Tree

end Json

end CodeWorkspace
