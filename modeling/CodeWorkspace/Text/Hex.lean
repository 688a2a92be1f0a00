/-!
# Hexadecimal notation

Natural numbers written with a fixed count of hexadecimal digits, in lower case, and read in
either case.  `Hex.ofDigits?_digits` says that a number that fits reads back.
-/

namespace CodeWorkspace

namespace Hex

/-- The digit for a number below sixteen. -/
def digit (value : Nat) : Char :=
  if value < 10 then Char.ofNat (48 + value) else Char.ofNat (87 + value)

/-- The value of a digit, in either case. -/
def value? (c : Char) : Option Nat :=
  if 48 ≤ c.toNat ∧ c.toNat < 58 then some (c.toNat - 48)
  else if 97 ≤ c.toNat ∧ c.toNat < 103 then some (c.toNat - 87)
  else if 65 ≤ c.toNat ∧ c.toNat < 71 then some (c.toNat - 55)
  else none

@[simp]
theorem value?_digit {value : Nat} (small : value < 16) : value? (digit value) = some value := by
  have all_small : ∀ value : Fin 16, value? (digit value.val) = some value.val := by decide
  exact all_small ⟨value, small⟩

/-- The last digits of a number, as many as asked for, the most significant first. -/
def digits : (count : Nat) → (number : Nat) → List Char
  | 0, _ => []
  | count + 1, number => digits count (number / 16) ++ [digit (number % 16)]

/-- The number that some digits denote, put behind the digits of another number. -/
def continueWith? (number : Nat) : List Char → Option Nat
  | [] => some number
  | c :: rest => (value? c).bind fun value => continueWith? (16 * number + value) rest

/-- The number that some digits denote. -/
def ofDigits? (text : List Char) : Option Nat := continueWith? 0 text

theorem continueWith?_append (number : Nat) (front back : List Char) :
    continueWith? number (front ++ back) =
      (continueWith? number front).bind fun value => continueWith? value back := by
  induction front generalizing number with
  | nil => rfl
  | cons c rest ih =>
    simp only [List.cons_append, continueWith?]
    cases value? c with
    | none => rfl
    | some value => exact ih (16 * number + value)

@[simp]
theorem length_digits (count number : Nat) : (digits count number).length = count := by
  induction count generalizing number with
  | zero => rfl
  | succ count ih => simp [digits, ih]

theorem ofDigits?_digits {count number : Nat} (fits : number < Nat.pow 16 count) :
    ofDigits? (digits count number) = some number := by
  induction count generalizing number with
  | zero =>
    have : number = 0 := by simpa using fits
    subst this
    rfl
  | succ count ih =>
    have smaller : number / 16 < Nat.pow 16 count := by
      rw [Nat.div_lt_iff_lt_mul (by omega)]
      exact fits
    have front := ih smaller
    rw [ofDigits?] at front ⊢
    rw [digits, continueWith?_append, front]
    have last := value?_digit (Nat.mod_lt number (show 0 < 16 by omega))
    simp only [Option.bind_some, continueWith?, last]
    congr 1
    omega

end Hex

end CodeWorkspace
