/-!
# Decimal digits

Natural numbers in decimal notation.  `Decimal.ofDigits_digits` says that the digits of a number
read back as the number, and `Decimal.digits_ne_nil` that there is always at least one.
-/

namespace CodeWorkspace

namespace Decimal

/-- One decimal digit. -/
abbrev Digit := Fin 10

/-- The character that writes a digit. -/
def Digit.char (digit : Digit) : Char := Char.ofNat (48 + digit.val)

/-- The digit that a character writes. -/
def Digit.ofChar? (c : Char) : Option Digit :=
  if written : 48 ≤ c.toNat ∧ c.toNat < 58 then some ⟨c.toNat - 48, by omega⟩ else none

@[simp]
theorem Digit.ofChar?_char (digit : Digit) : Digit.ofChar? digit.char = some digit := by
  revert digit
  decide

/-- The digits of a number, the most significant first, without leading zeros. -/
def digits (number : Nat) : List Digit :=
  if _small : number < 10 then [⟨number % 10, Nat.mod_lt _ (by omega)⟩]
  else digits (number / 10) ++ [⟨number % 10, Nat.mod_lt _ (by omega)⟩]
termination_by number

/-- The number that a list of digits denotes, put behind the digits of another number. -/
def continueWith (number : Nat) (digits : List Digit) : Nat :=
  digits.foldl (fun value digit => 10 * value + digit.val) number

/-- The number that a list of digits denotes. -/
def ofDigits (digits : List Digit) : Nat := continueWith 0 digits

theorem digits_ne_nil (number : Nat) : digits number ≠ [] := by
  rw [digits]
  split <;> simp

@[simp]
theorem ofDigits_digits (number : Nat) : ofDigits (digits number) = number := by
  induction number using Nat.strongRecOn with
  | ind number ih =>
    rw [digits]
    split
    · simp only [ofDigits, continueWith, List.foldl_cons, List.foldl_nil]
      omega
    · have shorter := ih (number / 10) (by omega)
      simp only [ofDigits, continueWith] at shorter
      simp only [ofDigits, continueWith, List.foldl_append, List.foldl_cons, List.foldl_nil,
        shorter]
      omega

/-- A power of ten. -/
def powerOfTen (power : Nat) : Nat := Nat.pow 10 power

/-- The characters of a number in decimal notation. -/
def text (number : Nat) : List Char := (digits number).map Digit.char

end Decimal

end CodeWorkspace
