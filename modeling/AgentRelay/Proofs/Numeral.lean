import AgentRelay.Number.Numeral

set_option autoImplicit false

/-!
# The numerals of a word

Every word has a numeral that is read as the word (`word?_decimal`), and the digits of a larger number, with any zeros
in front of them, are not read as a word at all (`word?_of_large`).
-/

namespace AgentRelay.Numeral

/-- The numeral of a number. -/
def decimal (n : Nat) : String := String.ofList (Nat.toDigits 10 n)

theorem value_eq_ofDigitChars (digits : List Char) : value digits = Nat.ofDigitChars 10 digits 0 := by
  simp only [value, Nat.ofDigitChars, Nat.mul_comm]

/-- Digits have no sign. -/
theorem unsigned_of_digits {digits : List Char} (h : digits.all Char.isDigit = true) : unsigned digits = digits := by
  unfold unsigned
  split
  · cases h
  · rfl

/-- The numeral of a word is read as its number. -/
theorem word?_decimal {n : Nat} (h : n < wordLimit) : word? (decimal n) = some n := by
  have hdigits : (Nat.toDigits 10 n).all Char.isDigit = true :=
    List.all_eq_true.2 fun c hc => Nat.isDigit_of_mem_toDigits (by decide) (by decide) hc
  have hvalue : value (Nat.toDigits 10 n) = n := by
    rw [value_eq_ofDigitChars, Nat.ofDigitChars_toDigits (by decide) (by decide)]
  rw [word?, decimal, String.toList_ofList, unsigned_of_digits hdigits]
  simp only [hvalue]
  exact if_pos ⟨Nat.toDigits_ne_nil, hdigits, h⟩

/-- A numeral of a larger number is no numeral of a word. -/
theorem word?_of_large {text : String} (hdigits : text.toList.all Char.isDigit = true)
    (hlarge : wordLimit ≤ value text.toList) : word? text = none := by
  rw [word?, unsigned_of_digits hdigits]
  exact if_neg fun h => absurd h.2.2 (Nat.not_lt.2 hlarge)

end AgentRelay.Numeral
