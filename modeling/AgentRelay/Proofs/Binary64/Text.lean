import AgentRelay.Proofs.Binary64.Shortest
import AgentRelay.Toml.Scalar

set_option autoImplicit false

/-!
# The text of a value leads back to it

The text of a finite value is its sign and a decimal in positional notation, and the decimal is read as the value again
(`text_finite`).  So a float of a document has a text that, as a literal of the document, would be the same float
(`Toml.floatOf_text`).
-/

namespace AgentRelay

namespace Binary64

/-! ## Positional notation -/

/-- The digits before and after a point.  Without digits after it there is no point. -/
def pointed (whole fraction : List Char) : List Char := if fraction = [] then whole else whole ++ '.' :: fraction

/-- The digits before and after a point denote a number, and a digit stands before the point. -/
structure Denotes (whole fraction : List Char) (x : ℚ) : Prop where
  nonempty : whole ≠ []
  digits : (whole ++ fraction).all Char.isDigit = true
  value : Nat.ofDigitChars 10 (whole ++ fraction) 0 * 10 ^ (-(fraction.length : ℤ)) = x

/-- A decimal is written as digits that denote it. -/
theorem positional_denotes (n : ℕ) (k : ℤ) :
    ∃ whole fraction, positional n k = pointed whole fraction ∧ Denotes whole fraction (n * 10 ^ k) := by
  have hdigits : (Nat.toDigits 10 n).all Char.isDigit = true :=
    List.all_eq_true.2 fun c hc => Nat.isDigit_of_mem_toDigits (by decide) (by decide) hc
  have hnonempty : Nat.toDigits 10 n ≠ [] := Nat.toDigits_ne_nil
  have hvalue : Nat.ofDigitChars 10 (Nat.toDigits 10 n) 0 = n := Nat.ofDigitChars_ten_toDigits
  have hzeros (count : ℕ) : (List.replicate count '0').all Char.isDigit = true := by
    rw [List.all_replicate]
    exact ite_self _
  rw [positional]
  generalize Nat.toDigits 10 n = digits at hdigits hnonempty hvalue
  split_ifs with hwhole
  · -- a whole number
    refine ⟨digits ++ List.replicate k.toNat '0', [], rfl, by simp [hnonempty], ?_, ?_⟩
    · rw [List.append_nil, List.all_append, hdigits, hzeros, Bool.and_self]
    · rw [List.append_nil, Nat.ofDigitChars_append, hvalue, Nat.ofDigitChars_replicate_zero]
      push_cast
      rw [zpow_toNat hwhole, List.length_nil, Nat.cast_zero, neg_zero, zpow_zero, mul_one, mul_comm]
  · have hplaces : k = -((-k).toNat : ℤ) := by omega
    have hpositive : 0 < (-k).toNat := by omega
    generalize (-k).toNat = places at hplaces hpositive
    subst hplaces
    dsimp only
    split_ifs with hshort
    · -- the point stands between two digits
      have hlength : (digits.drop (digits.length - places)).length = places := by
        rw [List.length_drop]
        omega
      refine ⟨digits.take (digits.length - places), digits.drop (digits.length - places), ?_, ?_, ?_, ?_⟩
      · rw [pointed, if_neg (List.ne_nil_of_length_pos (by omega)), List.append_assoc, List.singleton_append]
      · exact List.ne_nil_of_length_pos (by rw [List.length_take]; omega)
      · rwa [List.take_append_drop]
      · rw [List.take_append_drop, hvalue, hlength]
    · -- zeros stand between the point and the digits
      have hlength : (List.replicate (places - digits.length) '0' ++ digits).length = places := by
        rw [List.length_append, List.length_replicate]
        omega
      refine ⟨['0'], List.replicate (places - digits.length) '0' ++ digits, ?_, by simp, ?_, ?_⟩
      · rw [pointed, if_neg (by simp [hnonempty])]
        rfl
      · rw [List.all_append, List.all_append, hzeros, hdigits]
        rfl
      · have hnothing : Nat.ofDigitChars 10 ['0'] 0 = 0 := rfl
        rw [hlength, Nat.ofDigitChars_append, Nat.ofDigitChars_append, Nat.ofDigitChars_replicate_zero, hnothing,
          mul_zero, hvalue]

/-! ## Reading back -/

variable {m : ℕ} {e : ℤ}

/-- The text of a finite value is its sign with digits that are read as the value. -/
theorem text_finite {negative : Bool} (h : (finite negative m e).WellFormed) :
    ∃ whole fraction,
      (finite negative m e).text.toList = (if negative then ['-'] else []) ++ pointed whole fraction ∧
      whole ≠ [] ∧ (whole ++ fraction).all Char.isDigit = true ∧
      ofDecimal negative (Nat.ofDigitChars 10 (whole ++ fraction) 0) (-fraction.length) = finite negative m e := by
  rcases h with ⟨rfl, rfl⟩ | hc
  · refine ⟨['0'], [], ?_, by simp, rfl, if_pos rfl⟩
    rw [text, String.toList_ofList, if_pos rfl]
    rfl
  · have hrounds := (isShortest_shortest hc).rounds
    rw [text, String.toList_ofList, if_neg hc.pos.ne']
    -- the decimal is kept apart from the search for it, which would be evaluated
    generalize shortest m e = found at hrounds
    obtain ⟨n, k⟩ := found
    obtain ⟨whole, fraction, hwritten, hdenotes⟩ := positional_denotes n k
    refine ⟨whole, fraction, ?_, hdenotes.nonempty, hdenotes.digits, ofDecimal_of_roundsTo negative hc ?_⟩
    · exact congrArg _ hwritten
    · rw [hdenotes.value]
      exact hrounds

example : (ofDecimal false 1 (-1)).text = "0.1" := by decide +kernel

end Binary64

/-! ## Floats of a document -/

namespace Toml

/-- Decimal digits have one value. -/
theorem numberOf_ten {digits : List Char} (h : digits.all Char.isDigit = true) :
    numberOf 10 digits = Nat.ofDigitChars 10 digits 0 := by
  refine List.foldl_ext _ _ _ fun n c hc => ?_
  have hdigit : c.isDigit = true := List.all_eq_true.1 h c hc
  rw [hexValue, if_pos hdigit, mul_comm]

/-- The text of a finite float of a document has the digits of the same float. -/
theorem floatOf_text {negative : Bool} {whole fraction : List Char} {scale e : ℤ} {m : ℕ} {negative' : Bool}
    (h : floatOf negative whole fraction scale = some (.float (.finite negative' m e))) :
    ∃ whole' fraction',
      (Binary64.finite negative' m e).text.toList =
        (if negative' then ['-'] else []) ++ Binary64.pointed whole' fraction' ∧
      floatOf negative' whole' fraction' 0 = some (.float (.finite negative' m e)) := by
  have hread : Binary64.ofDecimal negative (numberOf 10 (whole ++ fraction)) (scale - fraction.length) =
      .finite negative' m e := by
    rw [floatOf] at h
    split at h
    · cases h
    · simpa using h
  have hformed := Binary64.wellFormed_ofDecimal negative (numberOf 10 (whole ++ fraction)) (scale - fraction.length)
  rw [hread] at hformed
  obtain ⟨whole', fraction', htext, -, hdigits, hback⟩ := Binary64.text_finite hformed
  refine ⟨whole', fraction', htext, ?_⟩
  rw [floatOf, numberOf_ten hdigits, zero_sub, hback]

end Toml

end AgentRelay
