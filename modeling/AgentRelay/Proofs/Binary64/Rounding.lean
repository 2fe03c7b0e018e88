import AgentRelay.Number.Binary64
import Mathlib.Algebra.Order.Field.Power
import Mathlib.Tactic.Linarith
import Mathlib.Tactic.Positivity
import Mathlib.Tactic.Ring

set_option autoImplicit false

/-!
# Rounding to binary floating point

The reals that round to a value form an interval about it.  The ends lie half-way to the neighbours, and belong to the
interval if the mantissa is even (`RoundsTo`).

A decimal in the interval is read as the value (`ofDecimal_of_roundsTo`), and whatever is read is well formed
(`wellFormed_ofDecimal`).  A quotient is rounded to a natural number in units of its last bit, and what it is nearest to
is unique (`Near.unique`), so only two things are to be shown: which exponent the quotient has, and that a mantissa that
was rounded up to a power of two is carried over.
-/

namespace AgentRelay.Binary64

/-! ## Powers -/

theorem zpow_toNat {b : ℚ} {e : ℤ} (h : 0 ≤ e) : b ^ e.toNat = b ^ e := by
  rw [← zpow_natCast, Int.toNat_of_nonneg h]

theorem zpow_neg_toNat {b : ℚ} {e : ℤ} (h : e ≤ 0) : b ^ (-e).toNat = (b ^ e)⁻¹ := by
  rw [zpow_toNat (by omega), zpow_neg]

/-! ## Rounding to a natural number -/

/-- A number is nearest to `n`, and if it lies half-way to a neighbour then `n` is even. -/
def Near (n : ℕ) (q : ℚ) : Prop :=
  if n % 2 = 0 then (n : ℚ) - 1 / 2 ≤ q ∧ q ≤ n + 1 / 2 else (n : ℚ) - 1 / 2 < q ∧ q < n + 1 / 2

theorem Near.bounds {n : ℕ} {q : ℚ} (h : Near n q) : (n : ℚ) - 1 / 2 ≤ q ∧ q ≤ n + 1 / 2 := by
  rw [Near] at h
  split at h
  · exact h
  · exact ⟨h.1.le, h.2.le⟩

/-- A number is nearest to one natural number only. -/
theorem Near.unique {n n' : ℕ} {q : ℚ} (h : Near n q) (h' : Near n' q) : n = n' := by
  wlog hle : n ≤ n' generalizing n n'
  · exact (this h' h (by omega)).symm
  by_contra hne
  have hnext : (n : ℚ) + 1 ≤ n' := by exact_mod_cast (show n + 1 ≤ n' by omega)
  have hupper := h.bounds.2
  have hlower := h'.bounds.1
  -- they are neighbours, and the number lies half-way, so that both are even
  have heq : (n' : ℚ) = n + 1 := by linarith
  have hsucc : n' = n + 1 := by exact_mod_cast heq
  rw [Near] at h h'
  split at h
  · rw [if_neg (by omega)] at h'
    linarith [h'.1]
  · linarith [h.2]

/-- Rounding a quotient gives the natural number that it is nearest to. -/
theorem near_roundHalfEven (num : ℕ) {den : ℕ} (hden : 0 < den) : Near (roundHalfEven num den) (num / den) := by
  have hpos : (0 : ℚ) < den := by exact_mod_cast hden
  have hdiv : (num : ℚ) / den = (num / den : ℕ) + (num % den : ℕ) / den := by
    rw [div_eq_iff hpos.ne', add_mul, div_mul_cancel₀ _ hpos.ne']
    exact_mod_cast (Nat.div_add_mod' num den).symm
  have hrest : ((num % den : ℕ) : ℚ) / den < 1 := by
    rw [div_lt_one hpos]
    exact_mod_cast Nat.mod_lt num hden
  have hnonneg : 0 ≤ ((num % den : ℕ) : ℚ) / den := by positivity
  have hbelow : 2 * (num % den) < den ↔ ((num % den : ℕ) : ℚ) / den < 1 / 2 := by
    rw [div_lt_iff₀ hpos, ← @Nat.cast_lt ℚ]
    push_cast
    constructor <;> intro h <;> linarith
  have habove : den < 2 * (num % den) ↔ 1 / 2 < ((num % den : ℕ) : ℚ) / den := by
    rw [lt_div_iff₀ hpos, ← @Nat.cast_lt ℚ]
    push_cast
    constructor <;> intro h <;> linarith
  rw [hdiv, roundHalfEven]
  simp only [hbelow, habove]
  generalize ((num % den : ℕ) : ℚ) / den = r at *
  generalize num / den = low
  split_ifs with hlow hhigh heven
  · rw [Near]
    split_ifs <;> constructor <;> linarith
  · rw [Near]
    push_cast
    split_ifs <;> constructor <;> linarith
  · rw [Near, if_pos heven]
    constructor <;> linarith
  · rw [Near, if_pos (by omega)]
    push_cast
    constructor <;> linarith

/-! ## The size of a quotient -/

variable {num den : ℕ}

/-- Scaling a quotient by a power of two, upwards or downwards. -/
theorem le_scaled_iff (hden : 0 < den) (e : ℤ) :
    (if 0 ≤ e then den * Nat.pow 2 e.toNat ≤ num else den ≤ num * Nat.pow 2 (-e).toNat) ↔ (2 : ℚ) ^ e ≤ num / den := by
  have hpos : (0 : ℚ) < den := by exact_mod_cast hden
  have hpower : (0 : ℚ) < 2 ^ e := by positivity
  rw [le_div_iff₀ hpos, ← @Nat.cast_le ℚ, ← @Nat.cast_le ℚ]
  split_ifs with h
  · rw [Nat.pow_eq]
    push_cast
    rw [zpow_toNat h, mul_comm]
  · rw [Nat.pow_eq]
    push_cast
    rw [zpow_neg_toNat (by omega), le_mul_inv_iff₀ hpower, mul_comm]

/-- The top exponent is that of the greatest power of two that is not above the quotient. -/
theorem topExponent_spec (hnum : 0 < num) (hden : 0 < den) :
    (2 : ℚ) ^ topExponent num den ≤ num / den ∧ (num : ℚ) / den < 2 ^ (topExponent num den + 1) := by
  have hpos : (0 : ℚ) < den := by exact_mod_cast hden
  have hnumBelow : (2 : ℚ) ^ (num.log2 : ℤ) ≤ num := by
    rw [zpow_natCast]
    exact_mod_cast Nat.log2_self_le hnum.ne'
  have hnumAbove : (num : ℚ) < 2 ^ ((num.log2 : ℤ) + 1) := by
    rw [← Nat.cast_succ, zpow_natCast]
    exact_mod_cast Nat.lt_log2_self
  have hdenBelow : (2 : ℚ) ^ (den.log2 : ℤ) ≤ den := by
    rw [zpow_natCast]
    exact_mod_cast Nat.log2_self_le hden.ne'
  have hdenAbove : (den : ℚ) < 2 ^ ((den.log2 : ℤ) + 1) := by
    rw [← Nat.cast_succ, zpow_natCast]
    exact_mod_cast Nat.lt_log2_self
  have hbelow : (2 : ℚ) ^ ((num.log2 : ℤ) - den.log2 - 1) ≤ num / den := by
    rw [sub_sub, zpow_sub₀ two_ne_zero]
    exact div_le_div₀ (by positivity) hnumBelow hpos hdenAbove.le
  have habove : (num : ℚ) / den < 2 ^ ((num.log2 : ℤ) - den.log2 + 1) := by
    rw [sub_add_eq_add_sub, zpow_sub₀ two_ne_zero]
    exact div_lt_div₀ hnumAbove hdenBelow (by positivity) (by positivity)
  rw [topExponent]
  simp only [le_scaled_iff hden]
  split_ifs with hreached
  · exact ⟨hreached, habove⟩
  · exact ⟨hbelow, by simpa using hreached⟩

/-- The mantissa at an exponent is nearest to the scaled quotient. -/
theorem near_mantissaAt (num : ℕ) (hden : 0 < den) (e : ℤ) :
    Near (mantissaAt num den e) (num / den / 2 ^ e) := by
  rw [mantissaAt]
  split_ifs with h
  · have hscaled := near_roundHalfEven num (Nat.mul_pos hden (Nat.pow_pos (n := e.toNat) two_pos))
    push_cast at hscaled
    rwa [zpow_toNat h, ← div_div] at hscaled
  · have hscaled := near_roundHalfEven (num * 2 ^ (-e).toNat) hden
    push_cast at hscaled
    rwa [zpow_neg_toNat (by omega), ← div_eq_mul_inv, div_right_comm] at hscaled

/-! ## The reals that round to a value -/

/-- The mantissa and the exponent are those of a value: the mantissa is not too wide, and it is full unless the exponent
is the least one. -/
structure Canonical (m : ℕ) (e : ℤ) : Prop where
  pos : 0 < m
  lt : m < 2 ^ 53
  least : leastExponent ≤ e
  greatest : e ≤ greatestExponent
  full : 2 ^ 52 ≤ m ∨ e = leastExponent

/-- A value that rounding can give.  Zero has the exponent zero. -/
def WellFormed : Binary64 → Prop
  | finite _ m e => (m = 0 ∧ e = 0) ∨ Canonical m e
  | _ => True

/-- The lower end of the reals that round to `m * 2 ^ e`.  The step below a full mantissa is half as wide. -/
def lowest (m : ℕ) (e : ℤ) : ℚ :=
  if m = 2 ^ 52 ∧ leastExponent < e then (m - 1 / 4) * 2 ^ e else (m - 1 / 2) * 2 ^ e

/-- The upper end. -/
def highest (m : ℕ) (e : ℤ) : ℚ := (m + 1 / 2) * 2 ^ e

/-- A real rounds to `m * 2 ^ e`.  The ends do so if the mantissa is even. -/
def RoundsTo (m : ℕ) (e : ℤ) (x : ℚ) : Prop :=
  if m % 2 = 0 then lowest m e ≤ x ∧ x ≤ highest m e else lowest m e < x ∧ x < highest m e

variable {m : ℕ} {e : ℤ} {x : ℚ}

theorem le_lowest (m : ℕ) (e : ℤ) : ((m : ℚ) - 1 / 2) * 2 ^ e ≤ lowest m e := by
  have hpower : (0 : ℚ) < 2 ^ e := by positivity
  rw [lowest]
  split_ifs
  · exact mul_le_mul_of_nonneg_right (by linarith) hpower.le
  · exact le_rfl

/-- What rounds to a value is nearest to its mantissa. -/
theorem RoundsTo.near (h : RoundsTo m e x) : Near m (x / 2 ^ e) := by
  have hpower : (0 : ℚ) < 2 ^ e := by positivity
  have hlowest := le_lowest m e
  rw [RoundsTo, highest] at h
  rw [Near]
  split_ifs at h ⊢
  · exact ⟨(le_div_iff₀ hpower).2 (hlowest.trans h.1), (div_le_iff₀ hpower).2 h.2⟩
  · exact ⟨(lt_div_iff₀ hpower).2 (hlowest.trans_lt h.1), (div_lt_iff₀ hpower).2 h.2⟩

/-! ## Rounding a quotient -/

theorem topExponent_eq (hnum : 0 < num) (hden : 0 < den) {t : ℤ} (hle : (2 : ℚ) ^ t ≤ num / den)
    (hlt : (num : ℚ) / den < 2 ^ (t + 1)) : topExponent num den = t := by
  obtain ⟨hbelow, habove⟩ := topExponent_spec hnum hden
  have h := (zpow_lt_zpow_iff_right₀ (one_lt_two (α := ℚ))).1 (hbelow.trans_lt hlt)
  have h' := (zpow_lt_zpow_iff_right₀ (one_lt_two (α := ℚ))).1 (hle.trans_lt habove)
  omega

theorem ofRounded_of_canonical (negative : Bool) (h : Canonical m e) :
    ofRounded negative m e = .finite negative m e := by
  have hnarrow : m ≠ Nat.pow 2 width := h.lt.ne
  have hrange : ¬ greatestExponent < e := not_lt.2 h.greatest
  simp only [ofRounded, hnarrow, if_false, hrange, h.pos.ne']

/-- A mantissa that was rounded up to a power of two is carried over. -/
theorem ofRounded_carried (negative : Bool) (h : e ≤ greatestExponent) :
    ofRounded negative (2 ^ 53) (e - 1) = .finite negative (2 ^ 52) e := by
  have hwide : 2 ^ 53 = Nat.pow 2 width := rfl
  have hrange : ¬ greatestExponent < e := not_lt.2 h
  have hfull : Nat.pow 2 (width - 1) ≠ 0 := by decide
  simp only [ofRounded, hwide, if_true, sub_add_cancel, hrange, hfull, if_false]
  rfl

theorem ofRatio_eq (negative : Bool) (h : max leastExponent (topExponent num den - 52) = e) :
    ofRatio negative num den = ofRounded negative (mantissaAt num den e) e := by
  rw [ofRatio, ← h]
  rfl

/-- Below a full mantissa with an exponent that is not the least one, only what rounds up to this mantissa rounds to a
value with this exponent. -/
theorem eq_of_roundsTo_below (hc : Canonical m e) (h : RoundsTo m e x) (hx : x < 2 ^ (e + 52))
    (hleast : leastExponent < e) : m = 2 ^ 52 ∧ (2 ^ 53 - 1 / 2) * 2 ^ (e - 1) ≤ x := by
  have hpower : (0 : ℚ) < 2 ^ e := by positivity
  have hfull : 2 ^ 52 ≤ m := hc.full.resolve_right hleast.ne'
  have hscaled : x / 2 ^ e < 2 ^ 52 := by
    rw [div_lt_iff₀ hpower]
    rwa [zpow_add₀ two_ne_zero, mul_comm] at hx
  have hm : m = 2 ^ 52 := by
    have hlt : (m : ℚ) < 2 ^ 52 + 1 := by linarith [h.near.bounds.1]
    have hle : m < 2 ^ 52 + 1 := by exact_mod_cast hlt
    omega
  refine ⟨hm, ?_⟩
  rw [RoundsTo, if_pos (by omega), lowest, if_pos ⟨hm, hleast⟩, hm] at h
  calc (2 ^ 53 - 1 / 2 : ℚ) * 2 ^ (e - 1) = (2 ^ 53 - 1 / 2) / 2 * 2 ^ e := by
        rw [zpow_sub_one₀ two_ne_zero]
        ring
    _ = ((2 ^ 52 : ℕ) - 1 / 4) * 2 ^ e := by norm_num
    _ ≤ x := h.1

/-- At the exponent of a value, what rounds to it is rounded to its mantissa. -/
theorem ofRatio_of_exponent (negative : Bool) (hc : Canonical m e) (hden : 0 < den) (h : RoundsTo m e (num / den))
    (hexponent : max leastExponent (topExponent num den - 52) = e) :
    ofRatio negative num den = .finite negative m e := by
  rw [ofRatio_eq negative hexponent, (near_mantissaAt num hden e).unique h.near, ofRounded_of_canonical negative hc]

/-- Just below a power of two the exponent is one less, and the mantissa is carried over. -/
theorem ofRatio_of_below (negative : Bool) (hc : Canonical m e) (hnum : 0 < num) (hden : 0 < den)
    (h : RoundsTo m e (num / den)) (hx : (num : ℚ) / den < 2 ^ (e + 52)) (hleast : leastExponent < e) :
    ofRatio negative num den = .finite negative m e := by
  obtain ⟨rfl, hclose⟩ := eq_of_roundsTo_below hc h hx hleast
  have hhalf : (0 : ℚ) < 2 ^ (e - 1) := by positivity
  have htop : topExponent num den = e + 51 := by
    refine topExponent_eq hnum hden (le_trans ?_ hclose) (by rwa [add_assoc])
    rw [show e + 51 = 52 + (e - 1) by ring, zpow_add₀ two_ne_zero]
    exact mul_le_mul_of_nonneg_right (by norm_num) hhalf.le
  have hexponent : max leastExponent (topExponent num den - 52) = e - 1 := by omega
  have hnear : Near (2 ^ 53) (num / den / 2 ^ (e - 1)) := by
    rw [show e + 52 = 53 + (e - 1) by ring, zpow_add₀ two_ne_zero] at hx
    rw [Near, if_pos (by norm_num), le_div_iff₀ hhalf, div_le_iff₀ hhalf]
    push_cast
    exact ⟨hclose, hx.le.trans (mul_le_mul_of_nonneg_right (by norm_num) hhalf.le)⟩
  rw [ofRatio_eq negative hexponent, (near_mantissaAt num hden (e - 1)).unique hnear,
    ofRounded_carried negative hc.greatest]

/-- A quotient that rounds to a value is rounded to it. -/
theorem ofRatio_of_roundsTo (negative : Bool) (hc : Canonical m e) (hnum : 0 < num) (hden : 0 < den)
    (h : RoundsTo m e (num / den)) : ofRatio negative num den = .finite negative m e := by
  have hleast := hc.least
  rcases lt_or_ge ((num : ℚ) / den) (2 ^ (e + 52)) with hx | hx
  · rcases eq_or_lt_of_le hleast with heq | hlt
    · have htop := (zpow_lt_zpow_iff_right₀ one_lt_two).1 ((topExponent_spec hnum hden).1.trans_lt hx)
      exact ofRatio_of_exponent negative hc hden h (by omega)
    · exact ofRatio_of_below negative hc hnum hden h hx hlt
  · have hpower : (0 : ℚ) < 2 ^ e := by positivity
    have hm : (m : ℚ) + 1 ≤ 2 ^ 53 := by exact_mod_cast hc.lt
    have hlt : (num : ℚ) / den < 2 ^ (e + 52 + 1) := by
      calc (num : ℚ) / den ≤ (m + 1 / 2) * 2 ^ e := (div_le_iff₀ hpower).1 h.near.bounds.2
        _ < 2 ^ 53 * 2 ^ e := mul_lt_mul_of_pos_right (by linarith) hpower
        _ = 2 ^ (e + 52 + 1) := by
          rw [← zpow_natCast, ← zpow_add₀ two_ne_zero]
          congr 1
          push_cast
          ring
    have htop := topExponent_eq hnum hden hx hlt
    exact ofRatio_of_exponent negative hc hden h (by omega)

theorem wellFormed_ofRounded (negative : Bool) (hwide : m ≤ 2 ^ 53) (hleast : leastExponent ≤ e)
    (hfull : 2 ^ 52 ≤ m ∨ e = leastExponent) : (ofRounded negative m e).WellFormed := by
  rcases eq_or_lt_of_le hwide with rfl | hnarrow
  · by_cases hrange : greatestExponent < e + 1
    · have hinfinite : ofRounded negative (2 ^ 53) e = .infinite negative := if_pos hrange
      rw [hinfinite]
      trivial
    · have hcarried := ofRounded_carried negative (not_lt.1 hrange)
      rw [add_sub_cancel_right] at hcarried
      rw [hcarried]
      exact .inr ⟨by norm_num, by norm_num, by omega, not_lt.1 hrange, .inl le_rfl⟩
  · have hwidth : m ≠ Nat.pow 2 width := hnarrow.ne
    simp only [ofRounded, hwidth, if_false]
    split_ifs with hrange hzero
    · trivial
    · exact .inl ⟨rfl, rfl⟩
    · exact .inr ⟨Nat.pos_of_ne_zero hzero, hnarrow, hleast, not_lt.1 hrange, hfull⟩

/-- Rounding gives well-formed values. -/
theorem wellFormed_ofRatio (negative : Bool) (hnum : 0 < num) (hden : 0 < den) :
    (ofRatio negative num den).WellFormed := by
  obtain ⟨hbelow, habove⟩ := topExponent_spec hnum hden
  generalize hexponent : max leastExponent (topExponent num den - 52) = e
  have hpower : (0 : ℚ) < 2 ^ e := by positivity
  obtain ⟨hlow, hhigh⟩ := (near_mantissaAt num hden e).bounds
  rw [ofRatio_eq negative hexponent]
  generalize mantissaAt num den e = m at hlow hhigh
  have hwide : m ≤ 2 ^ 53 := by
    have hlt : (num : ℚ) / den / 2 ^ e < 2 ^ 53 := by
      rw [div_lt_iff₀ hpower, mul_comm, ← zpow_natCast, ← zpow_add₀ two_ne_zero]
      exact habove.trans_le (zpow_le_zpow_right₀ one_le_two (by push_cast; omega))
    have hm : (m : ℚ) < 2 ^ 53 + 1 := by linarith
    have hm' : m < 2 ^ 53 + 1 := by exact_mod_cast hm
    omega
  have hfull : 2 ^ 52 ≤ m ∨ e = leastExponent := by
    refine or_iff_not_imp_right.2 fun hne => ?_
    have hle : (2 : ℚ) ^ 52 ≤ num / den / 2 ^ e := by
      rw [le_div_iff₀ hpower, ← zpow_natCast, ← zpow_add₀ two_ne_zero]
      exact (zpow_le_zpow_right₀ one_le_two (by push_cast; omega)).trans hbelow
    have hm : (2 : ℚ) ^ 52 < m + 1 := by linarith
    have hm' : 2 ^ 52 < m + 1 := by exact_mod_cast hm
    omega
  exact wellFormed_ofRounded negative hwide (by omega) hfull

/-! ## Reading a decimal -/

/-- The number of digits gives the size of a decimal. -/
theorem decimal_bounds {n : ℕ} (hn : 0 < n) (k : ℤ) :
    (10 : ℚ) ^ (digitCount n + k - 1) ≤ n * 10 ^ k ∧ (n : ℚ) * 10 ^ k < 10 ^ (digitCount n + k) := by
  have hcount : 0 < digitCount n := Nat.length_toDigits_pos
  have hscale : (0 : ℚ) < 10 ^ k := by positivity
  have hlow : 10 ^ (digitCount n - 1) ≤ n := by
    rcases Nat.eq_zero_or_pos (digitCount n - 1) with hone | hmore
    · rwa [hone]
    · by_contra hless
      have := (Nat.length_toDigits_le_iff (by norm_num) hmore).2 (not_le.1 hless)
      rw [digitCount] at hcount this
      omega
  have hhigh : n < 10 ^ digitCount n := (Nat.length_toDigits_le_iff (by norm_num) hcount).1 le_rfl
  constructor
  · rw [show (digitCount n : ℤ) + k - 1 = (digitCount n - 1 : ℕ) + k by omega, zpow_add₀ (by norm_num), zpow_natCast]
    exact mul_le_mul_of_nonneg_right (by exact_mod_cast hlow) hscale.le
  · rw [zpow_add₀ (by norm_num), zpow_natCast]
    exact mul_lt_mul_of_pos_right (by exact_mod_cast hhigh) hscale

/-- No value is smaller than this power of ten. -/
theorem lowest_gt (hc : Canonical m e) : (10 : ℚ) ^ (-325 : ℤ) < lowest m e := by
  have hm : (1 : ℚ) ≤ m := by exact_mod_cast hc.pos
  have hfifth : (2 : ℚ) ^ 215 < 10 ^ 65 := by norm_num
  calc (10 : ℚ) ^ (-325 : ℤ) = ((10 ^ 65) ^ 5)⁻¹ := by rw [← pow_mul, zpow_neg, ← zpow_natCast]; rfl
    _ < ((2 ^ 215) ^ 5)⁻¹ := inv_strictAnti₀ (by positivity) (pow_lt_pow_left₀ hfifth (by positivity) (by norm_num))
    _ = 2 ^ (leastExponent - 1) := by rw [← pow_mul, ← zpow_natCast, ← zpow_neg]; rfl
    _ = 1 / 2 * 2 ^ leastExponent := by rw [zpow_sub_one₀ two_ne_zero]; ring
    _ ≤ (m - 1 / 2) * 2 ^ e :=
      mul_le_mul (by linarith) (zpow_le_zpow_right₀ one_le_two hc.least) (by positivity) (by linarith)
    _ ≤ lowest m e := le_lowest m e

/-- No value is larger than this power of ten. -/
theorem highest_lt (hc : Canonical m e) : highest m e < (10 : ℚ) ^ (310 : ℤ) := by
  have hm : (m : ℚ) + 1 ≤ 2 ^ 53 := by exact_mod_cast hc.lt
  have hfifth : (2 : ℚ) ^ 205 < 10 ^ 62 := by norm_num
  calc highest m e ≤ 2 ^ 53 * 2 ^ greatestExponent :=
      mul_le_mul (by linarith) (zpow_le_zpow_right₀ one_le_two hc.greatest) (by positivity) (by positivity)
    _ = 2 ^ 1024 := by rw [greatestExponent, ← zpow_natCast, ← zpow_natCast, ← zpow_add₀ two_ne_zero]; rfl
    _ ≤ (2 ^ 205) ^ 5 := by rw [← pow_mul]; exact pow_le_pow_right₀ one_le_two (by norm_num)
    _ < (10 ^ 62) ^ 5 := pow_lt_pow_left₀ hfifth (by positivity) (by norm_num)
    _ = 10 ^ (310 : ℤ) := by rw [← pow_mul, ← zpow_natCast]; rfl

theorem RoundsTo.bounds (h : RoundsTo m e x) : lowest m e ≤ x ∧ x ≤ highest m e := by
  rw [RoundsTo] at h
  split at h
  · exact h
  · exact ⟨h.1.le, h.2.le⟩

/-- A decimal that rounds to a value is read as it. -/
theorem ofDecimal_of_roundsTo (negative : Bool) {n : ℕ} {k : ℤ} (hc : Canonical m e)
    (h : RoundsTo m e (n * 10 ^ k)) : ofDecimal negative n k = .finite negative m e := by
  obtain ⟨hlow, hhigh⟩ := h.bounds
  have hpositive : (10 : ℚ) ^ (-325 : ℤ) < n * 10 ^ k := (lowest_gt hc).trans_le hlow
  have hn : 0 < n := by
    rcases Nat.eq_zero_or_pos n with rfl | hn
    · have hleast : (0 : ℚ) < 10 ^ (-325 : ℤ) := by positivity
      simp only [Nat.cast_zero, zero_mul] at hpositive
      linarith
    · exact hn
  obtain ⟨hbelow, habove⟩ := decimal_bounds hn k
  have hten : (1 : ℚ) < 10 := by norm_num
  have hlarge := (zpow_lt_zpow_iff_right₀ hten).1 (hpositive.trans habove)
  have hsmall := (zpow_lt_zpow_iff_right₀ hten).1 (hbelow.trans_lt (hhigh.trans_lt (highest_lt hc)))
  rw [ofDecimal, if_neg hn.ne', if_neg (by omega), if_neg (by omega)]
  split_ifs with hscale
  · refine ofRatio_of_roundsTo negative hc (Nat.mul_pos hn (Nat.pow_pos (by norm_num))) one_pos ?_
    rw [Nat.pow_eq]
    push_cast
    rwa [zpow_toNat hscale, div_one]
  · refine ofRatio_of_roundsTo negative hc hn (Nat.pow_pos (by norm_num)) ?_
    rw [Nat.pow_eq]
    push_cast
    rwa [zpow_neg_toNat (by omega), div_inv_eq_mul]

/-- Reading gives well-formed values. -/
theorem wellFormed_ofDecimal (negative : Bool) (n : ℕ) (k : ℤ) : (ofDecimal negative n k).WellFormed := by
  rcases Nat.eq_zero_or_pos n with rfl | hn
  · exact .inl ⟨rfl, rfl⟩
  rw [ofDecimal, if_neg hn.ne']
  dsimp only
  split_ifs with hlarge hsmall hscale
  · trivial
  · exact .inl ⟨rfl, rfl⟩
  · exact wellFormed_ofRatio negative (Nat.mul_pos hn (Nat.pow_pos (by norm_num))) one_pos
  · exact wellFormed_ofRatio negative hn (Nat.pow_pos (by norm_num))

end AgentRelay.Binary64
