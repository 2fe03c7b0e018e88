import AgentRelay.Number.Shortest
import AgentRelay.Proofs.Binary64.Rounding
import Mathlib.Algebra.Order.Floor.Semifield
import Mathlib.Data.Rat.Floor

set_option autoImplicit false

/-!
# The shortest decimal of a value

Among the decimals that round to a value, `Binary64.shortest` finds the one with the fewest digits, among those with as
many the nearest one, and the greater one if two are equally near (`isShortest_shortest`).

The reals that round to a value are convex.  So if a multiple of a power of ten rounds to the value, so does one of
the two that enclose the value, and one of them is preferred; and a decimal below the leading power of ten of the value
can be replaced by this power.  A decimal of `d` digits therefore needs to be looked for at one place only, `d` below
the place of the value, and the search goes through these places one by one.
-/

namespace AgentRelay.Binary64

/-! ## Ratios -/

namespace Ratio

/-- The number that a ratio denotes. -/
def value (r : Ratio) : ℚ := r.num / r.den

theorem den_pos (r : Ratio) : (0 : ℚ) < r.den := by exact_mod_cast r.pos

/-- Scaling by a power, upwards or downwards, as a quotient. -/
theorem quotient_eq (b n : ℕ) (k : ℤ) :
    (if 0 ≤ k then ((n * Nat.pow b k.toNat : ℕ) : ℚ) / (1 : ℕ) else (n : ℚ) / (Nat.pow b (-k).toNat : ℕ)) =
      n * (b : ℚ) ^ k := by
  rw [Nat.pow_eq, Nat.pow_eq]
  push_cast
  split_ifs with h
  · rw [zpow_toNat h, div_one]
  · rw [zpow_neg_toNat (by omega), div_inv_eq_mul]

theorem value_scaled (m : ℕ) (e : ℤ) : (scaled m e).value = m * 2 ^ e := by
  rw [scaled, apply_ite value]
  exact (quotient_eq 2 m e).trans (by rw [Nat.cast_ofNat])

theorem value_decimal (n : ℕ) (k : ℤ) : (decimal n k).value = n * 10 ^ k := by
  rw [decimal, apply_ite value]
  exact (quotient_eq 10 n k).trans (by rw [Nat.cast_ofNat])

theorem lt_iff (a b : Ratio) : a.lt b = true ↔ a.value < b.value := by
  rw [lt, decide_eq_true_iff, value, value, div_lt_div_iff₀ a.den_pos b.den_pos]
  exact_mod_cast Iff.rfl

theorem le_iff (a b : Ratio) : a.le b = true ↔ a.value ≤ b.value := by
  rw [le, decide_eq_true_iff, value, value, div_le_div_iff₀ a.den_pos b.den_pos]
  exact_mod_cast Iff.rfl

end Ratio

/-! ## The interval of a value -/

variable {m : ℕ} {e : ℤ} {x y z : ℚ}

theorem value_lowerEnd (hm : 0 < m) (e : ℤ) : (lowerEnd m e).value = lowest m e := by
  rw [lowerEnd, lowest]
  split_ifs with h h' h'
  · rw [Ratio.value_scaled, Nat.cast_sub (by omega), zpow_sub₀ two_ne_zero]
    push_cast
    ring
  · exact absurd h h'
  · exact absurd h' h
  · rw [Ratio.value_scaled, Nat.cast_sub (by omega), zpow_sub_one₀ two_ne_zero]
    push_cast
    ring

theorem value_upperEnd (m : ℕ) (e : ℤ) : (upperEnd m e).value = highest m e := by
  rw [upperEnd, highest, Ratio.value_scaled, zpow_sub_one₀ two_ne_zero]
  push_cast
  ring

theorem roundsTo_iff (hm : 0 < m) (r : Ratio) : roundsTo m e r = true ↔ RoundsTo m e r.value := by
  rw [roundsTo, RoundsTo]
  split_ifs
  · rw [Bool.and_eq_true, Ratio.le_iff, Ratio.le_iff, value_lowerEnd hm, value_upperEnd]
  · rw [Bool.and_eq_true, Ratio.lt_iff, Ratio.lt_iff, value_lowerEnd hm, value_upperEnd]

/-- What lies between two numbers that round to a value rounds to it. -/
theorem RoundsTo.between (hx : RoundsTo m e x) (hz : RoundsTo m e z) (hxy : x ≤ y) (hyz : y ≤ z) : RoundsTo m e y := by
  rw [RoundsTo] at hx hz ⊢
  split_ifs at hx hz ⊢
  · exact ⟨hx.1.trans hxy, hyz.trans hz.2⟩
  · exact ⟨hx.1.trans_le hxy, hyz.trans_lt hz.2⟩

/-- What differs from a value by less than its 54th bit rounds to it. -/
theorem roundsTo_of_near (hc : Canonical m e) (h : |x - m * 2 ^ e| < m * 2 ^ e / 2 ^ 54) : RoundsTo m e x := by
  have hpower : (0 : ℚ) < 2 ^ e := by positivity
  have hm : (m : ℚ) < 2 ^ 53 := by exact_mod_cast hc.lt
  have hwithin : (m : ℚ) * 2 ^ e / 2 ^ 54 < 1 / 2 * 2 ^ e := by
    rw [mul_div_right_comm]
    exact mul_lt_mul_of_pos_right (by linarith) hpower
  obtain ⟨hbelow, habove⟩ := abs_lt.1 h
  have hlow : lowest m e < x := by
    rw [lowest]
    split_ifs with hfull
    · rw [hfull.1] at hbelow ⊢
      push_cast at hbelow ⊢
      linarith
    · linarith
  have hhigh : x < highest m e := by
    rw [highest]
    linarith
  rw [RoundsTo]
  split_ifs
  · exact ⟨hlow.le, hhigh.le⟩
  · exact ⟨hlow, hhigh⟩

/-- A value rounds to itself. -/
theorem roundsTo_self (hc : Canonical m e) : RoundsTo m e (m * 2 ^ e) := by
  have hm : (0 : ℚ) < m := by exact_mod_cast hc.pos
  refine roundsTo_of_near hc ?_
  rw [sub_self, abs_zero]
  positivity

theorem RoundsTo.pos (hc : Canonical m e) (h : RoundsTo m e x) : 0 < x := by
  have hleast : (0 : ℚ) < 10 ^ (-325 : ℤ) := by positivity
  exact hleast.trans ((lowest_gt hc).trans_le h.bounds.1)

/-! ## The grid of multiples of a power of ten -/

theorem floorAt_eq (r : Ratio) (k : ℤ) : floorAt r k = ⌊r.value / 10 ^ k⌋₊ := by
  rw [floorAt, Ratio.value]
  split_ifs with h
  · rw [← Nat.floor_div_eq_div (K := ℚ), Nat.pow_eq]
    push_cast
    rw [zpow_toNat h, div_div]
  · rw [← Nat.floor_div_eq_div (K := ℚ), Nat.pow_eq]
    push_cast
    rw [zpow_neg_toNat (by omega), ← div_eq_mul_inv, div_right_comm]

/-- The floor encloses a number on the grid. -/
theorem floorAt_bounds (r : Ratio) (k : ℤ) :
    (floorAt r k : ℚ) * 10 ^ k ≤ r.value ∧ r.value < (floorAt r k + 1 : ℕ) * 10 ^ k := by
  have hstep : (0 : ℚ) < 10 ^ k := by positivity
  have hnonneg : 0 ≤ r.value / 10 ^ k := div_nonneg (div_nonneg (Nat.cast_nonneg _) (Nat.cast_nonneg _)) hstep.le
  rw [floorAt_eq]
  push_cast
  exact ⟨(le_div_iff₀ hstep).1 (Nat.floor_le hnonneg), (div_lt_iff₀ hstep).1 (Nat.lt_floor_add_one _)⟩

theorem isNearerBelow_iff (r : Ratio) (low : ℕ) (k : ℤ) :
    isNearerBelow r low k = true ↔ 2 * r.value < (2 * low + 1) * 10 ^ k := by
  have hstep : (0 : ℚ) < 10 ^ k := by positivity
  rw [isNearerBelow, Ratio.value, mul_div_assoc', div_lt_iff₀ r.den_pos]
  split_ifs with h
  · rw [decide_eq_true_iff, ← @Nat.cast_lt ℚ, Nat.pow_eq]
    push_cast
    rw [zpow_toNat h]
  · rw [decide_eq_true_iff, ← @Nat.cast_lt ℚ, Nat.pow_eq]
    push_cast
    rw [zpow_neg_toNat (by omega), ← div_eq_mul_inv, div_lt_iff₀ hstep, mul_right_comm]

/-- The place of a number that is not below the start. -/
theorem placeFrom_spec (r : Ratio) (steps : ℕ) (k : ℤ) (hlow : 10 ^ (k - 1) ≤ r.value)
    (hhigh : r.value < 10 ^ (k + steps)) :
    10 ^ (placeFrom r steps k - 1) ≤ r.value ∧ r.value < 10 ^ placeFrom r steps k := by
  induction steps generalizing k with
  | zero =>
    rw [Nat.cast_zero, add_zero] at hhigh
    exact ⟨hlow, hhigh⟩
  | succ steps ih =>
    rw [placeFrom]
    simp only [Ratio.lt_iff, Ratio.value_decimal, Nat.cast_one, one_mul]
    split_ifs with h
    · exact ⟨hlow, h⟩
    · refine ih (k + 1) ?_ ?_
      · rw [add_sub_cancel_right]
        exact not_lt.1 h
      · rwa [add_assoc, add_comm 1, ← Nat.cast_add_one]

/-! ## The neighbours of a value -/

/-- `x` is nearer to `v` than `y` is, or as near and not below it. -/
def Preferred (v x y : ℚ) : Prop := |x - v| < |y - v| ∨ (|x - v| = |y - v| ∧ y ≤ x)

section Preferred

variable {v : ℚ}

theorem Preferred.of_le (h : |x - v| ≤ |y - v|) (hyx : y ≤ x) : Preferred v x y :=
  h.lt_or_eq.imp_right fun heq => ⟨heq, hyx⟩

theorem Preferred.trans (hxy : Preferred v x y) (hyz : Preferred v y z) : Preferred v x z := by
  rcases hxy with hlt | ⟨heq, hle⟩ <;> rcases hyz with hlt' | ⟨heq', hle'⟩
  · exact .inl (hlt.trans hlt')
  · exact .inl (hlt.trans_eq heq')
  · exact .inl (heq.trans_lt hlt')
  · exact .inr ⟨heq.trans heq', hle'.trans hle⟩

theorem Preferred.antisymm (h : Preferred v x y) (h' : Preferred v y x) : x = y := by
  rcases h with hlt | ⟨heq, hle⟩ <;> rcases h' with hlt' | ⟨heq', hle'⟩
  · exact absurd hlt' hlt.not_gt
  · exact absurd heq' hlt.ne'
  · exact absurd heq hlt'.ne'
  · exact le_antisymm hle' hle

end Preferred

section Neighbours

variable {r : Ratio} {n n' : ℕ} {k : ℤ}

theorem grid_mono (h : n ≤ n') (k : ℤ) : (n : ℚ) * 10 ^ k ≤ n' * 10 ^ k :=
  mul_le_mul_of_nonneg_right (by exact_mod_cast h) (by positivity)

/-- If a number on the grid, not above the value, rounds to the value, then the floor does. -/
theorem floorAt_rounds (hc : Canonical m e) (hr : r.value = m * 2 ^ e) (h : RoundsTo m e (n' * 10 ^ k))
    (hn : n' ≤ floorAt r k) : 0 < floorAt r k ∧ RoundsTo m e (floorAt r k * 10 ^ k) := by
  have hpos : (0 : ℚ) < n' := (mul_pos_iff_of_pos_right (by positivity)).1 (h.pos hc)
  refine ⟨(by exact_mod_cast hpos : 0 < n').trans_le hn, h.between (roundsTo_self hc) (grid_mono hn k) ?_⟩
  rw [← hr]
  exact (floorAt_bounds r k).1

/-- If a number on the grid, above the value, rounds to the value, then the successor of the floor does. -/
theorem succ_floorAt_rounds (hc : Canonical m e) (hr : r.value = m * 2 ^ e) (h : RoundsTo m e (n' * 10 ^ k))
    (hn : floorAt r k < n') : RoundsTo m e ((floorAt r k + 1 : ℕ) * 10 ^ k) := by
  refine (roundsTo_self hc).between h ?_ (grid_mono hn k)
  rw [← hr]
  exact (floorAt_bounds r k).2.le

/-- The floor is preferred if it is the nearer one of the two neighbours, or the only one. -/
theorem floorAt_preferred (hc : Canonical m e) (hr : r.value = m * 2 ^ e)
    (hnearer : RoundsTo m e ((floorAt r k + 1 : ℕ) * 10 ^ k) → 2 * r.value < (2 * floorAt r k + 1) * 10 ^ k)
    (h : RoundsTo m e (n' * 10 ^ k)) : Preferred r.value (floorAt r k * 10 ^ k) (n' * 10 ^ k) := by
  have hlow := (floorAt_bounds r k).1
  have hdistance := abs_of_nonpos (sub_nonpos.2 hlow)
  rcases le_or_gt n' (floorAt r k) with hn | hn
  · have hfar := grid_mono hn k
    refine .of_le ?_ hfar
    rw [hdistance, abs_of_nonpos (by linarith)]
    linarith
  · have hfar := (floorAt_bounds r k).2.trans_le (grid_mono hn k)
    have hcloser := hnearer (succ_floorAt_rounds hc hr h hn)
    have hstep := grid_mono hn k
    push_cast at hstep
    refine .inl ?_
    rw [hdistance, abs_of_pos (by linarith)]
    linarith

/-- The successor of the floor is preferred if the floor is not nearer, or is none of the two. -/
theorem succ_floorAt_preferred (hc : Canonical m e) (hr : r.value = m * 2 ^ e)
    (hnearer : 0 < floorAt r k → RoundsTo m e (floorAt r k * 10 ^ k) →
      (2 * floorAt r k + 1) * 10 ^ k ≤ 2 * r.value)
    (h : RoundsTo m e (n' * 10 ^ k)) : Preferred r.value ((floorAt r k + 1 : ℕ) * 10 ^ k) (n' * 10 ^ k) := by
  obtain ⟨hlow, hhigh⟩ := floorAt_bounds r k
  have hdistance := abs_of_nonneg (sub_nonneg.2 hhigh.le)
  rcases le_or_gt n' (floorAt r k) with hn | hn
  · obtain ⟨hpos, hfloor⟩ := floorAt_rounds hc hr h hn
    have hcloser := hnearer hpos hfloor
    have hfar := grid_mono hn k
    refine .of_le ?_ (by linarith)
    rw [hdistance, abs_of_nonpos (by linarith)]
    push_cast
    linarith
  · rcases (grid_mono hn k).eq_or_lt with heq | hfar
    · exact .of_le (by rw [← heq]) heq.ge
    · refine .inl ?_
      rw [hdistance, abs_of_nonneg (by linarith)]
      linarith

/-- Which neighbour is found: the one below, the one above, or none. -/
theorem neighbour?_cases (hm : 0 < m) (e : ℤ) (r : Ratio) (k : ℤ) :
    (neighbour? m e r k = some (floorAt r k) ∧ 0 < floorAt r k ∧ RoundsTo m e (floorAt r k * 10 ^ k) ∧
      (RoundsTo m e ((floorAt r k + 1 : ℕ) * 10 ^ k) → 2 * r.value < (2 * floorAt r k + 1) * 10 ^ k)) ∨
    (neighbour? m e r k = some (floorAt r k + 1) ∧ RoundsTo m e ((floorAt r k + 1 : ℕ) * 10 ^ k) ∧
      (0 < floorAt r k → RoundsTo m e (floorAt r k * 10 ^ k) → (2 * floorAt r k + 1) * 10 ^ k ≤ 2 * r.value)) ∨
    (neighbour? m e r k = none ∧ ¬ RoundsTo m e ((floorAt r k + 1 : ℕ) * 10 ^ k) ∧
      (0 < floorAt r k → ¬ RoundsTo m e (floorAt r k * 10 ^ k))) := by
  rw [← not_lt, ← isNearerBelow_iff, ← Ratio.value_decimal, ← Ratio.value_decimal, ← roundsTo_iff hm, ← roundsTo_iff hm,
    neighbour?]
  generalize floorAt r k = low
  generalize roundsTo m e (.decimal (low + 1) k) = above
  generalize roundsTo m e (.decimal low k) = below
  generalize isNearerBelow r low k = nearer
  by_cases hlow : 0 < low <;> cases above <;> cases below <;> cases nearer <;> simp [hlow]

/-- If anything on the grid rounds to the value, then a neighbour is found. -/
theorem neighbour?_ne_none (hc : Canonical m e) (hr : r.value = m * 2 ^ e) (h : RoundsTo m e (n' * 10 ^ k)) :
    neighbour? m e r k ≠ none := by
  intro hnone
  obtain ⟨hfound, -⟩ | ⟨hfound, -⟩ | ⟨-, habove, hbelow⟩ := neighbour?_cases hc.pos e r k
  · exact absurd (hnone.symm.trans hfound) (by simp)
  · exact absurd (hnone.symm.trans hfound) (by simp)
  · rcases le_or_gt n' (floorAt r k) with hn | hn
    · obtain ⟨hpos, hlow⟩ := floorAt_rounds hc hr h hn
      exact hbelow hpos hlow
    · exact habove (succ_floorAt_rounds hc hr h hn)

/-- The neighbour that is found rounds to the value, and is preferred to anything on the grid that does. -/
theorem neighbour?_spec (hc : Canonical m e) (hr : r.value = m * 2 ^ e) (h : neighbour? m e r k = some n) :
    0 < n ∧ n ≤ floorAt r k + 1 ∧ RoundsTo m e (n * 10 ^ k) ∧
      ∀ n' : ℕ, RoundsTo m e (n' * 10 ^ k) → Preferred (m * 2 ^ e) (n * 10 ^ k) (n' * 10 ^ k) := by
  rw [← hr]
  obtain ⟨hfound, hpos, hrounds, hnearer⟩ | ⟨hfound, hrounds, hnearer⟩ | ⟨hfound, -⟩ := neighbour?_cases hc.pos e r k
  · obtain rfl : floorAt r k = n := Option.some.inj (hfound.symm.trans h)
    exact ⟨hpos, Nat.le_succ _, hrounds, fun n' h' => floorAt_preferred hc hr hnearer h'⟩
  · obtain rfl : floorAt r k + 1 = n := Option.some.inj (hfound.symm.trans h)
    exact ⟨Nat.succ_pos _, le_rfl, hrounds, fun n' h' => succ_floorAt_preferred hc hr hnearer h'⟩
  · exact absurd (h.symm.trans hfound) (by simp)

end Neighbours

/-! ## The search -/

/-- The search stops at the first place, going down, at which a decimal rounds to the value, if there is one. -/
theorem search_spec (hc : Canonical m e) {r : Ratio} (hr : r.value = m * 2 ^ e) (steps : ℕ) (k : ℤ)
    (h : ∃ k', k - steps < k' ∧ k' ≤ k ∧ ∃ n : ℕ, RoundsTo m e (n * 10 ^ k')) :
    ∃ n k₀, search m e r steps k = strip n k₀ ∧ k₀ ≤ k ∧ neighbour? m e r k₀ = some n ∧
      ∀ k', k₀ < k' → k' ≤ k → ∀ n : ℕ, ¬ RoundsTo m e (n * 10 ^ k') := by
  induction steps generalizing k with
  | zero =>
    obtain ⟨k', hlow, hhigh, -⟩ := h
    omega
  | succ steps ih =>
    rw [search]
    cases hfound : neighbour? m e r k with
    | some n => exact ⟨n, k, rfl, le_rfl, hfound, fun k' hlow hhigh => by omega⟩
    | none =>
      have hnone (n : ℕ) : ¬ RoundsTo m e (n * 10 ^ k) := fun hn => neighbour?_ne_none hc hr hn hfound
      obtain ⟨k', hlow, hhigh, n, hn⟩ := h
      have hne : k' ≠ k := by
        rintro rfl
        exact hnone n hn
      obtain ⟨n₀, k₀, hsearch, hle, hneighbour, habove⟩ := ih (k - 1) ⟨k', by omega, by omega, n, hn⟩
      refine ⟨n₀, k₀, hsearch, by omega, hneighbour, fun k'' hlow' hhigh' => ?_⟩
      rcases eq_or_ne k'' k with rfl | hne'
      · exact hnone
      · exact habove k'' hlow' (by omega)

theorem value_strip (n : ℕ) (k : ℤ) : ((strip n k).1 : ℚ) * 10 ^ (strip n k).2 = n * 10 ^ k := by
  rw [strip]
  split_ifs with h
  · obtain ⟨q, rfl⟩ := Nat.dvd_of_mod_eq_zero h
    rw [Nat.mul_div_cancel_left q (by norm_num), zpow_add_one₀ (by norm_num)]
    push_cast
    ring
  · rfl

/-- A power of ten loses a digit. -/
theorem strip_lt {n j : ℕ} (hn : 0 < n) (hj : 0 < j) (h : n ≤ 10 ^ j) (k : ℤ) : (strip n k).1 < 10 ^ j := by
  rw [strip]
  split_ifs with hzero
  · exact (Nat.div_lt_self hn (by norm_num)).trans_le h
  · refine lt_of_le_of_ne h ?_
    rintro rfl
    exact hzero (Nat.mod_eq_zero_of_dvd (dvd_pow_self 10 hj.ne'))

/-! ## The shortest decimal -/

/-- A decimal rounds to the value, with the fewest digits that do so, and is preferred among those with as many. -/
structure IsShortest (m : ℕ) (e : ℤ) (n : ℕ) (k : ℤ) : Prop where
  rounds : RoundsTo m e (n * 10 ^ k)
  fewest (n' : ℕ) (k' : ℤ) : RoundsTo m e (n' * 10 ^ k') → digitCount n ≤ digitCount n'
  preferred (n' : ℕ) (k' : ℤ) : RoundsTo m e (n' * 10 ^ k') → digitCount n' = digitCount n →
    Preferred (m * 2 ^ e) (n * 10 ^ k) (n' * 10 ^ k')

/-- Shortest decimals denote one number. -/
theorem IsShortest.unique {n n' : ℕ} {k k' : ℤ} (h : IsShortest m e n k) (h' : IsShortest m e n' k') :
    (n * 10 ^ k : ℚ) = n' * 10 ^ k' := by
  have hcount : digitCount n = digitCount n' :=
    le_antisymm (h.fewest n' k' h'.rounds) (h'.fewest n k h.rounds)
  exact (h.preferred n' k' h'.rounds hcount.symm).antisymm (h'.preferred n k h.rounds hcount)

section Place

variable {p : ℤ}

/-- Seventeen digits suffice. -/
theorem exists_roundsTo (hc : Canonical m e) (hplace : (10 : ℚ) ^ (p - 1) ≤ m * 2 ^ e) :
    ∃ n : ℕ, RoundsTo m e (n * 10 ^ (p - 17)) := by
  have hstep : (0 : ℚ) < 10 ^ (p - 17) := by positivity
  have hnonneg : (0 : ℚ) ≤ m * 2 ^ e / 10 ^ (p - 17) + 1 / 2 := by positivity
  have hscale : (10 : ℚ) ^ (p - 1) = 10 ^ 16 * 10 ^ (p - 17) := by
    rw [← zpow_natCast, ← zpow_add₀ (by norm_num)]
    congr 1
    push_cast
    ring
  -- the distance of the nearest number on the grid is half a step
  have hlow := Nat.floor_le hnonneg
  have hhigh := Nat.lt_floor_add_one (m * 2 ^ e / 10 ^ (p - 17) + 1 / 2 : ℚ)
  generalize ⌊(m * 2 ^ e / 10 ^ (p - 17) + 1 / 2 : ℚ)⌋₊ = n at hlow hhigh
  rw [← sub_le_iff_le_add, le_div_iff₀ hstep] at hlow
  rw [← lt_sub_iff_add_lt, div_lt_iff₀ hstep] at hhigh
  refine ⟨n, roundsTo_of_near hc (abs_lt.2 ⟨?_, ?_⟩)⟩ <;> linarith

/-- Of the decimals that round to a value, one on the grid as many places below the place of the value as a decimal has
digits is preferred to this decimal. -/
theorem exists_at_place (hc : Canonical m e) (hplace : (10 : ℚ) ^ (p - 1) ≤ m * 2 ^ e) {n : ℕ} {k : ℤ}
    (h : RoundsTo m e (n * 10 ^ k)) :
    ∃ n' : ℕ, RoundsTo m e (n' * 10 ^ (p - digitCount n)) ∧
      Preferred (m * 2 ^ e) (n' * 10 ^ (p - digitCount n)) (n * 10 ^ k) := by
  have hten : (10 : ℚ) ≠ 0 := by norm_num
  have hn : 0 < n := by
    have hpos := (mul_pos_iff_of_pos_right (by positivity)).1 (h.pos hc)
    exact_mod_cast hpos
  rcases le_or_gt (p - digitCount n) k with hk | hk
  · -- a decimal on a coarser grid is on this one
    have hsame : ((n * 10 ^ (k - (p - digitCount n)).toNat : ℕ) : ℚ) * 10 ^ (p - digitCount n) = n * 10 ^ k := by
      push_cast
      rw [zpow_toNat (by omega), mul_assoc, ← zpow_add₀ hten, sub_add_cancel]
    exact ⟨n * 10 ^ (k - (p - digitCount n)).toNat, by rwa [hsame], .of_le (by rw [hsame]) hsame.ge⟩
  · -- a decimal with its leading digit below that of the value
    have hcount : 0 < digitCount n := Nat.length_toDigits_pos
    have hpower : ((10 ^ (digitCount n - 1) : ℕ) : ℚ) * 10 ^ (p - digitCount n) = 10 ^ (p - 1) := by
      push_cast
      rw [← zpow_natCast, ← zpow_add₀ hten]
      congr 1
      omega
    have hbelow : (n : ℚ) * 10 ^ k ≤ 10 ^ (p - 1) :=
      (decimal_bounds hn k).2.le.trans (zpow_le_zpow_right₀ (by norm_num) (by omega))
    refine ⟨10 ^ (digitCount n - 1), ?_, ?_⟩
    · rw [hpower]
      exact h.between (roundsTo_self hc) hbelow hplace
    · rw [hpower]
      refine .of_le ?_ hbelow
      rw [abs_of_nonpos (by linarith), abs_of_nonpos (by linarith)]
      linarith

/-- A neighbour has no more digits than there are places from the grid to the value. -/
theorem digitCount_strip_le {r : Ratio} {n : ℕ} {k : ℤ} (hn : 0 < n) (hfloor : n ≤ floorAt r k + 1)
    (habove : r.value < 10 ^ p) (hk : k < p) : digitCount (strip n k).1 ≤ p - k := by
  have hlow : (floorAt r k : ℚ) * 10 ^ k < 10 ^ (p - k) * 10 ^ k := by
    rw [← zpow_add₀ (by norm_num), sub_add_cancel]
    exact (floorAt_bounds r k).1.trans_lt habove
  have hsize : floorAt r k < 10 ^ (p - k).toNat := by
    have hcast := lt_of_mul_lt_mul_right hlow (by positivity)
    rw [← zpow_toNat (by omega)] at hcast
    exact_mod_cast hcast
  have hplaces : 0 < (p - k).toNat := by omega
  have hcount := (Nat.length_toDigits_le_iff (by norm_num) hplaces).2
    (strip_lt hn hplaces (hfloor.trans (Nat.succ_le_of_lt hsize)) k)
  rw [digitCount]
  omega

end Place

/-- The search starts at the place of the value. -/
theorem place_spec (hc : Canonical m e) :
    10 ^ (placeFrom (.scaled m e) 640 (-324) - 1) ≤ (m * 2 ^ e : ℚ) ∧
      (m * 2 ^ e : ℚ) < 10 ^ placeFrom (.scaled m e) 640 (-324) := by
  have hself := (roundsTo_self hc).bounds
  rw [← Ratio.value_scaled] at hself ⊢
  refine placeFrom_spec _ _ _ ((lowest_gt hc).le.trans hself.1) ?_
  calc (Ratio.scaled m e).value ≤ highest m e := hself.2
    _ < 10 ^ (310 : ℤ) := highest_lt hc
    _ < 10 ^ (-324 + (640 : ℕ) : ℤ) := zpow_lt_zpow_right₀ (by norm_num) (by norm_num)

/-- What is found is a shortest decimal. -/
theorem isShortest_shortest (hc : Canonical m e) : IsShortest m e (shortest m e).1 (shortest m e).2 := by
  have hr := Ratio.value_scaled m e
  obtain ⟨hplace, habove⟩ := place_spec hc
  rw [shortest]
  generalize placeFrom (.scaled m e) 640 (-324) = p at hplace habove
  obtain ⟨n, k, hsearch, hk, hneighbour, hcoarser⟩ := search_spec hc hr 17 (p - 1)
    ⟨p - 17, by omega, by omega, exists_roundsTo hc hplace⟩
  obtain ⟨hn, hfloor, hrounds, hpreferred⟩ := neighbour?_spec hc hr hneighbour
  have hcount := digitCount_strip_le hn hfloor (hr ▸ habove) (by omega)
  have hvalue := value_strip n k
  rw [hsearch]
  -- nothing with fewer digits than there are places down to the grid rounds to the value
  have hfewest (n' : ℕ) (k' : ℤ) (h : RoundsTo m e (n' * 10 ^ k')) : p - k ≤ digitCount n' := by
    have hdigits : 0 < digitCount n' := Nat.length_toDigits_pos
    obtain ⟨n'', h'', -⟩ := exists_at_place hc hplace h
    by_contra hless
    exact hcoarser (p - digitCount n') (by omega) (by omega) n'' h''
  refine ⟨by rwa [hvalue], fun n' k' h => ?_, fun n' k' h hdigits => ?_⟩
  · have hleast := hfewest n' k' h
    omega
  · obtain ⟨n'', h'', hcloser⟩ := exists_at_place hc hplace h
    have hleast := hfewest n' k' h
    have hgrid : p - digitCount n' = k := by omega
    rw [hgrid] at h'' hcloser
    rw [hvalue]
    exact (hpreferred n'' h'').trans hcloser

end AgentRelay.Binary64
