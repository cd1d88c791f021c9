import Mathlib.Algebra.Order.Field.Power
import Mathlib.Data.Rat.Cast.Order
import Mathlib.Tactic.FieldSimp
import Mathlib.Tactic.NormNum
import Mathlib.Tactic.Positivity
import Mathlib.Tactic.Ring
import PromptPacks.Number.Nearest

namespace PromptPacks.Number

/-- A power with a whole exponent, as the positive and the negative part of its
    exponent give it. -/
theorem zpow_eq_div (base : ℚ) (exponent : ℤ) :
    base ^ exponent = base ^ exponent.toNat / base ^ (-exponent).toNat := by
  obtain ⟨n, rfl | rfl⟩ := exponent.eq_nat_or_neg
  · simp
  · simp [zpow_neg]

section

variable {a b c d n : ℕ}

/-- A common factor does not change the rounded quotient. -/
theorem roundDiv_mul_left {k : ℕ} (hk : 0 < k) (a b : ℕ) :
    roundDiv (k * a) (k * b) = roundDiv a b := by
  have hless : 2 * (k * (a % b)) < k * b ↔ 2 * (a % b) < b := by
    rw [Nat.mul_left_comm, Nat.mul_lt_mul_left hk]
  have hgreater : k * b < 2 * (k * (a % b)) ↔ b < 2 * (a % b) := by
    rw [Nat.mul_left_comm, Nat.mul_lt_mul_left hk]
  simp only [roundDiv, Nat.mul_div_mul_left a b hk, Nat.mul_mod_mul_left, hless, hgreater]

/-- Equal quotients are rounded to the same number, in whatever terms they are
    given. -/
theorem roundDiv_congr (hb : 0 < b) (hd : 0 < d) (heq : a * d = c * b) :
    roundDiv a b = roundDiv c d := by
  rw [← roundDiv_mul_left hd a b, ← roundDiv_mul_left hb c d, Nat.mul_comm d a, heq,
    Nat.mul_comm c b, Nat.mul_comm d b]

/-- A quotient that is a whole number is not changed by rounding. -/
theorem roundDiv_mul_self (hb : 0 < b) : roundDiv (n * b) b = n := by
  rw [roundDiv, Nat.mul_mod_left, Nat.mul_div_cancel n hb]
  exact if_pos hb

/-- A quotient below one half is rounded to zero. -/
theorem roundDiv_eq_zero (hless : 2 * a < b) : roundDiv a b = 0 := by
  have hab : a < b := by omega
  rw [roundDiv, Nat.mod_eq_of_lt hab, Nat.div_eq_of_lt hab]
  exact if_pos hless

/-- Rounding does not go below a whole number that the quotient reaches. -/
theorem le_roundDiv (hb : 0 < b) (hle : n * b ≤ a) : n ≤ roundDiv a b := by
  have hquotient : n ≤ a / b := (Nat.le_div_iff_mul_le hb).2 hle
  simp only [roundDiv]
  split
  · exact hquotient
  · split
    · exact Nat.le_succ_of_le hquotient
    · exact Nat.le_add_right_of_le hquotient

end

section

variable {a b c d : ℕ} {e : ℤ}

/-- A quotient fits a grid if fifty-three bits on it reach beyond the quotient. -/
theorem fitsGrid_iff (hb : 0 < b) : fitsGrid a b e = true ↔ (a : ℚ) / b < 2 ^ (e + 53) := by
  have hdenominator : (0 : ℚ) < b := by exact_mod_cast hb
  rw [fitsGrid, decide_eq_true_eq, Nat.shiftLeft_eq, Nat.shiftLeft_eq,
    zpow_eq_div 2 (e + 53), div_lt_div_iff₀ hdenominator (by positivity),
    mul_comm (2 ^ _ : ℚ)]
  exact_mod_cast Iff.rfl

/-- A coarser grid reaches further. -/
theorem fitsGrid_mono (hb : 0 < b) {e' : ℤ} (hle : e ≤ e') (hfits : fitsGrid a b e = true) :
    fitsGrid a b e' = true := by
  rw [fitsGrid_iff hb] at hfits ⊢
  exact hfits.trans_le (zpow_le_zpow_right₀ (by norm_num) (by omega))

/-- Whether a quotient fits a grid depends on its value only. -/
theorem fitsGrid_congr (hb : 0 < b) (hd : 0 < d) (heq : (a : ℚ) / b = c / d) :
    fitsGrid a b e = fitsGrid c d e := by
  rw [Bool.eq_iff_iff, fitsGrid_iff hb, fitsGrid_iff hd, heq]

/-- Whether steps of `2 ^ e` are the finest ones of the grids of doubles that
    cover a quotient. -/
def IsGrid (a b : ℕ) (e : ℤ) : Prop :=
  -1074 ≤ e ∧ fitsGrid a b e = true ∧ (e = -1074 ∨ fitsGrid a b (e - 1) = false)

/-- The grid of a quotient is the finest that it fits, so there is only one. -/
theorem IsGrid.le (hb : 0 < b) {e' : ℤ} (hgrid : IsGrid a b e) (hother : IsGrid a b e') :
    e ≤ e' := by
  obtain ⟨-, -, hleast | hnot⟩ := hgrid
  · exact hleast ▸ hother.1
  · by_contra hlt
    have hle : e' ≤ e - 1 := by omega
    have hfits := fitsGrid_mono hb hle hother.2.1
    rw [hnot] at hfits
    cases hfits

/-- The sizes of two numbers tell their quotient up to a factor of two, so only
    few grids have to be tried. -/
theorem div_bounds (ha : 0 < a) (hb : 0 < b) :
    (2 : ℚ) ^ ((a.log2 : ℤ) - b.log2 - 1) < a / b ∧
      (a : ℚ) / b < 2 ^ ((a.log2 : ℤ) - b.log2 + 1) := by
  have hpos : (0 : ℚ) < b := by exact_mod_cast hb
  have hlow : (2 : ℚ) ^ a.log2 ≤ a := by exact_mod_cast Nat.log2_self_le ha.ne'
  have hhigh : (a : ℚ) < 2 ^ (a.log2 + 1) := by exact_mod_cast Nat.lt_log2_self
  have hlow' : (2 : ℚ) ^ b.log2 ≤ b := by exact_mod_cast Nat.log2_self_le hb.ne'
  have hhigh' : (b : ℚ) < 2 ^ (b.log2 + 1) := by exact_mod_cast Nat.lt_log2_self
  have hsplit (x y : ℕ) (z : ℤ) : (2 : ℚ) ^ ((x : ℤ) - y + z) = 2 ^ x / 2 ^ y * 2 ^ z := by
    rw [zpow_add₀ (by norm_num), zpow_sub₀ (by norm_num), zpow_natCast, zpow_natCast]
  constructor
  · rw [sub_eq_add_neg _ (1 : ℤ), hsplit, lt_div_iff₀ hpos]
    calc (2 : ℚ) ^ a.log2 / 2 ^ b.log2 * 2 ^ (-1 : ℤ) * b
        < 2 ^ a.log2 / 2 ^ b.log2 * 2 ^ (-1 : ℤ) * 2 ^ (b.log2 + 1) := by gcongr
      _ = 2 ^ a.log2 := by rw [zpow_neg, zpow_one, pow_succ]; field_simp
      _ ≤ a := hlow
  · rw [hsplit, div_lt_iff₀ hpos]
    calc (a : ℚ) < 2 ^ (a.log2 + 1) := hhigh
      _ = 2 ^ a.log2 / 2 ^ b.log2 * 2 ^ (1 : ℤ) * 2 ^ b.log2 := by
        rw [zpow_one, pow_succ]; field_simp
      _ ≤ 2 ^ a.log2 / 2 ^ b.log2 * 2 ^ (1 : ℤ) * b := by gcongr

/-- The grid that is found for a quotient is the finest one that it fits. The
    logarithms of its two parts leave two candidates, between which one
    comparison decides. -/
theorem isGrid_gridExponent (ha : 0 < a) (hb : 0 < b) : IsGrid a b (gridExponent a b) := by
  obtain ⟨hlow, hhigh⟩ := div_bounds ha hb
  obtain ⟨guess, hguess⟩ : ∃ guess : ℤ, guess = max (-1074) ((a.log2 : ℤ) - b.log2 - 53) :=
    ⟨_, rfl⟩
  have hfits : fitsGrid a b (guess + 1) = true := by
    rw [fitsGrid_iff hb]
    exact hhigh.trans_le (zpow_le_zpow_right₀ (by norm_num) (by omega))
  simp only [gridExponent, ← hguess]
  split
  · next hnow =>
    refine ⟨by omega, hnow, ?_⟩
    by_cases hleast : guess = -1074
    · exact .inl hleast
    · right
      rw [Bool.eq_false_iff, Ne, fitsGrid_iff hb, not_lt]
      exact (zpow_le_zpow_right₀ (by norm_num) (by omega)).trans hlow.le
  · next hnot => exact ⟨by omega, hfits, .inr (by simpa using hnot)⟩

/-- Any grid that is the finest one is the one that is found. -/
theorem gridExponent_eq (ha : 0 < a) (hb : 0 < b) (hgrid : IsGrid a b e) :
    gridExponent a b = e :=
  le_antisymm ((isGrid_gridExponent ha hb).le hb hgrid) (hgrid.le hb (isGrid_gridExponent ha hb))

/-- Equal quotients have the same nearest double, so the double belongs to the
    value and not to the way in which it is written. -/
theorem nearestBits_congr (hb : 0 < b) (hd : 0 < d) (heq : (a : ℚ) / b = c / d) :
    nearestBits a b = nearestBits c d := by
  have hcross : a * d = c * b := by
    rw [div_eq_div_iff (by exact_mod_cast hb.ne') (by exact_mod_cast hd.ne')] at heq
    exact_mod_cast heq
  by_cases ha : a = 0
  · have hc : c = 0 := by
      rw [ha, Nat.zero_mul, eq_comm, Nat.mul_eq_zero] at hcross
      omega
    rw [ha, hc, nearestBits, nearestBits, if_pos rfl, if_pos rfl]
  have hc : c ≠ 0 := by
    rintro rfl
    rw [Nat.zero_mul, Nat.mul_eq_zero] at hcross
    omega
  have hgrid : gridExponent a b = gridExponent c d := by
    refine gridExponent_eq (Nat.pos_of_ne_zero ha) hb ?_
    obtain ⟨hleast, hfits, hnot⟩ := isGrid_gridExponent (Nat.pos_of_ne_zero hc) hd
    rw [← fitsGrid_congr hb hd heq] at hfits hnot
    exact ⟨hleast, hfits, hnot⟩
  have hsteps (e : ℤ) : roundDiv (a <<< (-e).toNat) (b <<< e.toNat) =
      roundDiv (c <<< (-e).toNat) (d <<< e.toNat) := by
    simp only [Nat.shiftLeft_eq]
    refine roundDiv_congr (by positivity) (by positivity) ?_
    rw [Nat.mul_mul_mul_comm, hcross, Nat.mul_mul_mul_comm]
  rw [nearestBits, nearestBits, if_neg ha, if_neg hc]
  simp only [hgrid, hsteps]

/-- The bits of a quotient that a grid covers exactly. Nothing is rounded in
    this case. -/
theorem nearestBits_of_isGrid {n : ℕ} (ha : 0 < a) (hb : 0 < b) (hgrid : IsGrid a b e)
    (hexact : a <<< (-e).toNat = n * b <<< e.toNat) :
    nearestBits a b = min (((e + 1074).toNat <<< 52) + n) infinityBits := by
  have hpos : 0 < b <<< e.toNat := by
    rw [Nat.shiftLeft_eq]
    positivity
  rw [nearestBits, if_neg ha.ne']
  simp only [gridExponent_eq ha hb hgrid, hexact, roundDiv_mul_self hpos]

theorem shiftRight_52 (magnitude : ℕ) : magnitude >>> 52 = magnitude / 4503599627370496 :=
  Nat.shiftRight_eq_div_pow magnitude 52

/-- The steps that a finite magnitude counts on its grid are as many as 53 bits
    hold. Above the least grid they need all of these bits. -/
theorem significand_bounds {magnitude : ℕ} (hpos : 0 < magnitude) :
    0 < significand magnitude ∧ significand magnitude < 2 ^ 53 ∧
      (binaryExponent magnitude = -1074 ∨ 2 ^ 52 ≤ significand magnitude) := by
  simp only [significand, binaryExponent, shiftRight_52, Nat.one_shiftLeft]
  split <;> omega

/-- The exact value of a finite magnitude: its significand times a power of
    two. -/
theorem exactNumerator_div (magnitude : ℕ) :
    (exactNumerator magnitude : ℚ) / exactDenominator magnitude =
      significand magnitude * 2 ^ binaryExponent magnitude := by
  rw [exactNumerator, exactDenominator, Nat.shiftLeft_eq, Nat.one_shiftLeft, zpow_eq_div]
  push_cast
  ring

theorem exactDenominator_pos (magnitude : ℕ) : 0 < exactDenominator magnitude := by
  rw [exactDenominator, Nat.one_shiftLeft]
  positivity

theorem exactNumerator_pos {magnitude : ℕ} (hpos : 0 < magnitude) :
    0 < exactNumerator magnitude := by
  rw [exactNumerator, Nat.shiftLeft_eq]
  exact Nat.mul_pos (significand_bounds hpos).1 (by positivity)

/-- The grid of the exact value is the one that the bits of the magnitude tell.
    So the search for a grid comes to the one that was written down. -/
theorem isGrid_exact {magnitude : ℕ} (hpos : 0 < magnitude) :
    IsGrid (exactNumerator magnitude) (exactDenominator magnitude)
      (binaryExponent magnitude) := by
  obtain ⟨-, hless, hnormal⟩ := significand_bounds hpos
  refine ⟨by rw [binaryExponent]; omega, ?_, hnormal.imp_right fun hlarge => ?_⟩
  · rw [fitsGrid_iff (exactDenominator_pos _), exactNumerator_div, zpow_add₀ (by norm_num),
      mul_comm]
    have hbound : (significand magnitude : ℚ) < 2 ^ (53 : ℤ) := by exact_mod_cast hless
    gcongr
  · rw [Bool.eq_false_iff, Ne, fitsGrid_iff (exactDenominator_pos _), exactNumerator_div, not_lt,
      sub_add, sub_eq_add_neg, zpow_add₀ (by norm_num), mul_comm]
    have hbound : (2 : ℚ) ^ (52 : ℤ) ≤ significand magnitude := by exact_mod_cast hlarge
    gcongr
    exact hbound

/-- The exact value of a finite magnitude is nearest to the magnitude itself. So
    rounding takes back the step from bits to values. -/
theorem nearestBits_exact {magnitude : ℕ} (hpos : 0 < magnitude)
    (hfinite : magnitude < infinityBits) :
    nearestBits (exactNumerator magnitude) (exactDenominator magnitude) = magnitude := by
  have hsteps : exactNumerator magnitude <<< (-binaryExponent magnitude).toNat =
      significand magnitude * exactDenominator magnitude <<< (binaryExponent magnitude).toNat := by
    simp only [exactNumerator, exactDenominator, Nat.shiftLeft_eq]
    ring
  rw [nearestBits_of_isGrid (exactNumerator_pos hpos) (exactDenominator_pos _) (isGrid_exact hpos)
    hsteps]
  have hbits : ((binaryExponent magnitude + 1074).toNat <<< 52) + significand magnitude =
      magnitude := by
    simp only [significand, binaryExponent, shiftRight_52, Nat.shiftLeft_eq]
    split <;> omega
  rw [hbits, min_eq_left hfinite.le]

/-- A quotient below half of the least double is nearest to zero. At exactly
    half of it the tie would go to zero as well, but no use is made of that. -/
theorem nearestBits_eq_zero (hb : 0 < b) (hsmall : (a : ℚ) / b < 2 ^ (-1075 : ℤ)) :
    nearestBits a b = 0 := by
  obtain rfl | ha := Nat.eq_zero_or_pos a
  · rw [nearestBits, if_pos rfl]
  have hgrid : IsGrid a b (-1074) := by
    refine ⟨le_rfl, (fitsGrid_iff hb).2 (hsmall.trans ?_), .inl rfl⟩
    exact zpow_lt_zpow_right₀ (by norm_num) (by omega)
  have hless : 2 * (a * 2 ^ 1074) < b * 2 ^ 0 := by
    rw [div_lt_iff₀ (by exact_mod_cast hb), zpow_neg, inv_mul_eq_div, lt_div_iff₀ (by positivity)]
      at hsmall
    have hscaled : a * 2 ^ 1075 < b := by exact_mod_cast hsmall
    omega
  rw [nearestBits, if_neg ha.ne', gridExponent_eq ha hb hgrid]
  have hsteps : roundDiv (a <<< (-(-1074 : ℤ)).toNat) (b <<< (-1074 : ℤ).toNat) = 0 := by
    rw [Nat.shiftLeft_eq, Nat.shiftLeft_eq]
    exact roundDiv_eq_zero hless
  simp only [hsteps]
  rfl

/-- A quotient beyond the range of doubles is nearest to infinity. On the last
    grid it counts at least as many steps as fifty-three bits hold. -/
theorem nearestBits_eq_infinity (hb : 0 < b) (hlarge : (2 : ℚ) ^ (1024 : ℤ) ≤ a / b) :
    nearestBits a b = infinityBits := by
  have hscaled : 2 ^ 1024 * b ≤ a := by
    rw [le_div_iff₀ (by exact_mod_cast hb)] at hlarge
    exact_mod_cast hlarge
  have ha : 0 < a := (Nat.mul_pos (by positivity) hb).trans_le hscaled
  obtain ⟨e, hgrid⟩ : ∃ e, gridExponent a b = e := ⟨_, rfl⟩
  have hfits := (isGrid_gridExponent ha hb).2.1
  rw [hgrid, fitsGrid_iff hb] at hfits
  have hexponent : 1024 < e + 53 :=
    (zpow_lt_zpow_iff_right₀ (by norm_num : (1 : ℚ) < 2)).1 (hlarge.trans_lt hfits)
  rw [nearestBits, if_neg ha.ne', hgrid]
  refine min_eq_right ?_
  obtain rfl | hbeyond : e = 972 ∨ 973 ≤ e := by omega
  · have hsteps : 2 ^ 52 ≤ roundDiv (a <<< (-(972 : ℤ)).toNat) (b <<< (972 : ℤ).toNat) := by
      simp only [Nat.shiftLeft_eq]
      refine le_roundDiv (by positivity) ?_
      calc 2 ^ 52 * (b * 2 ^ 972) = 2 ^ (52 + 972) * b := by rw [pow_add, mul_comm b, mul_assoc]
        _ ≤ a * 2 ^ 0 := by rwa [pow_zero, mul_one]
    exact Nat.add_le_add_left hsteps _
  · refine Nat.le_add_right_of_le ?_
    rw [infinityBits, Nat.shiftLeft_eq, Nat.shiftLeft_eq]
    exact Nat.mul_le_mul_right _ (by omega)

end

end PromptPacks.Number
