import Mathlib.Algebra.Order.Round
import Mathlib.Data.Int.Log
import Mathlib.Data.Rat.Floor
import Mathlib.Tactic.FieldSimp
import Mathlib.Tactic.Linarith
import Mathlib.Tactic.Positivity

/-! # Rounding to doubles

The double nearest to a rational, without a bound above. Of two that are equally near it is the one whose last digit is
even. Below the least normal number the doubles are `2 ^ (-1074)` apart. -/

namespace SmartHome.Binary64

/-- The distance between the doubles around `q`. -/
def ulp (q : ℚ) : ℚ := 2 ^ max (Int.log 2 |q| - 52) (-1074)

/-- The nearest integer; `round` decides ties upwards. -/
def roundEven (q : ℚ) : ℤ := if Int.fract q = 1 / 2 ∧ round q % 2 = 1 then round q - 1 else round q

/-- The double nearest to `q`. -/
def nearest (q : ℚ) : ℚ := roundEven (q / ulp q) * ulp q

theorem ulp_pos (q : ℚ) : 0 < ulp q := zpow_pos (by norm_num) _

theorem roundEven_intCast (z : ℤ) : roundEven z = z := by
  have hfract : ¬ (Int.fract (z : ℚ) = 1 / 2 ∧ round (z : ℚ) % 2 = 1) := by
    rw [Int.fract_intCast]
    norm_num
  rw [roundEven, if_neg hfract, round_intCast]

theorem abs_sub_roundEven (q : ℚ) : |q - roundEven q| ≤ 1 / 2 := by
  unfold roundEven
  split
  · next htie =>
    have hround : round q = ⌊q⌋ + 1 := by
      have hq : q + 1 / 2 = ((⌊q⌋ + 1 : ℤ) : ℚ) := by
        have h := Int.floor_add_fract q
        push_cast
        linarith [htie.1]
      rw [round_eq, hq, Int.floor_intCast]
    have hdistance : q - ((round q - 1 : ℤ) : ℚ) = 1 / 2 := by
      rw [hround, add_sub_cancel_right, ← htie.1]
      rfl
    rw [hdistance, abs_of_pos (by norm_num)]
  · exact abs_sub_round q

theorem abs_sub_nearest_ulp (q : ℚ) : |q - nearest q| ≤ ulp q / 2 := by
  have hq : q - nearest q = (q / ulp q - roundEven (q / ulp q)) * ulp q := by
    rw [nearest, sub_mul, div_mul_cancel₀ _ (ulp_pos q).ne']
  rw [hq, abs_mul, abs_of_pos (ulp_pos q)]
  have h := mul_le_mul_of_nonneg_right (abs_sub_roundEven (q / ulp q)) (ulp_pos q).le
  linarith

theorem roundEven_nonneg {q : ℚ} (hq : 0 ≤ q) : 0 ≤ roundEven q := by
  have hround : 0 ≤ round q := by
    rw [round_eq]
    exact Int.floor_nonneg.mpr (by linarith)
  unfold roundEven
  split
  · next htie => omega
  · exact hround

theorem nearest_nonneg {q : ℚ} (hq : 0 ≤ q) : 0 ≤ nearest q := by
  have hround := roundEven_nonneg (div_nonneg hq (ulp_pos q).le)
  exact mul_nonneg (by exact_mod_cast hround) (ulp_pos q).le

theorem nearest_zero : nearest 0 = 0 := by
  rw [nearest, zero_div]
  simpa using congrArg (fun z : ℤ => (z : ℚ) * ulp 0) (roundEven_intCast 0)

theorem ulp_of_normal {q : ℚ} (hq : 2 ^ (-1022 : ℤ) ≤ |q|) : ulp q = 2 ^ (Int.log 2 |q| - 52) := by
  have hpos : 0 < |q| := lt_of_lt_of_le (zpow_pos two_pos _) hq
  have hlog : -1022 ≤ Int.log 2 |q| := (Int.zpow_le_iff_le_log (by norm_num) hpos).mp (by exact_mod_cast hq)
  rw [ulp, max_eq_left (by omega)]

/-- The relative error of a rounding. -/
theorem abs_sub_nearest {q : ℚ} (hq : q = 0 ∨ 2 ^ (-1022 : ℤ) ≤ |q|) : |q - nearest q| ≤ |q| / 2 ^ 53 := by
  rcases hq with rfl | hq
  · rw [nearest_zero]
    norm_num
  · have hpos : 0 < |q| := lt_of_lt_of_le (zpow_pos two_pos _) hq
    have hulp : ulp q = 2 ^ Int.log 2 |q| / 2 ^ 52 := by
      rw [ulp_of_normal hq, zpow_sub₀ two_ne_zero]
      rfl
    have hlog : (2 : ℚ) ^ Int.log 2 |q| ≤ |q| := by
      exact_mod_cast Int.zpow_log_le_self (by norm_num : 1 < 2) hpos
    have h := abs_sub_nearest_ulp q
    rw [hulp] at h
    linarith

theorem ulp_le (q : ℚ) : ulp q ≤ |q| + 1 := by
  rw [ulp]
  rcases max_cases (Int.log 2 |q| - 52) (-1074) with ⟨hmax, -⟩ | ⟨hmax, -⟩ <;> rw [hmax]
  · rcases eq_or_ne q 0 with rfl | hne
    · norm_num
    have hlog : (2 : ℚ) ^ Int.log 2 |q| ≤ |q| := by
      exact_mod_cast Int.zpow_log_le_self (by norm_num : 1 < 2) (abs_pos.mpr hne)
    have hle : (2 : ℚ) ^ (Int.log 2 |q| - 52) ≤ 2 ^ Int.log 2 |q| := zpow_le_zpow_right₀ (by norm_num) (by omega)
    linarith
  · have hle : (2 : ℚ) ^ (-1074 : ℤ) ≤ 2 ^ (0 : ℤ) := zpow_le_zpow_right₀ (by norm_num) (by norm_num)
    linarith [abs_nonneg q, zpow_zero (2 : ℚ)]

theorem abs_nearest_le (q : ℚ) : 2 * |nearest q| ≤ 3 * |q| + 1 := by
  have hsplit : |nearest q| ≤ |q| + |q - nearest q| := by
    have h := abs_sub_abs_le_abs_sub (nearest q) q
    rw [abs_sub_comm (nearest q) q] at h
    linarith
  linarith [abs_sub_nearest_ulp q, ulp_le q, abs_nonneg q]

/-- A number that is a whole multiple of the distance between the doubles around it is a double. -/
theorem nearest_of_multiple {q : ℚ} {z : ℤ} (h : q = z * ulp q) : nearest q = q := by
  have hdiv : q / ulp q = z := by rw [div_eq_iff (ulp_pos q).ne', ← h]
  rw [nearest, hdiv, roundEven_intCast, ← h]

theorem log_mul_two {q : ℚ} (hq : 0 < q) : Int.log 2 (q * 2) = Int.log 2 q + 1 := by
  have hle : ∀ k : ℤ, k ≤ Int.log 2 (q * 2) ↔ k ≤ Int.log 2 q + 1 := by
    intro k
    rw [← Int.zpow_le_iff_le_log (by norm_num) (by linarith), ← sub_le_iff_le_add,
      ← Int.zpow_le_iff_le_log (by norm_num) hq, zpow_sub_one₀ (by norm_num), Nat.cast_ofNat, ← div_eq_mul_inv,
      div_le_iff₀ two_pos]
  exact le_antisymm ((hle _).mp le_rfl) ((hle _).mpr le_rfl)

/-- A double times two is a double. -/
theorem nearest_mul_two {q : ℚ} (h : nearest q = q) : nearest (q * 2) = q * 2 := by
  rcases eq_or_ne q 0 with rfl | hne
  · rw [zero_mul, nearest_zero]
  have hlog : Int.log 2 |q * 2| = Int.log 2 |q| + 1 := by
    rw [abs_mul, abs_of_pos (two_pos : (0 : ℚ) < 2), log_mul_two (abs_pos.mpr hne)]
  obtain ⟨z, hz⟩ : ∃ z : ℤ, q = z * ulp q := ⟨_, h.symm⟩
  rcases le_or_gt (-1074) (Int.log 2 |q| - 52) with hnormal | hsubnormal
  · have hulp : ulp (q * 2) = ulp q * 2 := by
      rw [ulp, ulp, hlog, max_eq_left hnormal, max_eq_left (by omega), ← zpow_add_one₀ two_ne_zero]
      congr 1
      omega
    refine nearest_of_multiple (z := z) ?_
    rw [hulp, ← mul_assoc, ← hz]
  · have hulp : ulp (q * 2) = ulp q := by
      rw [ulp, ulp, hlog, max_eq_right hsubnormal.le, max_eq_right (by omega)]
    refine nearest_of_multiple (z := z * 2) ?_
    rw [hulp]
    push_cast
    rw [mul_right_comm, ← hz]

/-- A whole number of at most 53 digits over a power of two is a double. -/
theorem nearest_dyadic {z : ℤ} (h : |z| < 2 ^ 53) {n : ℕ} (hn : n ≤ 1074) : nearest (z / 2 ^ n) = z / 2 ^ n := by
  rcases eq_or_ne z 0 with rfl | hne
  · rw [Int.cast_zero, zero_div, nearest_zero]
  have hpos : 0 < |(z / 2 ^ n : ℚ)| := abs_pos.mpr (div_ne_zero (by exact_mod_cast hne) (by positivity))
  have hlog : Int.log 2 |(z / 2 ^ n : ℚ)| < 53 - n := by
    by_contra hlarge
    have hpow := (Int.zpow_le_iff_le_log (by norm_num : 1 < 2) hpos).mpr (not_lt.mp hlarge)
    have habs : |(z : ℚ)| < 2 ^ 53 := by exact_mod_cast h
    have hbelow : |(z / 2 ^ n : ℚ)| < 2 ^ (53 - n : ℤ) := by
      rw [abs_div, abs_of_pos (by positivity : (0 : ℚ) < 2 ^ n), zpow_sub₀ two_ne_zero, zpow_natCast]
      exact div_lt_div_of_pos_right habs (by positivity)
    exact absurd (by exact_mod_cast hpow) (not_le.mpr hbelow)
  obtain ⟨k, hk⟩ := Int.exists_eq_neg_ofNat (show max (Int.log 2 |(z / 2 ^ n : ℚ)| - 52) (-1074) + n ≤ 0 by omega)
  refine nearest_of_multiple (z := z * 2 ^ k) ?_
  rw [ulp, eq_sub_of_add_eq hk, zpow_sub₀ two_ne_zero, zpow_neg, zpow_natCast, zpow_natCast]
  push_cast
  field_simp

/-- A whole number of at most 53 digits is a double. -/
theorem nearest_intCast {z : ℤ} (h : |z| < 2 ^ 53) : nearest z = z := by
  have hwhole := nearest_dyadic h (Nat.zero_le _)
  rwa [pow_zero, div_one] at hwhole

theorem nearest_natCast {n : ℕ} (h : n < 2 ^ 53) : nearest n = n := by
  have hcast : nearest ((n : ℤ) : ℚ) = ((n : ℤ) : ℚ) := nearest_intCast (by rw [Nat.abs_cast]; exact_mod_cast h)
  exact_mod_cast hcast

end SmartHome.Binary64
