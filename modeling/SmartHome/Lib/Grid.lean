import Mathlib.Order.Bounds.Basic
import SmartHome.Lib.Binary64

/-! # Numbers on a grid

The multiples of `1 / k`: the greatest one that is not above a number, and the nearest one. -/

namespace SmartHome.Grid
variable {k : ℕ} {q : ℚ}

/-- The number is a multiple of `1 / k`. -/
def On (k : ℕ) (q : ℚ) : Prop := ∃ z : ℤ, q = z / k

/-- The greatest multiple of `1 / k` that is not above `q`. -/
def cut (k : ℕ) (q : ℚ) : ℚ := ⌊q * k⌋ / k

/-- The nearest multiple of `1 / k`; a tie goes to the even one. -/
def nearest (k : ℕ) (q : ℚ) : ℚ := Binary64.roundEven (q * k) / k

/-- The nearest multiple of `1 / k`; a tie goes upwards. -/
def nearestUp (k : ℕ) (q : ℚ) : ℚ := round (q * k) / k

theorem mul_of_on (hk : 0 < k) {z : ℤ} (h : q = z / k) : q * k = z := by
  have hpos : (k : ℚ) ≠ 0 := by exact_mod_cast hk.ne'
  rw [h, div_mul_cancel₀ _ hpos]

theorem cut_isGreatest (hk : 0 < k) (q : ℚ) : IsGreatest {x | On k x ∧ x ≤ q} (cut k q) := by
  have hpos : (0 : ℚ) < k := by exact_mod_cast hk
  refine ⟨⟨⟨⌊q * k⌋, rfl⟩, ?_⟩, ?_⟩
  · rw [cut, div_le_iff₀ hpos]
    exact Int.floor_le _
  · rintro x ⟨⟨z, hz⟩, hx⟩
    have hfloor : z ≤ ⌊q * k⌋ := by
      rw [Int.le_floor, ← mul_of_on hk hz]
      exact mul_le_mul_of_nonneg_right hx hpos.le
    rw [hz, cut]
    gcongr

theorem sub_cut_lt (hk : 0 < k) (q : ℚ) : q - cut k q < 1 / k := by
  have hpos : (0 : ℚ) < k := by exact_mod_cast hk
  have hfloor := Int.lt_floor_add_one (q * k)
  rw [cut, sub_lt_iff_lt_add, ← add_div, lt_div_iff₀ hpos]
  linarith

theorem cut_of_on (hk : 0 < k) (h : On k q) : cut k q = q := by
  obtain ⟨z, hz⟩ := h
  rw [cut, mul_of_on hk hz, Int.floor_intCast, hz]

theorem nearest_of_on (hk : 0 < k) (h : On k q) : nearest k q = q := by
  obtain ⟨z, hz⟩ := h
  rw [nearest, mul_of_on hk hz, Binary64.roundEven_intCast, hz]

theorem nearestUp_of_on (hk : 0 < k) (h : On k q) : nearestUp k q = q := by
  obtain ⟨z, hz⟩ := h
  rw [nearestUp, mul_of_on hk hz, round_intCast, hz]

theorem abs_sub_nearest (hk : 0 < k) (q : ℚ) : |q - nearest k q| ≤ 1 / (2 * k) := by
  have hpos : (0 : ℚ) < k := by exact_mod_cast hk
  have hround := abs_le.mp (Binary64.abs_sub_roundEven (q * k))
  have hscaled : (q - nearest k q) * k = q * k - Binary64.roundEven (q * k) := by
    rw [sub_mul, nearest, div_mul_cancel₀ _ hpos.ne']
  have hbound : (1 / (2 * k) : ℚ) * k = 1 / 2 := by field_simp
  rw [abs_le]
  constructor
  · refine le_of_mul_le_mul_right ?_ hpos
    rw [hscaled, neg_mul, hbound]
    exact hround.1
  · refine le_of_mul_le_mul_right ?_ hpos
    rw [hscaled, hbound]
    exact hround.2

/-- Numbers that are rounded to the same multiple are at most one step apart. -/
theorem abs_sub_le_of_nearest_eq (hk : 0 < k) {p : ℚ} (h : nearest k p = nearest k q) : |p - q| ≤ 1 / k := by
  have hp := abs_le.mp (abs_sub_nearest hk p)
  have hq := abs_le.mp (abs_sub_nearest hk q)
  have hhalf : (1 / (2 * k) : ℚ) + 1 / (2 * k) = 1 / k := by ring
  rw [h] at hp
  rw [abs_le]
  constructor <;> linarith

/-- A grid is part of every finer one. -/
theorem On.finer {m : ℕ} (hk : 0 < k) (hm : 0 < m) (h : On k q) : On (k * m) q := by
  obtain ⟨z, rfl⟩ := h
  refine ⟨z * m, ?_⟩
  have hpos : (k : ℚ) ≠ 0 := by exact_mod_cast hk.ne'
  have hpos' : (m : ℚ) ≠ 0 := by exact_mod_cast hm.ne'
  push_cast
  field_simp

end SmartHome.Grid
