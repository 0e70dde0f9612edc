import SmartHome.Devices.Charts
import Mathlib.Algebra.Order.Floor.Semifield

/-! # Evenly spaced samples

`_downsample` with the step `n / m` and its multiples computed without rounding, for lists and limits of every
size. -/

namespace SmartHome

section Exact
variable {α : Type}

/-- The position of the sample in exact numbers. -/
def exactPosition (step : ℚ) (i : ℕ) : ℕ := ⌊i * step⌋₊

/-- `downsample` over exact positions; `none` for an `IndexError`. -/
def downsampleExact (data : List α) (maxPoints : ℕ) : Option (List α) :=
  if data.length ≤ maxPoints then some data
  else
    let step : ℚ := data.length / maxPoints
    ((List.range maxPoints).map (exactPosition step)).mapM fun position => data[position]?

end Exact

/-- Positions in a list of `n` elements, as far apart as `m` of them can evenly be. -/
structure EvenlySpaced (n m : ℕ) (positions : List ℕ) : Prop where
  inRange : ∀ p ∈ positions, p < n
  increasing : positions.Pairwise (· < ·)
  first : positions.head? = some 0
  gaps : positions.IsChain fun p q => q = p + ⌊(n / m : ℚ)⌋₊ ∨ q = p + ⌈(n / m : ℚ)⌉₊
  last : ∃ p, positions.getLast? = some p ∧ n ≤ p + ⌈(n / m : ℚ)⌉₊

/-! ## The multiples of a fraction, rounded down -/

section Multiples
variable {n m i j : ℕ}

theorem exactPosition_eq : exactPosition (n / m) i = i * n / m := by
  have hproduct : (i * (n / m) : ℚ) = ((i * n : ℕ) : ℚ) / m := by
    push_cast
    rw [mul_div_assoc]
  rw [exactPosition, hproduct, Nat.floor_div_eq_div]

theorem floor_ratio : ⌊(n / m : ℚ)⌋₊ = n / m := Nat.floor_div_eq_div n m

theorem ceil_ratio (hm : 0 < m) : ⌈(n / m : ℚ)⌉₊ = if n % m = 0 then n / m else n / m + 1 := by
  have hpos : (0 : ℚ) < m := by exact_mod_cast hm
  have hdivision := Nat.div_add_mod n m
  split
  · next hzero =>
    have hwhole : (n / m : ℚ) = ((n / m : ℕ) : ℚ) := by
      rw [div_eq_iff hpos.ne']
      exact_mod_cast (by rw [mul_comm]; omega : n = n / m * m)
    rw [hwhole, Nat.ceil_natCast]
  · next hpart =>
    rw [Nat.ceil_eq_iff (Nat.succ_ne_zero _)]
    have hlow : n / m * m < n := by
      rw [mul_comm]
      omega
    have hhigh := Nat.lt_div_mul_add (a := n) hm
    constructor
    · rw [lt_div_iff₀ hpos]
      exact_mod_cast hlow
    · rw [div_le_iff₀ hpos]
      exact_mod_cast (by rw [Nat.succ_mul]; exact hhigh.le : n ≤ (n / m + 1) * m)

/-- The next multiple is one of the two whole numbers around the step further. -/
theorem next_position (hm : 0 < m) (i : ℕ) :
    (i + 1) * n / m = i * n / m + ⌊(n / m : ℚ)⌋₊ ∨ (i + 1) * n / m = i * n / m + ⌈(n / m : ℚ)⌉₊ := by
  rw [floor_ratio, ceil_ratio hm, Nat.succ_mul, Nat.add_div hm]
  have hrest : i * n % m < m := Nat.mod_lt _ hm
  by_cases hzero : n % m = 0
  · left
    rw [if_neg (by omega), Nat.add_zero]
  · rw [if_neg hzero]
    split
    · exact .inr (Nat.add_assoc _ _ _)
    · exact .inl (Nat.add_zero _)

theorem floor_ratio_le (hm : 0 < m) : ⌊(n / m : ℚ)⌋₊ ≤ ⌈(n / m : ℚ)⌉₊ := by
  rw [floor_ratio, ceil_ratio hm]
  split
  · exact le_rfl
  · exact Nat.le_succ _

theorem position_strictMono (hm : 0 < m) (hmn : m < n) : StrictMono fun i => i * n / m := by
  refine strictMono_nat_of_lt_succ fun i => ?_
  have hstep : 0 < ⌊(n / m : ℚ)⌋₊ := by
    rw [floor_ratio]
    exact Nat.div_pos hmn.le hm
  have hround := floor_ratio_le (n := n) hm
  rcases next_position (n := n) hm i with h | h <;> omega

theorem position_lt (hi : i < m) (hn : 0 < n) : i * n / m < n := by
  rw [Nat.div_lt_iff_lt_mul (Nat.zero_lt_of_lt hi), Nat.mul_comm n m]
  exact Nat.mul_lt_mul_of_pos_right hi hn

/-- Past the last multiple taken, the next one is the end of the list. -/
theorem last_position (hm : 0 < m) : n ≤ (m - 1) * n / m + ⌈(n / m : ℚ)⌉₊ := by
  have hend : (m - 1 + 1) * n / m = n := by
    rw [Nat.sub_add_cancel hm, Nat.mul_div_cancel_left n hm]
  have hround := floor_ratio_le (n := n) hm
  rcases next_position (n := n) hm (m - 1) with h | h <;> omega

/-- The rounding of the step and of its multiples moves a position by at most one. -/
theorem samplePosition_exact (hm : 0 < m) (hsmall : 8 * n * m ≤ 2 ^ 53) (hi : i ≤ m) :
    samplePosition (Binary64.nearest (n / m)) i = exactPosition (n / m) i ∨
      samplePosition (Binary64.nearest (n / m)) i + 1 = exactPosition (n / m) i := by
  rw [exactPosition_eq]
  obtain ⟨hlow, hhigh⟩ := samplePosition_bounds hm hsmall hi
  have hle := (Nat.le_div_iff_mul_le hm).mpr hlow
  rw [Nat.mul_comm (_ + 1)] at hhigh
  have hge := Nat.div_le_of_le_mul hhigh
  omega

end Multiples

/-! ## The samples -/

section Samples
variable {α : Type} {n m : ℕ} {data : List α}

theorem exactPositions_eq : (List.range m).map (exactPosition (n / m)) = (List.range m).map fun i => i * n / m :=
  List.map_congr_left fun _ _ => exactPosition_eq

theorem evenlySpaced_positions (hm : 0 < m) (hmn : m < n) :
    EvenlySpaced n m ((List.range m).map (exactPosition (n / m))) := by
  have hsucc : m - 1 + 1 = m := Nat.sub_add_cancel hm
  rw [exactPositions_eq]
  refine ⟨fun p hp => ?_, ?_, ?_, ?_, (m - 1) * n / m, ?_, last_position hm⟩
  · obtain ⟨i, hi, rfl⟩ := List.mem_map.mp hp
    exact position_lt (List.mem_range.mp hi) (Nat.zero_lt_of_lt hmn)
  · rw [List.pairwise_map]
    exact List.pairwise_lt_range.imp fun hij => position_strictMono hm hmn hij
  · rw [← hsucc, List.range_succ_eq_map, List.map_cons, List.head?_cons, Nat.zero_mul, Nat.zero_div]
  · rw [List.isChain_map, List.isChain_iff_getElem]
    intro i hi
    rw [List.getElem_range, List.getElem_range]
    exact next_position hm i
  · rw [← hsucc, List.range_succ, List.map_append]
    simp

/-- With the step not rounded, every list is thinned to an evenly spaced part of it. -/
theorem downsampleExact_even (hm : 0 < m) :
    ∃ chosen, downsampleExact data m = some chosen ∧ chosen.length = min data.length m ∧
      (data.length ≤ m → chosen = data) ∧
      (m < data.length → ∃ positions, EvenlySpaced data.length m positions ∧
        List.Forall₂ (fun p x => data[p]? = some x) positions chosen) := by
  by_cases hfew : data.length ≤ m
  · refine ⟨data, if_pos hfew, (min_eq_left hfew).symm, fun _ => rfl, fun hmany => ?_⟩
    exact absurd hfew (not_le.mpr hmany)
  · rw [not_le] at hfew
    have hspaced := evenlySpaced_positions hm hfew
    obtain ⟨chosen, hchosen⟩ := mapM_getElem? hspaced.inRange
    have hpicks := forall₂_of_mapM hchosen
    refine ⟨chosen, ?_, ?_, fun hle => absurd hle (not_le.mpr hfew), fun _ => ⟨_, hspaced, hpicks⟩⟩
    · rw [downsampleExact, if_neg (not_le.mpr hfew)]
      exact hchosen
    · rw [← hpicks.length_eq, List.length_map, List.length_range, min_eq_right hfew.le]

theorem downsampleExact_seven :
    ∃ chosen, downsampleExact [10, 11, 12, 13, 14, 15, 16] 3 = some chosen ∧ chosen.length = min 7 3 ∧
      (7 ≤ 3 → chosen = [10, 11, 12, 13, 14, 15, 16]) ∧
      (3 < 7 → ∃ positions, EvenlySpaced 7 3 positions ∧
        List.Forall₂ (fun p x => [10, 11, 12, 13, 14, 15, 16][p]? = some x) positions chosen) :=
  downsampleExact_even (by norm_num)

end Samples

end SmartHome
