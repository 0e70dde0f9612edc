import SmartHome.Devices.Service
import SmartHome.Lib.Binary64

/-! # History charts

The snapshots of a period, thinned out for a chart (`get_device_snapshots` and `_downsample` of
`app/devices/service.py`, `get_snapshots_for_chart` of `app/devices/repository.py`). -/

namespace SmartHome

/-- A row of the table `device_state_snapshots`. -/
structure SnapshotRow extends DeviceStateSnapshot where
  id : Uuid

/-- The snapshots, with their ids. -/
structure SnapshotTable where
  rows : List SnapshotRow
  unique : (rows.map (·.id)).Nodup

section Downsample
variable {α : Type}

/-- `int(i * step)`. -/
def samplePosition (step : ℚ) (i : ℕ) : ℕ := ⌊Binary64.nearest (i * step)⌋₊

/-- `_downsample`; `none` for an `IndexError`. -/
def downsample (data : List α) (maxPoints : ℕ) : Option (List α) :=
  if data.length ≤ maxPoints then some data
  else
    let step := Binary64.nearest (data.length / maxPoints)
    ((List.range maxPoints).map (samplePosition step)).mapM fun position => data[position]?

end Downsample

namespace DeviceRepository

/-- `DeviceRepository.get_snapshots_for_chart`: the oldest first. -/
def getSnapshotsForChart (table : SnapshotTable) (ain : String) (since : DateTime) (limit : ℕ) : List SnapshotRow :=
  ((table.rows.filter fun row => row.ain == ain && since ≤ row.recordedAt).mergeSort fun a b =>
    a.recordedAt ≤ b.recordedAt).take limit

end DeviceRepository

namespace DeviceService

/-- `period_map.get(period, timedelta(hours=24))`, in seconds. -/
def periodDelta (period : String) : Int :=
  if period = "7d" then 7 * 86400 else if period = "30d" then 30 * 86400 else 24 * 3600

/-- `GET /devices/{ain}/snapshots`: at most 250 of at most 2000. -/
def getDeviceSnapshots (table : SnapshotTable) (ain : String) (period : String) (now : DateTime) :
    Option (List SnapshotRow) :=
  downsample (DeviceRepository.getSnapshotsForChart table ain (now - periodDelta period) 2000) 250

end DeviceService

/-! ## What a chart should show -/

/-- The snapshots of the period, in the order of their times. -/
def SnapshotTable.history (table : SnapshotTable) (ain : String) (since : DateTime) : List SnapshotRow :=
  (table.rows.filter fun row => row.ain == ain && since ≤ row.recordedAt).mergeSort fun a b =>
    a.recordedAt ≤ b.recordedAt

/-- The number of snapshots for each point, rounded up. -/
def spacing (n : ℕ) : ℕ := (n + 249) / 250

/-- The chosen snapshots are at most 250, in the order of time, each once, and no snapshot is far from all of them. -/
structure Covers (all chosen : List SnapshotRow) : Prop where
  atMost : chosen.length ≤ 250
  among : chosen.Sublist all
  order : chosen.Pairwise fun a b => a.recordedAt ≤ b.recordedAt
  once : chosen.Nodup
  near : ∀ j < all.length, ∃ i row, all[i]? = some row ∧ row ∈ chosen ∧ i ≤ j + spacing all.length ∧
    j ≤ i + spacing all.length

/-! ## The positions -/

section Positions
variable {n m i j : ℕ}

/-- The step is in the range where roundings are relatively small. -/
theorem step_normal (hm : 0 < m) (hn : 0 < n) (hsmall : 8 * n * m ≤ 2 ^ 53) : (1 / 2 ^ 50 : ℚ) ≤ n / m := by
  have hpos : (0 : ℚ) < m := by exact_mod_cast hm
  have hbound : m ≤ 2 ^ 50 := by nlinarith
  have hm' : (m : ℚ) ≤ 2 ^ 50 := by exact_mod_cast hbound
  have hn' : (1 : ℚ) ≤ n := by exact_mod_cast hn
  rw [div_le_div_iff₀ (by norm_num) hpos]
  nlinarith

/-- How far the computed product may be from `i * n / m`. -/
theorem product_error (hm : 0 < m) (hsmall : 8 * n * m ≤ 2 ^ 53) (hi : i ≤ m) :
    |(i * n / m : ℚ) - Binary64.nearest (i * Binary64.nearest (n / m))| ≤ 3 * n / 2 ^ 53 := by
  rcases Nat.eq_zero_or_pos n with rfl | hn
  · simp [Binary64.nearest_zero]
  rcases Nat.eq_zero_or_pos i with rfl | hi'
  · simpa [Binary64.nearest_zero] using (by positivity : (0 : ℚ) ≤ 3 * n / 2 ^ 53)
  have hquotient := step_normal hm hn hsmall
  have hnormal : ∀ q : ℚ, 1 / 2 ^ 51 ≤ q → 2 ^ (-1022 : ℤ) ≤ |q| := by
    intro q hq
    have hleast : (2 : ℚ) ^ (-1022 : ℤ) ≤ 2 ^ (-51 : ℤ) := zpow_le_zpow_right₀ (by norm_num) (by norm_num)
    have hvalue : (2 : ℚ) ^ (-51 : ℤ) = 1 / 2 ^ 51 := by norm_num
    exact (hleast.trans_eq hvalue).trans (hq.trans (le_abs_self q))
  have hstep := Binary64.abs_sub_nearest (Or.inr (hnormal (n / m) (by linarith)))
  rw [abs_of_nonneg (by linarith : (0 : ℚ) ≤ n / m), abs_le] at hstep
  generalize Binary64.nearest ((n : ℚ) / m) = step at hstep ⊢
  have hlarge : (1 / 2 ^ 51 : ℚ) ≤ step := by linarith [hstep.2]
  have hone : (1 : ℚ) ≤ i := by exact_mod_cast hi'
  have hscaled : step ≤ i * step := le_mul_of_one_le_left (by linarith) hone
  have hproduct := Binary64.abs_sub_nearest (Or.inr (hnormal (i * step) (hlarge.trans hscaled)))
  rw [abs_of_nonneg (by linarith : (0 : ℚ) ≤ i * step), abs_le] at hproduct
  generalize Binary64.nearest ((i : ℚ) * step) = product at hproduct ⊢
  have hpart : (i * (n / m) : ℚ) ≤ n := by
    have hle : (i : ℚ) ≤ m := by exact_mod_cast hi
    have hpos : (0 : ℚ) < m := by exact_mod_cast hm
    rw [← mul_div_assoc, div_le_iff₀ hpos, mul_comm]
    exact mul_le_mul_of_nonneg_left hle (Nat.cast_nonneg n)
  -- The rounded step is at most twice the exact one, and the error of each rounding a part of its value.
  have hbelow : (i * step : ℚ) ≤ i * (n / m) + i * (n / m) / 2 ^ 53 := by
    have h := mul_le_mul_of_nonneg_left (neg_le_sub_iff_le_add.mp hstep.1) (Nat.cast_nonneg (α := ℚ) i)
    rw [mul_add, ← mul_div_assoc _ _ ((2 : ℚ) ^ 53)] at h
    exact h
  have habove : (i * (n / m) : ℚ) - i * (n / m) / 2 ^ 53 ≤ i * step := by
    have h := mul_le_mul_of_nonneg_left (sub_le_comm.mp hstep.2) (Nat.cast_nonneg (α := ℚ) i)
    rw [mul_sub, ← mul_div_assoc _ _ ((2 : ℚ) ^ 53)] at h
    exact h
  rw [mul_div_assoc]
  have hpos : (0 : ℚ) ≤ i * (n / m) := by positivity
  rw [abs_le]
  constructor <;> linarith [hproduct.1, hproduct.2]

theorem error_small (hsmall : 8 * n * m ≤ 2 ^ 53) : (3 * n / 2 ^ 53 : ℚ) * m ≤ 3 / 8 := by
  have h : (8 * n * m : ℚ) ≤ 2 ^ 53 := by exact_mod_cast hsmall
  linarith

theorem product_nonneg (n m i : ℕ) : 0 ≤ Binary64.nearest ((i : ℚ) * Binary64.nearest (n / m)) := by
  have hquotient : (0 : ℚ) ≤ n / m := by positivity
  exact Binary64.nearest_nonneg (mul_nonneg (Nat.cast_nonneg i) (Binary64.nearest_nonneg hquotient))

section
variable (hm : 0 < m) (hsmall : 8 * n * m ≤ 2 ^ 53)
include hm hsmall

/-- The position of the `i`-th point is `i * n / m` rounded down, or one less where that is a whole number. -/
theorem samplePosition_bounds (hi : i ≤ m) :
    samplePosition (Binary64.nearest (n / m)) i * m ≤ i * n ∧
      i * n ≤ (samplePosition (Binary64.nearest (n / m)) i + 1) * m := by
  have hpos : (0 : ℚ) < m := by exact_mod_cast hm
  have herror := abs_le.mp (product_error hm hsmall hi)
  have hsmall := error_small hsmall
  have hnonneg := product_nonneg n m i
  unfold samplePosition
  have hlow := Nat.floor_le hnonneg
  have hhigh := Nat.lt_floor_add_one (Binary64.nearest ((i : ℚ) * Binary64.nearest (n / m)))
  generalize Binary64.nearest ((i : ℚ) * Binary64.nearest (n / m)) = product at *
  have hx : (i * n / m : ℚ) * m = i * n := div_mul_cancel₀ _ hpos.ne'
  constructor
  · have h : ((⌊product⌋₊ * m : ℕ) : ℚ) < ((i * n + 1 : ℕ) : ℚ) := by
      push_cast
      have hbound := mul_le_mul_of_nonneg_right (hlow.trans (by linarith [herror.1] :
        product ≤ i * n / m + 3 * n / 2 ^ 53)) hpos.le
      rw [add_mul, hx] at hbound
      linarith
    exact Nat.lt_succ_iff.mp (by exact_mod_cast h)
  · have h : ((i * n : ℕ) : ℚ) < (((⌊product⌋₊ + 1) * m + 1 : ℕ) : ℚ) := by
      push_cast
      have hbound := mul_le_mul_of_nonneg_right ((by linarith [herror.2] :
        (i * n / m : ℚ) ≤ ⌊product⌋₊ + 1 + 3 * n / 2 ^ 53)) hpos.le
      rw [add_mul, hx] at hbound
      linarith
    exact Nat.lt_succ_iff.mp (by exact_mod_cast h)

theorem samplePosition_lt (hmn : m < n) (hij : i < j) (hj : j ≤ m) :
    samplePosition (Binary64.nearest (n / m)) i < samplePosition (Binary64.nearest (n / m)) j := by
  have hpos : (0 : ℚ) < m := by exact_mod_cast hm
  have hi_error := abs_le.mp (product_error hm hsmall (hij.le.trans hj))
  have hj_error := abs_le.mp (product_error hm hsmall hj)
  have hsmall := error_small hsmall
  have hnonneg := product_nonneg n m i
  -- The exact products are more than one apart, by more than the two errors.
  have hgap : (i * n / m : ℚ) + (1 + 1 / m) ≤ j * n / m := by
    have hone : (1 + 1 / m : ℚ) = (m + 1) / m := by field_simp
    rw [hone, ← add_div, div_le_div_iff_of_pos_right hpos]
    have hle : i * n + (m + 1) ≤ j * n := by
      have hmul := Nat.mul_le_mul_right n (Nat.succ_le_of_lt hij)
      rw [Nat.succ_mul] at hmul
      omega
    exact_mod_cast hle
  have hsmall' : (3 * n / 2 ^ 53 : ℚ) ≤ 3 / 8 * (1 / m) := by
    rw [mul_one_div, le_div_iff₀ hpos]
    exact hsmall
  have hthird : (0 : ℚ) < 1 / m := by positivity
  unfold samplePosition
  generalize Binary64.nearest ((i : ℚ) * Binary64.nearest (n / m)) = pi at *
  generalize Binary64.nearest ((j : ℚ) * Binary64.nearest (n / m)) = pj at *
  rw [← Nat.add_one_le_iff, ← Nat.floor_add_one hnonneg]
  exact Nat.floor_le_floor (by linarith [hi_error.1, hj_error.2])

end

/-- Of 2000 snapshots every eighth is chosen. -/
theorem samplePosition_2000 (hi : i < 250) : samplePosition (Binary64.nearest ((2000 : ℕ) / (250 : ℕ))) i = 8 * i := by
  have hstep : ((2000 : ℕ) / (250 : ℕ) : ℚ) = (8 : ℕ) := by norm_num
  have hproduct : (i * (8 : ℕ) : ℚ) = ((8 * i : ℕ) : ℚ) := by
    push_cast
    ring
  rw [samplePosition, hstep, Binary64.nearest_natCast (by norm_num), hproduct, Binary64.nearest_natCast (by omega),
    Nat.floor_natCast]

end Positions

/-! ## What is chosen -/

section Picks
variable {α : Type} {data chosen : List α} {positions : List ℕ}

theorem mapM_getElem? (h : ∀ p ∈ positions, p < data.length) :
    ∃ chosen, positions.mapM (fun p => data[p]?) = some chosen := by
  induction positions with
  | nil => exact ⟨[], rfl⟩
  | cons p positions ih =>
    rw [List.forall_mem_cons] at h
    obtain ⟨chosen, hchosen⟩ := ih h.2
    refine ⟨data[p] :: chosen, ?_⟩
    rw [List.mapM_cons, List.getElem?_eq_getElem h.1, hchosen]
    rfl

theorem forall₂_of_mapM (h : positions.mapM (fun p => data[p]?) = some chosen) :
    List.Forall₂ (fun p x => data[p]? = some x) positions chosen := by
  induction positions generalizing chosen with
  | nil =>
    cases h
    exact .nil
  | cons p positions ih =>
    rw [List.mapM_cons] at h
    obtain ⟨x, hx, hrest⟩ := Option.bind_eq_some_iff.mp h
    obtain ⟨xs, hxs, hpure⟩ := Option.bind_eq_some_iff.mp hrest
    cases hpure
    exact .cons hx (ih hxs)

/-- What is picked at ascending positions is a part of the list, in its order. -/
theorem sublist_of_positions {d : ℕ} (h : List.Forall₂ (fun p x => data[p]? = some x) positions chosen)
    (hsorted : positions.Pairwise (· < ·)) (hd : ∀ p ∈ positions, d ≤ p) : chosen.Sublist (data.drop d) := by
  induction h generalizing d with
  | nil => exact List.nil_sublist _
  | @cons p x positions chosen hx _ ih =>
    rw [List.pairwise_cons] at hsorted
    obtain ⟨hp, rfl⟩ := List.getElem?_eq_some_iff.mp hx
    have hrest := ih hsorted.2 fun q hq => Nat.succ_le_of_lt (hsorted.1 q hq)
    have hdrop : (data.drop p).Sublist (data.drop d) := List.drop_sublist_drop_left data (hd p (List.mem_cons_self ..))
    rw [List.drop_eq_getElem_cons hp] at hdrop
    exact (hrest.cons_cons _).trans hdrop

theorem mem_of_positions (h : List.Forall₂ (fun p x => data[p]? = some x) positions chosen) {p : ℕ}
    (hp : p ∈ positions) : ∃ x ∈ chosen, data[p]? = some x := by
  induction h with
  | nil => cases hp
  | cons hx _ ih =>
    rcases List.mem_cons.mp hp with rfl | hp
    · exact ⟨_, List.mem_cons_self .., hx⟩
    · obtain ⟨x, hmem, hx⟩ := ih hp
      exact ⟨x, List.mem_cons_of_mem _ hmem, hx⟩

theorem position_of_mem (h : List.Forall₂ (fun p x => data[p]? = some x) positions chosen) {x : α} (hx : x ∈ chosen) :
    ∃ p ∈ positions, data[p]? = some x := by
  induction h with
  | nil => cases hx
  | cons hp _ ih =>
    rcases List.mem_cons.mp hx with rfl | hx
    · exact ⟨_, List.mem_cons_self .., hp⟩
    · obtain ⟨p, hmem, hp⟩ := ih hx
      exact ⟨p, List.mem_cons_of_mem _ hmem, hp⟩

theorem downsample_of_le (h : data.length ≤ 250) : downsample data 250 = some data := if_pos h

/-- What the thinning of at most 2000 snapshots picks. -/
theorem downsample_of_lt (h : 250 < data.length) (hmany : data.length ≤ 2000) :
    ∃ chosen, downsample data 250 = some chosen ∧
      List.Forall₂ (fun p x => data[p]? = some x)
        ((List.range 250).map (samplePosition (Binary64.nearest (data.length / (250 : ℕ))))) chosen := by
  have hpositions : ∀ p ∈ (List.range 250).map (samplePosition (Binary64.nearest (data.length / (250 : ℕ)))),
      p < data.length := by
    intro p hp
    obtain ⟨i, hi, rfl⟩ := List.mem_map.mp hp
    rw [List.mem_range] at hi
    obtain ⟨hle, -⟩ := @samplePosition_bounds data.length 250 i (by norm_num) (by omega) hi.le
    have hmul : i * data.length ≤ 249 * data.length := Nat.mul_le_mul_right _ (Nat.le_of_lt_succ hi)
    omega
  obtain ⟨chosen, hchosen⟩ := mapM_getElem? hpositions
  refine ⟨chosen, ?_, forall₂_of_mapM hchosen⟩
  rw [downsample, if_neg (not_le.mpr h)]
  exact hchosen

/-- The thinning of at most 2000 snapshots covers them. -/
theorem downsample_near (hmany : data.length ≤ 2000) :
    ∃ chosen, downsample data 250 = some chosen ∧ chosen.length ≤ 250 ∧ chosen.Sublist data ∧
      ∀ j < data.length, ∃ i x, data[i]? = some x ∧ x ∈ chosen ∧ i ≤ j ∧ j ≤ i + spacing data.length := by
  by_cases hfew : data.length ≤ 250
  · refine ⟨data, downsample_of_le hfew, hfew, List.Sublist.refl _, fun j hj => ?_⟩
    exact ⟨j, data[j], List.getElem?_eq_getElem hj, List.getElem_mem hj, le_rfl, Nat.le_add_right _ _⟩
  · rw [not_le] at hfew
    obtain ⟨chosen, hchosen, hpicks⟩ := downsample_of_lt hfew hmany
    have hlength := hpicks.length_eq
    rw [List.length_map, List.length_range] at hlength
    refine ⟨chosen, hchosen, hlength.ge, ?_, fun j hj => ?_⟩
    · refine sublist_of_positions (d := 0) hpicks ?_ fun p _ => Nat.zero_le p
      rw [List.pairwise_map]
      refine List.pairwise_lt_range.imp_of_mem fun {i j} _ hj hij => ?_
      exact samplePosition_lt (by norm_num) (by omega) hfew hij (List.mem_range.mp hj).le
    · -- The point whose exact position is the last one up to `j`.
      have hi : 250 * j / data.length < 250 := by
        rw [Nat.div_lt_iff_lt_mul (by omega)]
        omega
      obtain ⟨x, hx, hposition⟩ := mem_of_positions hpicks
        (List.mem_map_of_mem (List.mem_range.mpr hi))
      obtain ⟨hlow, hhigh⟩ := @samplePosition_bounds data.length 250 _ (by norm_num) (by omega) hi.le
      have hdiv := Nat.div_mul_le_self (250 * j) data.length
      have hnext := Nat.lt_div_mul_add (a := 250 * j) (b := data.length) (by omega)
      refine ⟨_, x, hposition, hx, ?_, ?_⟩
      · omega
      · unfold spacing
        omega

end Picks

/-! ## The charts -/

section Charts
variable {table : SnapshotTable} {ain : String} {since : DateTime}

theorem history_nodup : (table.history ain since).Nodup :=
  (List.mergeSort_perm _ _).nodup_iff.mpr ((table.unique.of_map _).filter _)

theorem history_order : (table.history ain since).Pairwise fun a b => a.recordedAt ≤ b.recordedAt := by
  refine (List.pairwise_mergeSort ?_ ?_ _).imp fun h => of_decide_eq_true h
  · intro a b c hab hbc
    exact decide_eq_true ((of_decide_eq_true hab).trans (of_decide_eq_true hbc))
  · intro a b
    simpa using le_total a.recordedAt b.recordedAt

theorem covers_of_near {chosen : List SnapshotRow} (hlength : chosen.length ≤ 250)
    (hamong : chosen.Sublist (table.history ain since))
    (hnear : ∀ j < (table.history ain since).length, ∃ i row, (table.history ain since)[i]? = some row ∧ row ∈ chosen ∧
      i ≤ j ∧ j ≤ i + spacing (table.history ain since).length) : Covers (table.history ain since) chosen where
  atMost := hlength
  among := hamong
  order := history_order.sublist hamong
  once := history_nodup.sublist hamong
  near j hj := by
    obtain ⟨i, row, hrow, hmem, hle, hnear⟩ := hnear j hj
    exact ⟨i, row, hrow, hmem, Nat.le_add_right_of_le hle, hnear⟩

/-- Of more than 2000 snapshots every eighth of the first 2000 is chosen. -/
theorem chart_of_many (hmany : 2000 < (table.history ain since).length) :
    ∃ chosen, downsample ((table.history ain since).take 2000) 250 = some chosen ∧ chosen.length ≤ 250 ∧
      chosen.Sublist (table.history ain since) ∧
      (∀ i < 250, ∃ row ∈ chosen, (table.history ain since)[8 * i]? = some row) ∧
      ∀ row ∈ chosen, ∃ i < 250, (table.history ain since)[8 * i]? = some row := by
  have hlength : ((table.history ain since).take 2000).length = 2000 := List.length_take_of_le hmany.le
  obtain ⟨chosen, hchosen, hcount, hamong, -⟩ := downsample_near hlength.le
  obtain ⟨chosen', hchosen', hpicks⟩ := downsample_of_lt (by omega) hlength.le
  rw [hchosen] at hchosen'
  cases hchosen'
  rw [hlength] at hpicks
  have hposition : ∀ i row, i < 250 → ((table.history ain since).take 2000)[8 * i]? = some row →
      (table.history ain since)[8 * i]? = some row := by
    intro i row hi hrow
    rwa [List.getElem?_take_of_lt (by omega)] at hrow
  refine ⟨chosen, hchosen, hcount, hamong.trans (List.take_sublist _ _), ?_, ?_⟩
  · intro i hi
    obtain ⟨row, hrow, hat⟩ := mem_of_positions hpicks (List.mem_map_of_mem (List.mem_range.mpr hi))
    rw [samplePosition_2000 hi] at hat
    exact ⟨row, hrow, hposition i row hi hat⟩
  · intro row hrow
    obtain ⟨p, hp, hat⟩ := position_of_mem hpicks hrow
    obtain ⟨i, hi, rfl⟩ := List.mem_map.mp hp
    rw [List.mem_range] at hi
    rw [samplePosition_2000 hi] at hat
    exact ⟨i, hi, hposition i row hi hat⟩

/-- Two snapshots more than the limit are still near the last point of the chart, a third is not. -/
theorem covers_of_many {chosen : List SnapshotRow} (hmany : 2000 < (table.history ain since).length)
    (hchosen : downsample ((table.history ain since).take 2000) 250 = some chosen) :
    Covers (table.history ain since) chosen ↔ (table.history ain since).length ≤ 2002 := by
  obtain ⟨chosen', hchosen', hcount, hamong, hpicked, hfrom⟩ := chart_of_many hmany
  rw [hchosen] at hchosen'
  cases hchosen'
  constructor
  · intro h
    obtain ⟨i, row, hat, hrow, -, hfar⟩ := h.near ((table.history ain since).length - 1) (by omega)
    obtain ⟨k, hk, hat'⟩ := hfrom row hrow
    have hi : i < (table.history ain since).length := by
      obtain ⟨hi, -⟩ := List.getElem?_eq_some_iff.mp hat
      exact hi
    have hsame : i = 8 * k := (List.getElem?_inj hi history_nodup).mp (hat.trans hat'.symm)
    unfold spacing at hfar
    omega
  · intro hfew
    refine covers_of_near hcount hamong fun j hj => ?_
    have hk : min (j / 8) 249 < 250 := by omega
    obtain ⟨row, hrow, hat⟩ := hpicked _ hk
    refine ⟨_, row, hat, hrow, ?_, ?_⟩
    · omega
    · unfold spacing
      omega

end Charts

/-- A chart covers its period just when the device has at most 2002 snapshots in it. -/
theorem chart_covers_iff (table : SnapshotTable) (ain period : String) (now : DateTime) :
    (∃ chosen, DeviceService.getDeviceSnapshots table ain period now = some chosen ∧
        Covers (table.history ain (now - DeviceService.periodDelta period)) chosen) ↔
      (table.history ain (now - DeviceService.periodDelta period)).length ≤ 2002 := by
  have hquery : DeviceService.getDeviceSnapshots table ain period now =
      downsample ((table.history ain (now - DeviceService.periodDelta period)).take 2000) 250 := rfl
  rw [hquery]
  generalize now - DeviceService.periodDelta period = since
  by_cases hmany : 2000 < (table.history ain since).length
  · obtain ⟨chosen, hchosen, -⟩ := chart_of_many hmany
    have hiff := covers_of_many hmany hchosen
    constructor
    · rintro ⟨chosen', hchosen', hcovers⟩
      rw [hchosen] at hchosen'
      cases hchosen'
      exact hiff.mp hcovers
    · intro hfew
      exact ⟨chosen, hchosen, hiff.mpr hfew⟩
  · rw [not_lt] at hmany
    rw [List.take_of_length_le hmany]
    obtain ⟨chosen, hchosen, hcount, hamong, hnear⟩ := downsample_near hmany
    constructor
    · intro _
      omega
    · intro _
      exact ⟨chosen, hchosen, covers_of_near hcount hamong hnear⟩

/-- A plug that was polled every minute, `n` times. -/
def polledTable (n : ℕ) (hn : n ≤ 2 ^ 128) : SnapshotTable where
  rows := (List.range n).map fun i : ℕ =>
    { id := BitVec.ofNat 128 i, deviceId := 1, ain := "08761 0374811", recordedAt := 60 * i, isOn := some true,
      temperatureCelsius := none,
      targetTemperature := none, powerWatts := none, energyWh := none, brightnessLevel := none }
  unique := by
    rw [List.map_map]
    refine List.Nodup.map_on (fun i hi j hj hid => ?_) List.nodup_range
    rw [List.mem_range] at hi hj
    have hmod : i % 2 ^ 128 = j % 2 ^ 128 := by
      simpa using congrArg BitVec.toNat hid
    rwa [Nat.mod_eq_of_lt (hi.trans_le hn), Nat.mod_eq_of_lt (hj.trans_le hn)] at hmod

theorem history_polledTable {n : ℕ} (hn : n ≤ 2 ^ 128) {since : DateTime} (h : since ≤ 0) :
    (polledTable n hn).history "08761 0374811" since = (polledTable n hn).rows := by
  have hall : ∀ row ∈ (polledTable n hn).rows, (row.ain == "08761 0374811" && decide (since ≤ row.recordedAt)) = true := by
    intro row hrow
    obtain ⟨i, -, rfl⟩ := List.mem_map.mp hrow
    have hsince : since ≤ 60 * (i : Int) := h.trans (by positivity)
    simpa using hsince
  rw [SnapshotTable.history, List.filter_eq_self.mpr hall]
  refine List.mergeSort_of_pairwise (List.pairwise_map.mpr (List.pairwise_lt_range.imp fun {a b} hab => ?_))
  have hle : 60 * (a : Int) ≤ 60 * (b : Int) := by omega
  simpa using hle

theorem length_history_polledTable {n : ℕ} (hn : n ≤ 2 ^ 128) {since : DateTime} (h : since ≤ 0) :
    ((polledTable n hn).history "08761 0374811" since).length = n := by
  rw [history_polledTable hn h, polledTable, List.length_map, List.length_range]

theorem minutes_have_ids : 2003 ≤ 2 ^ 128 := by
  norm_num

/-- The last of 2003 minutes is not near any point of the chart of a week. -/
theorem busy_chart_cut :
    ¬ ∃ chosen, DeviceService.getDeviceSnapshots (polledTable 2003 minutes_have_ids) "08761 0374811" "7d" 120120 =
          some chosen ∧
      Covers ((polledTable 2003 minutes_have_ids).history "08761 0374811" (120120 - DeviceService.periodDelta "7d"))
        chosen := by
  have hlength := length_history_polledTable minutes_have_ids
    (show 120120 - DeviceService.periodDelta "7d" ≤ 0 by decide)
  rintro ⟨chosen, hchosen, hcovers⟩
  have hfew := (covers_of_many (by omega) hchosen).mp hcovers
  omega

end SmartHome
