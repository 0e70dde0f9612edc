import Mathlib.Algebra.BigOperators.Group.List.Lemmas
import Mathlib.Data.List.Dedup
import Mathlib.Data.List.Sort
import SmartHome.Lib.Grid

/-! # Aggregates

`SUM`, `AVG` and `GROUP BY key ORDER BY key` over the rows of a query. An aggregate leaves out NULL, and is NULL
when nothing else is there. -/

namespace SmartHome.Aggregate
variable {ρ : Type}

/-- The arithmetic mean; 0 of no values. -/
def mean (values : List ℚ) : ℚ := values.sum / values.length

/-- `SUM(column)`. -/
def sum (column : ρ → Option ℚ) (rows : List ρ) : Option ℚ :=
  if rows.filterMap column = [] then none else some (rows.filterMap column).sum

/-- `AVG(column)`. -/
def avg (column : ρ → Option ℚ) (rows : List ρ) : Option ℚ :=
  if rows.filterMap column = [] then none else some (mean (rows.filterMap column))

/-- The sum of the values that there are. -/
def total (column : ρ → Option ℚ) (rows : List ρ) : ℚ := (rows.filterMap column).sum

/-- The keys of the groups, in their order. -/
def groups (key : ρ → ℤ) (rows : List ρ) : List ℤ := (rows.map key).dedup.mergeSort

/-- The rows of a group. -/
def group (key : ρ → ℤ) (rows : List ρ) (k : ℤ) : List ρ := rows.filter fun row => key row = k

variable {column : ρ → Option ℚ} {rows : List ρ}

/-! ### Values -/

theorem filterMap_ne_nil {row : ρ} (h : row ∈ rows) (hcolumn : (column row).isSome = true) :
    rows.filterMap column ≠ [] := by
  intro hnil
  rw [List.filterMap_eq_nil_iff.mp hnil row h] at hcolumn
  cases hcolumn

theorem mean_eq_zero_iff {values : List ℚ} (h : values ≠ []) : mean values = 0 ↔ values.sum = 0 := by
  have hlength : (values.length : ℚ) ≠ 0 := by exact_mod_cast (List.length_pos_iff.mpr h).ne'
  rw [mean, div_eq_zero_iff, or_iff_left hlength]

theorem sum_nonpos {values : List ℚ} (h : ∀ x ∈ values, x ≤ 0) : values.sum ≤ 0 := by
  have hle := List.sum_le_card_nsmul values 0 h
  rwa [nsmul_zero] at hle

/-- The values that fail a test pull the mean away from the mean of the others. -/
theorem mean_eq_sub_of_filter {values : List ℚ} {p : ℚ → Bool} (h : values.filter p ≠ []) :
    mean values = mean (values.filter p) -
      ((values.filter fun x => !p x).length * mean (values.filter p) - (values.filter fun x => !p x).sum) /
        values.length := by
  have hperm := List.filter_append_perm p values
  have hsum := hperm.sum_eq
  have hlength := hperm.length_eq
  rw [List.sum_append] at hsum
  rw [List.length_append] at hlength
  have hpos : (0 : ℚ) < (values.filter p).length := by exact_mod_cast List.length_pos_iff.mpr h
  have hall : (0 : ℚ) < (values.filter p).length + (values.filter fun x => !p x).length := by positivity
  rw [mean, mean, ← hsum, ← hlength]
  push_cast
  field_simp
  ring

theorem getD_sum (column : ρ → Option ℚ) (rows : List ρ) : (sum column rows).getD 0 = total column rows := by
  unfold sum total
  split
  · next hnil => rw [hnil, Option.getD_none, List.sum_nil]
  · rfl

theorem avg_of_mem {row : ρ} (h : row ∈ rows) (hcolumn : (column row).isSome = true) :
    avg column rows = some (mean (rows.filterMap column)) := by
  rw [avg, if_neg (filterMap_ne_nil h hcolumn)]

theorem total_append (column : ρ → Option ℚ) (rows more : List ρ) :
    total column (rows ++ more) = total column rows + total column more := by
  rw [total, List.filterMap_append, List.sum_append]
  rfl

theorem total_perm {more : List ρ} (h : rows.Perm more) : total column rows = total column more :=
  (h.filterMap column).sum_eq

/-- Splitting the rows by a test splits the total. -/
theorem total_filter_add (column : ρ → Option ℚ) (p : ρ → Bool) (rows : List ρ) :
    total column (rows.filter p) + total column (rows.filter fun row => !p row) = total column rows := by
  rw [← total_append]
  exact total_perm (List.filter_append_perm p rows)

end SmartHome.Aggregate
