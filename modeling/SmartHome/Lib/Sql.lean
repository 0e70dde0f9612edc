import Mathlib.Data.List.Infix

/-! # SQL statements on a table

A table is a list of rows. `LIKE` is matched without escapes. -/

namespace SmartHome.Sql

variable {ρ : Type}

/-- `text LIKE pattern`: `%` stands for any text, and `_` for any one character. -/
def like : (pattern text : List Char) → Bool
  | [], text => text.isEmpty
  | p :: pattern, text =>
    if p = '%' then text.tails.any (like pattern)
    else (text.head?.any fun c => p = '_' || p = c) && like pattern text.tail

/-- `SELECT COUNT(*) FROM table WHERE p`. -/
def count (p : ρ → Bool) (table : List ρ) : ℕ := table.countP p

/-- `UPDATE table SET f WHERE p`. -/
def update (p : ρ → Bool) (f : ρ → ρ) (table : List ρ) : List ρ := table.map fun row => if p row then f row else row

/-- A pattern of a plain text and `%` asks for the beginning. -/
theorem like_beginning {start : List Char} (hplain : '%' ∉ start ∧ '_' ∉ start) (text : List Char) :
    like (start ++ ['%']) text = start.isPrefixOf text := by
  induction start generalizing text with
  | nil =>
    have hany : text.tails.any (like []) = true := by
      rw [List.any_eq_true]
      exact ⟨[], (List.mem_tails _ _).mpr List.nil_suffix, rfl⟩
    rw [List.nil_append, like, if_pos rfl, hany]
    rfl
  | cons p start ih =>
    obtain ⟨hpercent, hunderscore⟩ := hplain
    rw [List.mem_cons, not_or] at hpercent hunderscore
    rw [List.cons_append, like, if_neg (Ne.symm hpercent.1)]
    cases text with
    | nil => rfl
    | cons c rest =>
      have hp : decide (p = '_') = false := decide_eq_false (Ne.symm hunderscore.1)
      rw [List.tail_cons, ih ⟨hpercent.2, hunderscore.2⟩, List.head?_cons, Option.any_some, hp, Bool.false_or,
        List.isPrefixOf]
      rfl

theorem count_pos {p : ρ → Bool} {table : List ρ} : 0 < count p table ↔ ∃ row ∈ table, p row = true :=
  List.countP_pos_iff

/-- An UPDATE that finds every row of its condition as it would write it. -/
theorem update_eq_self {p : ρ → Bool} {f : ρ → ρ} {table : List ρ} (h : ∀ row ∈ table, p row = true → f row = row) :
    update p f table = table := by
  refine (List.map_congr_left fun row hrow => ?_).trans (List.map_id table)
  split
  · next hp => exact h row hrow hp
  · rfl

/-- An UPDATE that is made only if a count of rows finds some does, when the rows it would change are among the
    counted ones, what it does without the question. -/
theorem update_if_counted {p counted : ρ → Bool} {f : ρ → ρ} {table : List ρ}
    (h : ∀ row ∈ table, p row = true → counted row = false → f row = row) :
    (if 0 < count counted table then update p f table else table) = update p f table := by
  split
  · rfl
  · next hnone =>
    rw [count_pos, not_exists] at hnone
    refine (update_eq_self fun row hrow hp => h row hrow hp ?_).symm
    exact Bool.eq_false_iff.mpr fun hcounted => hnone row ⟨hrow, hcounted⟩

end SmartHome.Sql
