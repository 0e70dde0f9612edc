import Mathlib.Data.List.Basic
import Mathlib.Order.Nat

/-! # Grouped queries with bind parameters

A query is sent with its literals as parameters, each with a number of its own, even where two literals are the same. In
a grouped query a column may be read only inside an aggregate or as part of an expression that is grouped by, and two
expressions are the same only if their parameters are. -/

namespace SmartHome.Grouping

/-- An expression over the literals that the code writes, or over the numbers of the parameters. -/
inductive Expr (β : Type) where
  | value (v : β)
  | column (name : String)
  | unary (operation : String) (operand : Expr β)
  | binary (operation : String) (first second : Expr β)
  | aggregate (function : String) (argument : Expr β)
  deriving DecidableEq

/-- The parts of a query that hold expressions, in the order of its text. -/
structure Query (β : Type) where
  selected : List (Expr β)
  conditions : List (Expr β)
  groupBy : List (Expr β)
  orderBy : List (Expr β)

section
variable {α β : Type}

namespace Expr

/-- The expression with its literals numbered from `n` on, and the next number. -/
def bind : Expr α → ℕ → Expr ℕ × ℕ
  | value _, n => (value n, n + 1)
  | column name, n => (column name, n)
  | unary operation operand, n => (unary operation (operand.bind n).1, (operand.bind n).2)
  | binary operation first second, n =>
    (binary operation (first.bind n).1 (second.bind (first.bind n).2).1, (second.bind (first.bind n).2).2)
  | aggregate function argument, n => (aggregate function (argument.bind n).1, (argument.bind n).2)

/-- The values in an expression. -/
def values : Expr β → List β
  | value v => [v]
  | column _ => []
  | unary _ operand => operand.values
  | binary _ first second => first.values ++ second.values
  | aggregate _ argument => argument.values

/-- Every column is read inside an aggregate. -/
def aggregated : Expr β → Bool
  | value _ => true
  | column _ => false
  | unary _ operand => operand.aggregated
  | binary _ first second => first.aggregated && second.aggregated
  | aggregate _ _ => true

/-- Every column is read inside an aggregate or as part of a key. -/
def grouped [DecidableEq β] (keys : List (Expr β)) : Expr β → Bool
  | value _ => true
  | column name => column name ∈ keys
  | unary operation operand => unary operation operand ∈ keys || operand.grouped keys
  | binary operation first second =>
    binary operation first second ∈ keys || (first.grouped keys && second.grouped keys)
  | aggregate _ _ => true

end Expr

/-- The expressions of a part of a query, numbered one after the other. -/
def bindAll : List (Expr α) → ℕ → List (Expr ℕ) × ℕ
  | [], n => ([], n)
  | e :: es, n => ((e.bind n).1 :: (bindAll es (e.bind n).2).1, (bindAll es (e.bind n).2).2)

namespace Query

/-- The query as it is sent. -/
def bind (q : Query α) : Query ℕ :=
  let (selected, n) := bindAll q.selected 1
  let (conditions, n) := bindAll q.conditions n
  let (groupBy, n) := bindAll q.groupBy n
  { selected, conditions, groupBy, orderBy := (bindAll q.orderBy n).1 }

/-- The check of a grouped query before it runs. -/
def valid [DecidableEq β] (q : Query β) : Bool := (q.selected ++ q.orderBy).all (Expr.grouped q.groupBy)

end Query

/-! ### The numbers of the parameters -/

theorem Expr.le_bind (e : Expr α) (n : ℕ) : n ≤ (e.bind n).2 := by
  induction e generalizing n with
  | value v => exact Nat.le_succ n
  | column name => exact le_rfl
  | unary operation operand ih => exact ih n
  | binary operation first second ih₁ ih₂ => exact (ih₁ n).trans (ih₂ _)
  | aggregate function argument ih => exact ih n

/-- The numbers are taken in turn. -/
theorem Expr.values_bind {e : Expr α} {n p : ℕ} (h : p ∈ (e.bind n).1.values) : n ≤ p ∧ p < (e.bind n).2 := by
  induction e generalizing n with
  | value v =>
    obtain rfl := List.mem_singleton.mp h
    exact ⟨le_rfl, Nat.lt_succ_self p⟩
  | column name => cases h
  | unary operation operand ih => exact ih h
  | binary operation first second ih₁ ih₂ =>
    have hfirst := first.le_bind n
    have hsecond := second.le_bind (first.bind n).2
    rcases List.mem_append.mp h with h | h
    · exact ⟨(ih₁ h).1, (ih₁ h).2.trans_le hsecond⟩
    · exact ⟨hfirst.trans (ih₂ h).1, (ih₂ h).2⟩
  | aggregate function argument ih => exact ih h

theorem Expr.values_bind_ne_nil {e : Expr α} (h : e.values ≠ []) (n : ℕ) : (e.bind n).1.values ≠ [] := by
  induction e generalizing n with
  | value v => exact List.cons_ne_nil _ _
  | column name => exact absurd rfl h
  | unary operation operand ih => exact ih h n
  | binary operation first second ih₁ ih₂ =>
    intro hnil
    obtain ⟨hfirst, hsecond⟩ := List.append_eq_nil_iff.mp hnil
    by_cases hempty : first.values = []
    · have hnonempty : second.values ≠ [] := fun heq => h (by rw [values, hempty, heq]; rfl)
      exact ih₂ hnonempty _ hsecond
    · exact ih₁ hempty n hfirst
  | aggregate function argument ih => exact ih h n

theorem Expr.aggregated_bind (e : Expr α) (n : ℕ) : (e.bind n).1.aggregated = e.aggregated := by
  induction e generalizing n with
  | unary operation operand ih => exact ih n
  | binary operation first second ih₁ ih₂ => rw [Expr.bind, aggregated, aggregated, ih₁, ih₂]
  | _ => rfl

theorem le_bindAll (es : List (Expr α)) (n : ℕ) : n ≤ (bindAll es n).2 := by
  induction es generalizing n with
  | nil => exact le_rfl
  | cons e es ih => exact (e.le_bind n).trans (ih _)

theorem mem_bindAll {es : List (Expr α)} {n : ℕ} {e' : Expr ℕ} (h : e' ∈ (bindAll es n).1) :
    ∃ e ∈ es, ∃ k, n ≤ k ∧ e' = (e.bind k).1 ∧ (e.bind k).2 ≤ (bindAll es n).2 := by
  induction es generalizing n with
  | nil => cases h
  | cons e es ih =>
    rcases List.mem_cons.mp h with rfl | h
    · exact ⟨e, List.mem_cons_self .., n, le_rfl, rfl, le_bindAll es _⟩
    · obtain ⟨d, hd, k, hk, heq, hlast⟩ := ih h
      exact ⟨d, List.mem_cons_of_mem e hd, k, (e.le_bind n).trans hk, heq, hlast⟩

theorem exists_bindAll {es : List (Expr α)} {e : Expr α} (h : e ∈ es) (n : ℕ) :
    ∃ k, (e.bind k).1 ∈ (bindAll es n).1 ∧ (e.bind k).2 ≤ (bindAll es n).2 := by
  induction es generalizing n with
  | nil => cases h
  | cons d es ih =>
    rcases List.mem_cons.mp h with rfl | h
    · exact ⟨n, List.mem_cons_self .., le_bindAll es _⟩
    · obtain ⟨k, hmem, hlast⟩ := ih h (d.bind n).2
      exact ⟨k, List.mem_cons_of_mem _ hmem, hlast⟩

/-! ### The keys -/

/-- A key with a later parameter is no part of an expression. -/
theorem Expr.grouped_of_later {keys : List (Expr ℕ)} {n : ℕ} (hkeys : ∀ key ∈ keys, ∃ p ∈ key.values, n ≤ p)
    {e : Expr ℕ} (he : ∀ p ∈ e.values, p < n) : e.grouped keys = e.aggregated := by
  have hnot : ∀ d : Expr ℕ, (∀ p ∈ d.values, p < n) → d ∉ keys := by
    intro d hd hmem
    obtain ⟨p, hp, hle⟩ := hkeys d hmem
    exact absurd (hd p hp) (not_lt.mpr hle)
  induction e with
  | value v => rfl
  | column name => rw [grouped, aggregated, decide_eq_false (hnot _ he)]
  | unary operation operand ih => rw [grouped, decide_eq_false (hnot _ he), Bool.false_or, ih he, aggregated]
  | binary operation first second ih₁ ih₂ =>
    obtain ⟨hfirst, hsecond⟩ := List.forall_mem_append.mp he
    rw [grouped, decide_eq_false (hnot _ he), Bool.false_or, ih₁ hfirst, ih₂ hsecond, aggregated]
  | aggregate function argument ih => rfl

/-- Where every key has a literal, a query that selects a column outside an aggregate is refused. -/
theorem Query.not_valid_of_literals {q : Query α} (hkeys : ∀ key ∈ q.groupBy, key.values ≠ []) {e : Expr α}
    (he : e ∈ q.selected) (hcolumn : e.aggregated = false) : q.bind.valid = false := by
  obtain ⟨k, hmem, hlast⟩ := exists_bindAll he 1
  have hlater : ∀ key ∈ q.bind.groupBy, ∃ p ∈ key.values, (bindAll q.selected 1).2 ≤ p := by
    intro key hkey
    obtain ⟨d, hd, l, hl, rfl, -⟩ := mem_bindAll hkey
    obtain ⟨p, hp⟩ := List.exists_mem_of_ne_nil _ (Expr.values_bind_ne_nil (hkeys d hd) l)
    exact ⟨p, hp, (le_bindAll q.conditions _).trans (hl.trans (Expr.values_bind hp).1)⟩
  have hrefused : ((e.bind k).1).grouped q.bind.groupBy = false := by
    rw [Expr.grouped_of_later hlater fun p hp => (Expr.values_bind hp).2.trans_le hlast, Expr.aggregated_bind, hcolumn]
  refine List.all_eq_false.mpr ⟨_, List.mem_append_left _ hmem, ?_⟩
  rw [hrefused]
  exact Bool.false_ne_true

/-- The same query with its literals in the text would be accepted. -/
example :
    let key : Expr String := .binary "date_trunc" (.value "hour") (.column "recorded_at")
    let query : Query String := { selected := [key], conditions := [], groupBy := [key], orderBy := [key] }
    query.valid = true ∧ query.bind.valid = false := by decide

end
end SmartHome.Grouping
