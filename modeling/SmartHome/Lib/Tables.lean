import SmartHome.Lib.Orm

/-! # Requests on tables

A request that works on its tables in place. Its calls to the database can fail; what it did is undone unless it
returns and commits. -/

namespace SmartHome.Tables
variable {τ ε α : Type} (fails : DbCall → Option ε)

/-- A call of the database, which may fail. -/
def call (c : DbCall) : Eff τ ε Unit :=
  match fails c with
  | none => pure ()
  | some e => Eff.raise e

/-- Commits when the body returns, and rolls back when the body or the commit raises. -/
def transaction (body : Eff τ ε α) : Eff τ ε α := fun s =>
  match (do let a ← body; call fails .commit; pure a : Eff τ ε α) s with
  | (.ok a, t) => (.ok a, t)
  | (.error e, _) => (.error e, s)

variable {fails}

theorem call_ok {c : DbCall} {u : Unit} {s t : τ} (h : call fails c s = (.ok u, t)) : t = s := by
  unfold call at h
  cases hfails : fails c <;> rw [hfails] at h <;> cases h
  rfl

/-- A transaction that is committed leaves the tables as its body does. -/
theorem transaction_ok {body : Eff τ ε α} {s t : τ} {a : α} (h : transaction fails body s = (.ok a, t)) :
    body s = (.ok a, t) := by
  unfold transaction at h
  split at h
  · next b u hrun =>
    cases h
    obtain ⟨b, v, hbody, hrest⟩ := Eff.bind_eq_ok.mp hrun
    obtain ⟨_, w, hcommit, hpure⟩ := Eff.bind_eq_ok.mp hrest
    cases hpure
    rw [hbody, call_ok hcommit]
  · cases h

/-- A request that raises changes nothing. -/
theorem transaction_of_error {body : Eff τ ε α} {s t : τ} {e : ε} (h : transaction fails body s = (.error e, t)) :
    t = s := by
  unfold transaction at h
  split at h <;> cases h
  rfl

end SmartHome.Tables
