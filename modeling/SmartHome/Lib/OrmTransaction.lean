import SmartHome.Lib.OrmSync

/-! # Transactions of a request

A session of its own for a piece of work, committed when the work returns. Work that raises, and a commit that
raises, leave the committed rows as they were. -/

namespace SmartHome.Orm

variable {κ ρ ε α : Type} {w t : World ρ ε}

theorem add_within {sid : SessionId} (v : ρ) : Eff.Keeps (Within sid) (add sid v : Eff (World ρ ε) ε Ref) := fun w => by
  refine ⟨rfl, Nat.le_succ _, fun r hr => ?_⟩
  rw [add, World.attach_session, List.mem_append, List.mem_singleton] at hr
  rcases hr with hr | rfl
  · exact Or.inl hr
  · exact Or.inr ⟨Nat.le_refl _, Nat.lt_succ_self _⟩

theorem assignAll_within {sid : SessionId} (f : ρ → ρ) (rs : List Ref) :
    Eff.Keeps (Within sid) (assignAll f rs : Eff (World ρ ε) ε Unit) := by
  induction rs with
  | nil => exact .pure (Within.refl sid) _
  | cons r rs ih => exact .bind (R := Within sid) Within.trans (assign_within r f) fun _ => ih

theorem delete_within {m : Mapper κ ρ ε} {sid : SessionId} (r : Ref) : Eff.Keeps (Within sid) (delete m sid r) := fun w => by
  unfold delete
  split
  · split
    · exact .of_objects rfl rfl fun _ hr => hr
    · exact .refl sid w
  · exact .refl sid w

variable [DecidableEq κ] [DecidableEq ρ] {m : Mapper κ ρ ε}

/-- Commits when the body returns, rolls back when the body or the commit raises, and closes the session. -/
def transaction (m : Mapper κ ρ ε) (body : SessionId → Eff (World ρ ε) ε α) : Eff (World ρ ε) ε α :=
  withSession fun sid =>
    (do let a ← body sid; commit m sid; pure a : Eff (World ρ ε) ε α).attempt fun e => do
      rollback sid
      Eff.raise e

theorem commit_error_rows {sid : SessionId} {e : ε} (h : commit m sid w = (.error e, t)) : t.rows = w.rows := by
  unfold commit at h
  rw [Eff.bind_run] at h
  have hflush : Within sid w (flush m sid w).2 := flush_within w
  rcases hrun : flush m sid w with ⟨e' | _, u⟩ <;> rw [hrun] at h hflush
  · cases h
    exact hflush.rows
  · dsimp only at h
    rw [Eff.bind_run] at h
    have hcall : Within sid u (call m sid .commit u).2 := call_within .commit u
    rcases hcommit : call m sid .commit u with ⟨e' | _, v⟩ <;> rw [hcommit] at h hcall
    · cases h
      exact hcall.rows.trans hflush.rows
    · cases h

theorem transaction_of_ok {body : SessionId → Eff (World ρ ε) ε α} {a : α} {u v : World ρ ε}
    (hbody : body w.sessions w.openSession = (.ok a, u)) (hcommit : commit m w.sessions u = (.ok (), v)) :
    transaction m body w = (.ok a, v.putSession w.sessions {}) := by
  refine withSession_run (Eff.attempt_of_ok ?_)
  rw [Eff.bind_of_ok hbody, Eff.bind_of_ok hcommit]
  rfl

theorem transaction_of_error {body : SessionId → Eff (World ρ ε) ε α} {e : ε} {u : World ρ ε}
    (hbody : body w.sessions w.openSession = (.error e, u)) :
    transaction m body w = (.error e, (rollback w.sessions u : Except ε Unit × World ρ ε).2.putSession w.sessions {}) := by
  refine withSession_run ((Eff.attempt_of_error ?_).trans rfl)
  rw [Eff.bind_of_error hbody]

theorem transaction_of_commit_error {body : SessionId → Eff (World ρ ε) ε α} {a : α} {e : ε} {u v : World ρ ε}
    (hbody : body w.sessions w.openSession = (.ok a, u)) (hcommit : commit m w.sessions u = (.error e, v)) :
    transaction m body w = (.error e, (rollback w.sessions v : Except ε Unit × World ρ ε).2.putSession w.sessions {}) := by
  refine withSession_run ((Eff.attempt_of_error ?_).trans rfl)
  rw [Eff.bind_of_ok hbody, Eff.bind_of_error hcommit]

theorem transaction_ok {body : SessionId → Eff (World ρ ε) ε α} {a : α} (h : transaction m body w = (.ok a, t)) :
    ∃ u v, body w.sessions w.openSession = (.ok a, u) ∧ commit m w.sessions u = (.ok (), v) ∧ t.rows = v.rows := by
  rcases hbody : body w.sessions w.openSession with ⟨e | b, u⟩
  · rw [transaction_of_error hbody] at h
    cases h
  rcases hcommit : commit m w.sessions u with ⟨e | _, v⟩
  · rw [transaction_of_commit_error hbody hcommit] at h
    cases h
  · rw [transaction_of_ok hbody hcommit] at h
    cases h
    exact ⟨u, v, rfl, hcommit, rfl⟩

/-- Nothing is committed for work that raises. -/
theorem transaction_error {body : SessionId → Eff (World ρ ε) ε α} {e : ε}
    (hwithin : ∀ sid, Eff.Keeps (Within sid) (body sid)) (h : transaction m body w = (.error e, t)) : t.rows = w.rows := by
  have hrows := (hwithin w.sessions w.openSession).rows
  rcases hbody : body w.sessions w.openSession with ⟨e' | b, u⟩ <;> rw [hbody] at hrows
  · rw [transaction_of_error hbody] at h
    cases h
    exact hrows
  rcases hcommit : commit m w.sessions u with ⟨e' | _, v⟩
  · rw [transaction_of_commit_error hbody hcommit] at h
    cases h
    exact (commit_error_rows hcommit).trans hrows
  · rw [transaction_of_ok hbody hcommit] at h
    cases h

end SmartHome.Orm
