import Mathlib.Data.List.Nodup
import Mathlib.Data.List.Pairwise
import SmartHome.Lib.Orm

/-! # Unique columns

No two rows of a table have the same value in a unique column, and whatever a program does with its
sessions it stays so. -/

namespace SmartHome.Orm

variable {κ ρ ε α : Type} {m : Mapper κ ρ ε} {sid : SessionId} {w : World ρ ε}
variable [DecidableEq κ]

/-! ### Rows that do not collide -/

/-- No two rows have the same value in a unique column. -/
def Mapper.Distinct (m : Mapper κ ρ ε) (rows : List ρ) : Prop := rows.Pairwise fun a b => m.collides a b = false

/-- To have the same value in some unique column is symmetric. -/
def Mapper.Symmetric (m : Mapper κ ρ ε) : Prop := ∀ a b, m.clash a b = m.clash b a

theorem collides_comm (hsymm : m.Symmetric) (a b : ρ) : m.collides a b = m.collides b a := by
  unfold Mapper.collides Mapper.sameKey
  rw [hsymm a b, Bool.beq_comm]

theorem key_ne_of_not_collides {a b : ρ} (h : m.collides a b = false) : m.key a ≠ m.key b := by
  rw [Mapper.collides, Bool.or_eq_false_iff] at h
  exact Ne.symm (beq_eq_false_iff_ne.mp h.1)

namespace Mapper.Distinct
variable {rows : List ρ}

theorem not_collides (hsymm : m.Symmetric) (h : m.Distinct rows) {a b : ρ} (ha : a ∈ rows) (hb : b ∈ rows)
    (hne : a ≠ b) : m.collides a b = false := by
  have symm : Std.Symm fun a b => m.collides a b = false := ⟨fun a b hab => by rw [collides_comm hsymm, hab]⟩
  exact List.Pairwise.forall h ha hb hne

theorem keys (h : m.Distinct rows) : (rows.map m.key).Nodup :=
  List.pairwise_map.mpr (List.Pairwise.imp key_ne_of_not_collides h)

/-- Rows with the same key are the same row. -/
theorem eq_of_key (h : m.Distinct rows) {a b : ρ} (ha : a ∈ rows) (hb : b ∈ rows) (hkey : m.key a = m.key b) : a = b :=
  List.inj_on_of_nodup_map h.keys ha hb hkey

/-- A query by the value of a unique column finds one row at most. -/
theorem filter_cases (h : m.Distinct rows) {p : ρ → Bool}
    (hp : ∀ a b, p a = true → p b = true → m.collides a b = true) :
    (rows.filter p = [] ∧ ∀ row ∈ rows, p row = false) ∨ ∃ row ∈ rows, p row = true ∧ rows.filter p = [row] := by
  cases hfilter : rows.filter p with
  | nil =>
    rw [List.filter_eq_nil_iff] at hfilter
    exact Or.inl ⟨rfl, fun row hrow => Bool.eq_false_iff.mpr (hfilter row hrow)⟩
  | cons a rest =>
    have hmem : ∀ row ∈ a :: rest, row ∈ rows ∧ p row = true := fun row hrow => by
      rw [← hfilter] at hrow
      exact List.mem_filter.mp hrow
    have hpairs : (a :: rest).Pairwise fun a b => m.collides a b = false := hfilter ▸ List.Pairwise.filter p h
    obtain ⟨ha, hpa⟩ := hmem a (List.mem_cons_self ..)
    refine Or.inr ⟨a, ha, hpa, ?_⟩
    cases rest with
    | nil => rfl
    | cons b rest =>
      have hb := hmem b (List.mem_cons_of_mem _ (List.mem_cons_self ..))
      have hfree := (List.pairwise_cons.mp hpairs).1 b (List.mem_cons_self ..)
      rw [hp a b hpa hb.2] at hfree
      cases hfree

variable [DecidableEq ρ]

theorem write (hsymm : m.Symmetric) (h : m.Distinct rows) {o : Obj ρ} {rows' : List ρ}
    (hwrite : m.write rows o = .ok rows') : m.Distinct rows' := by
  cases Mapper.written_of_write hwrite with
  | insert loaded fits free =>
    refine List.pairwise_append.mpr ⟨h, List.pairwise_singleton _ _, fun a ha b hb => ?_⟩
    rw [List.mem_singleton] at hb
    subst hb
    rw [collides_comm hsymm]
    exact free a ha
  | delete old loaded doomed => exact List.Pairwise.filter _ h
  | keep loaded live => exact h
  | update old loaded live changed fits free =>
    refine List.pairwise_map.mpr (List.Pairwise.imp_of_mem (fun {a b} ha hb hab => ?_) h)
    have hkeys := key_ne_of_not_collides hab
    by_cases haold : m.sameKey old a = true
    · have hbold : m.sameKey old b = false := by
        refine beq_eq_false_iff_ne.mpr fun hb => hkeys ?_
        rw [hb, beq_iff_eq.mp haold]
      rw [if_pos haold, if_neg (Bool.eq_false_iff.mp hbold)]
      exact free b hb hbold
    · rw [if_neg haold]
      by_cases hbold : m.sameKey old b = true
      · rw [if_pos hbold, collides_comm hsymm]
        exact free a ha (Bool.eq_false_iff.mpr haold)
      · rw [if_neg hbold]
        exact hab

theorem foldlM_write (hsymm : m.Symmetric) {objects : List (Obj ρ)} {rows' : List ρ} (h : m.Distinct rows)
    (hwrite : objects.foldlM m.write rows = .ok rows') : m.Distinct rows' := by
  induction objects generalizing rows with
  | nil =>
    cases hwrite
    exact h
  | cons o objects ih =>
    rw [List.foldlM_cons] at hwrite
    cases hone : m.write rows o with
    | error e =>
      rw [hone] at hwrite
      cases hwrite
    | ok mid =>
      rw [hone] at hwrite
      exact ih (h.write hsymm hone) hwrite

end Mapper.Distinct

/-! ### What every program keeps -/

/-- Neither the committed rows nor those that a transaction sees collide. -/
structure World.Distinct (m : Mapper κ ρ ε) (w : World ρ ε) : Prop where
  committed : m.Distinct w.rows
  seen : ∀ sid, m.Distinct (w.session sid).rows

/-- The program keeps the keys distinct. -/
def KeepsDistinct (m : Mapper κ ρ ε) (s t : World ρ ε) : Prop := s.Distinct m → t.Distinct m

theorem KeepsDistinct.refl (s : World ρ ε) : KeepsDistinct m s s := fun h => h

theorem KeepsDistinct.trans {s t u : World ρ ε} (hst : KeepsDistinct m s t) (htu : KeepsDistinct m t u) :
    KeepsDistinct m s u :=
  fun h => htu (hst h)

theorem KeepsDistinct.of_rows {s t : World ρ ε} (hrows : t.rows = s.rows)
    (hseen : ∀ sid, (t.session sid).rows = (s.session sid).rows) : KeepsDistinct m s t := fun h =>
  ⟨hrows ▸ h.committed, fun sid => hseen sid ▸ h.seen sid⟩

theorem World.Distinct.putSession {s : Session ρ} (h : w.Distinct m) (hs : m.Distinct s.rows) :
    (w.putSession sid s).Distinct m := by
  refine ⟨h.committed, fun other => ?_⟩
  unfold World.putSession
  dsimp only
  split
  · exact hs
  · exact h.seen other

theorem World.Distinct.openSession (h : w.Distinct m) : w.openSession.Distinct m := by
  have hput : (w.putSession w.sessions { rows := w.rows }).Distinct m := h.putSession h.committed
  exact ⟨h.committed, hput.seen⟩

theorem attach_keepsDistinct (o : Obj ρ) : KeepsDistinct m w (w.attach sid o) := fun h => by
  have hput : (w.putSession sid { w.session sid with objects := (w.session sid).objects ++ [w.refs] }).Distinct m :=
    h.putSession (h.seen sid)
  exact ⟨h.committed, hput.seen⟩

theorem call_keepsDistinct (c : DbCall) : Eff.Keeps (KeepsDistinct m) (call m sid c) := fun w => by
  unfold call
  split
  · exact .refl w
  · split <;> exact .refl w

theorem load_keepsDistinct (row : ρ) : Eff.Keeps (KeepsDistinct m) (load m sid row) := fun w => by
  unfold load
  split
  · exact .refl w
  · exact attach_keepsDistinct _

theorem loadAll_keepsDistinct (rows : List ρ) : Eff.Keeps (KeepsDistinct m) (loadAll m sid rows) := by
  induction rows with
  | nil => exact .pure KeepsDistinct.refl _
  | cons row rows ih =>
    exact .bind (R := KeepsDistinct m) KeepsDistinct.trans (load_keepsDistinct row) fun r =>
      .bind (R := KeepsDistinct m) KeepsDistinct.trans ih fun rs => .pure KeepsDistinct.refl _

theorem select_keepsDistinct (query : List ρ → List ρ) : Eff.Keeps (KeepsDistinct m) (select m sid query) :=
  .bind (R := KeepsDistinct m) KeepsDistinct.trans (call_keepsDistinct _) fun _ =>
    .bind (R := KeepsDistinct m) KeepsDistinct.trans (.gets KeepsDistinct.refl _) fun rows => loadAll_keepsDistinct rows

theorem scalarOneOrNone_keepsDistinct (rs : List Ref) : Eff.Keeps (KeepsDistinct m) (scalarOneOrNone m rs) := fun w => by
  unfold scalarOneOrNone
  split <;> exact .refl w

theorem read_keepsDistinct (r : Ref) : Eff.Keeps (KeepsDistinct m) (read m r) :=
  .bind (R := KeepsDistinct m) KeepsDistinct.trans (.gets KeepsDistinct.refl _) fun o => fun w => by
    cases o <;> exact .refl w

theorem assign_keepsDistinct (r : Ref) (f : ρ → ρ) :
    Eff.Keeps (KeepsDistinct m) (assign r f : Eff (World ρ ε) ε Unit) := fun w => by
  unfold assign Eff.modify
  dsimp only
  split
  · exact .of_rows rfl fun _ => rfl
  · exact .refl w

theorem add_keepsDistinct (v : ρ) : Eff.Keeps (KeepsDistinct m) (add sid v : Eff (World ρ ε) ε Ref) := fun _ =>
  attach_keepsDistinct _

theorem refresh_keepsDistinct (r : Ref) : Eff.Keeps (KeepsDistinct m) (refresh m sid r) := fun w => by
  unfold refresh
  split
  · refine Eff.Keeps.bind (R := KeepsDistinct m) KeepsDistinct.trans (call_keepsDistinct _) (fun _ => ?_) w
    split
    · exact fun w => .of_rows rfl fun _ => rfl
    · exact .raise KeepsDistinct.refl _
  · exact .refl w

theorem delete_keepsDistinct (r : Ref) : Eff.Keeps (KeepsDistinct m) (delete m sid r) := fun w => by
  unfold delete
  split
  · split
    · exact .of_rows rfl fun _ => rfl
    · exact .refl w
  · exact .refl w

theorem rollback_keepsDistinct : Eff.Keeps (KeepsDistinct m) (rollback sid : Eff (World ρ ε) ε Unit) := fun _ h =>
  h.putSession h.committed

theorem withSession_keepsDistinct {body : SessionId → Eff (World ρ ε) ε α}
    (hbody : ∀ sid, Eff.Keeps (KeepsDistinct m) (body sid)) : Eff.Keeps (KeepsDistinct m) (withSession body) :=
  fun w h => (hbody w.sessions w.openSession h.openSession).putSession List.Pairwise.nil

variable [DecidableEq ρ]

theorem flushed_distinct (hsymm : m.Symmetric) {rows : List ρ} (h : m.Distinct (w.session sid).rows)
    (hflush : w.flushed m sid = .ok rows) : m.Distinct rows := by
  unfold World.flushed at hflush
  split at hflush
  · cases hflush
    exact h
  split at hflush
  · cases hflush
  split at hflush
  · cases hflush
  split at hflush
  · next hwrite =>
    cases hflush
    exact h.foldlM_write hsymm hwrite
  · cases hflush

theorem flush_keepsDistinct (hsymm : m.Symmetric) : Eff.Keeps (KeepsDistinct m) (flush m sid) := fun w h => by
  unfold flush
  split
  · next hflush => exact ⟨h.committed, (h.putSession (flushed_distinct hsymm (h.seen sid) hflush)).seen⟩
  · exact h.putSession (h.seen sid)

theorem commit_keepsDistinct (hsymm : m.Symmetric) : Eff.Keeps (KeepsDistinct m) (commit m sid) :=
  .bind (R := KeepsDistinct m) KeepsDistinct.trans (flush_keepsDistinct hsymm) fun _ =>
    .bind (R := KeepsDistinct m) KeepsDistinct.trans (call_keepsDistinct _) fun _ => fun _ h => ⟨h.seen sid, h.seen⟩

end SmartHome.Orm
