import SmartHome.Lib.OrmSync

/-! # Rows that a session does not write

A flush writes the rows of the objects that have changed. A row of which the session has no changed object is in the
table after the flush as before, and after the commit. -/

namespace SmartHome.Orm

variable {κ ρ ε α : Type} {m : Mapper κ ρ ε} {sid : SessionId} {w t : World ρ ε} {x : ρ}
variable [DecidableEq ρ]

/-! ### What a session spares -/

/-- The write of this object leaves the row alone. -/
def Obj.Spares (m : Mapper κ ρ ε) (x : ρ) (o : Obj ρ) : Prop := ∀ old, o.loaded = some old → m.key x ≠ m.key old

/-- The session sees the row, and has no changed object of it. -/
structure Spares (m : Mapper κ ρ ε) (sid : SessionId) (x : ρ) (w : World ρ ε) : Prop where
  row : x ∈ (w.session sid).rows
  dirty : ∀ o ∈ w.dirty sid, o.Spares m x

theorem mem_dirty_iff {o : Obj ρ} :
    o ∈ w.dirty sid ↔ ∃ r ∈ (w.session sid).objects, w.object r = some o ∧ o.dirty = true := by
  simp only [World.dirty, List.mem_filterMap, Option.filter_eq_some_iff]

namespace Spares

/-- An object is changed, of another row or of none. -/
theorem putObject (h : Spares m sid x w) {r : Ref} {o : Obj ρ} (hspares : o.dirty = true → o.Spares m x) :
    Spares m sid x (w.putObject r o) where
  row := h.row
  dirty o' ho' := by
    obtain ⟨r', hr', hobject, hdirty⟩ := mem_dirty_iff.mp ho'
    by_cases heq : r' = r
    · rw [heq, World.putObject_self, Option.some.injEq] at hobject
      subst hobject
      exact hspares hdirty
    · have hold : w.object r' = some o' := (if_neg heq).symm.trans hobject
      exact h.dirty o' (mem_dirty_iff.mpr ⟨r', hr', hold, hdirty⟩)

theorem attach (h : Spares m sid x w) {o : Obj ρ} (hspares : o.dirty = true → o.Spares m x) :
    Spares m sid x (w.attach sid o) where
  row := by
    rw [World.attach_session]
    exact h.row
  dirty o' ho' := by
    obtain ⟨r', hr', hobject, hdirty⟩ := mem_dirty_iff.mp ho'
    by_cases heq : r' = w.refs
    · rw [heq, World.attach_object, Option.some.injEq] at hobject
      subst hobject
      exact hspares hdirty
    · rw [attach_object_of_ne heq] at hobject
      rw [World.attach_session, List.mem_append, List.mem_singleton] at hr'
      exact h.dirty o' (mem_dirty_iff.mpr ⟨r', hr'.resolve_right heq, hobject, hdirty⟩)

theorem add (h : Spares m sid x w) {v : ρ} {r : Ref} (hrun : add sid v w = (.ok r, t)) : Spares m sid x t := by
  cases hrun
  refine h.attach fun _ old hold => ?_
  cases hold

theorem assign (h : Spares m sid x w) {r : Ref} {row : ρ} {f : ρ → ρ} (hr : Holds sid w r row) (hne : m.key x ≠ m.key row)
    (hrun : assign r f w = (.ok (), t)) : Spares m sid x t := by
  unfold Orm.assign Eff.modify at hrun
  simp only [hr.2] at hrun
  cases hrun
  refine h.putObject fun _ old hold => ?_
  cases hold
  exact hne

theorem delete (h : Spares m sid x w) {r : Ref} {row : ρ} (hr : Holds sid w r row) (hne : m.key x ≠ m.key row)
    (hrun : delete m sid r w = (.ok (), t)) : Spares m sid x t := by
  unfold Orm.delete at hrun
  simp only [hr.2] at hrun
  split at hrun
  · cases hrun
    refine h.putObject fun _ old hold => ?_
    cases hold
    exact hne
  · cases hrun

end Spares

/-! ### What is written -/

variable [DecidableEq κ]

theorem mem_write {o : Obj ρ} {rows rows' : List ρ} (hx : x ∈ rows) (hspares : o.Spares m x)
    (hwrite : m.write rows o = .ok rows') : x ∈ rows' := by
  cases Mapper.written_of_write hwrite with
  | insert => exact List.mem_append_left _ hx
  | delete old loaded doomed =>
    refine List.mem_filter.mpr ⟨hx, ?_⟩
    rw [Mapper.sameKey, beq_eq_false_iff_ne.mpr (hspares old loaded), Bool.not_false]
  | keep => exact hx
  | update old loaded live changed fits free =>
    refine List.mem_map.mpr ⟨x, hx, ?_⟩
    rw [if_neg]
    rw [Mapper.sameKey, beq_iff_eq]
    exact hspares old loaded

theorem mem_foldlM_write {objects : List (Obj ρ)} {rows rows' : List ρ} (hx : x ∈ rows)
    (hspares : ∀ o ∈ objects, o.Spares m x) (hwrite : objects.foldlM m.write rows = .ok rows') : x ∈ rows' := by
  induction objects generalizing rows with
  | nil =>
    cases hwrite
    exact hx
  | cons o objects ih =>
    rw [List.forall_mem_cons] at hspares
    rw [List.foldlM_cons] at hwrite
    cases hone : m.write rows o with
    | error e =>
      rw [hone] at hwrite
      cases hwrite
    | ok mid =>
      rw [hone] at hwrite
      exact ih (mem_write hx hspares.1 hone) hspares.2 hwrite

namespace Spares

theorem of_synced (h : Synced m sid w) (hx : x ∈ (w.session sid).rows) : Spares m sid x w where
  row := hx
  dirty o ho := by
    rw [Synced.dirty h] at ho
    cases ho

theorem flush (h : Spares m sid x w) (hrun : flush m sid w = (.ok (), t)) : Spares m sid x t := by
  obtain ⟨rows, hwrite, rfl⟩ := flush_ok hrun
  refine ⟨?_, fun o ho => ?_⟩
  · rw [World.settle, World.putSession_self]
    exact mem_foldlM_write h.row h.dirty hwrite
  · -- After a flush no attached object is changed.
    obtain ⟨r, hr, hobject, hdirty⟩ := mem_dirty_iff.mp ho
    rw [World.settle, World.putSession_self] at hr
    have hattached : r ∈ (w.session sid).objects := List.mem_of_mem_filter hr
    simp only [World.settle, if_pos hattached, Option.map_eq_some_iff] at hobject
    obtain ⟨before, -, rfl⟩ := hobject
    simp [Obj.dirty] at hdirty

theorem refresh (h : Spares m sid x w) {r : Ref} (hrun : refresh m sid r w = (.ok (), t)) : Spares m sid x t := by
  unfold Orm.refresh at hrun
  split at hrun
  · obtain ⟨_, v, hcall, hrest⟩ := Eff.bind_eq_ok.mp hrun
    obtain ⟨rfl, -⟩ := call_ok hcall
    cases hfind : (v.session sid).rows.find? fun row => some (m.key row) == v.identity m r with
    | none =>
      rw [hfind] at hrest
      cases hrest
    | some row =>
      rw [hfind] at hrest
      cases hrest
      refine h.putObject fun hdirty => ?_
      simp [Obj.dirty] at hdirty
  · cases hrun

theorem commit (h : Spares m sid x w) (hrun : commit m sid w = (.ok (), t)) : x ∈ t.rows := by
  obtain ⟨_, u, hflush, hrest⟩ := Eff.bind_eq_ok.mp hrun
  obtain ⟨_, v, hcall, hmodify⟩ := Eff.bind_eq_ok.mp hrest
  obtain ⟨rfl, -⟩ := call_ok hcall
  cases hmodify
  exact (h.flush hflush).row

end Spares
end SmartHome.Orm
