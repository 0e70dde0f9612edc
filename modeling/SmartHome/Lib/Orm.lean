import SmartHome.Lib.Eff

/-! # Object-relational sessions

A session loads rows as objects and keeps them attached until it is closed; a flush writes the attached
objects that changed, and no others. Objects outlive the session that loaded them. The world has one
table; one transaction runs at a time, and every call to the database can fail. -/

namespace SmartHome

/-- The calls of the database. -/
inductive DbCall where
  | select
  | flush
  | refresh
  | commit
  deriving DecidableEq, Repr

namespace Orm

/-- An object of a session. -/
abbrev Ref := Nat

/-- The number of a session. -/
abbrev SessionId := Nat

/-- What a session raises by itself. -/
inductive OrmError where
  | integrity
  | data
  /-- The object is not attached to the session, its row is gone, or the session has to be rolled back first. -/
  | invalidRequest
  | stale
  deriving DecidableEq, Repr

/-- A mapped class with rows of type `ρ` under keys of type `κ`. -/
structure Mapper (κ ρ ε : Type) where
  key : ρ → κ
  /-- Some unique column has the same value in both rows. -/
  clash : ρ → ρ → Bool
  fits : ρ → Bool
  error : OrmError → ε

/-- An object in memory, and what is known of its row. -/
structure Obj (ρ : Type) where
  value : ρ
  /-- The row as it was last read or written; `none` before the first flush. -/
  loaded : Option ρ
  doomed : Bool := false

/-- A session. -/
structure Session (ρ : Type) where
  /-- The table as the transaction sees it. -/
  rows : List ρ := []
  objects : List Ref := []
  /-- A flush failed, and the transaction has not been rolled back since. -/
  failed : Bool := false

/-- The database and the sessions. -/
structure World (ρ ε : Type) where
  /-- The committed rows. -/
  rows : List ρ
  object : Ref → Option (Obj ρ) := fun _ => none
  /-- The references from here on are not in use. -/
  refs : Nat := 0
  session : SessionId → Session ρ := fun _ => {}
  /-- The sessions from here on have not been opened. -/
  sessions : Nat := 0
  fails : DbCall → Option ε := fun _ => none

variable {κ ρ ε α β : Type}

namespace World

/-- The session is exchanged. -/
def putSession (w : World ρ ε) (sid : SessionId) (s : Session ρ) : World ρ ε :=
  { w with session := fun other => if other = sid then s else w.session other }

/-- The object is exchanged. -/
def putObject (w : World ρ ε) (r : Ref) (o : Obj ρ) : World ρ ε :=
  { w with object := fun other => if other = r then some o else w.object other }

/-- A new object belongs to the session. -/
def attach (w : World ρ ε) (sid : SessionId) (o : Obj ρ) : World ρ ε :=
  { (w.putObject w.refs o).putSession sid
      { w.session sid with objects := (w.session sid).objects ++ [w.refs] } with
    refs := w.refs + 1 }

/-- A session begins, with the committed rows. -/
def openSession (w : World ρ ε) : World ρ ε :=
  { w.putSession w.sessions { rows := w.rows } with sessions := w.sessions + 1 }

@[simp] theorem putSession_self (w : World ρ ε) (sid : SessionId) (s : Session ρ) :
    (w.putSession sid s).session sid = s := if_pos rfl

@[simp] theorem putSession_rows (w : World ρ ε) (sid : SessionId) (s : Session ρ) :
    (w.putSession sid s).rows = w.rows := rfl

@[simp] theorem putSession_object (w : World ρ ε) (sid : SessionId) (s : Session ρ) :
    (w.putSession sid s).object = w.object := rfl

@[simp] theorem putObject_self (w : World ρ ε) (r : Ref) (o : Obj ρ) : (w.putObject r o).object r = some o := if_pos rfl

@[simp] theorem putObject_session (w : World ρ ε) (r : Ref) (o : Obj ρ) : (w.putObject r o).session = w.session := rfl

@[simp] theorem attach_rows (w : World ρ ε) (sid : SessionId) (o : Obj ρ) : (w.attach sid o).rows = w.rows := rfl

@[simp] theorem attach_refs (w : World ρ ε) (sid : SessionId) (o : Obj ρ) : (w.attach sid o).refs = w.refs + 1 := rfl

@[simp] theorem attach_fails (w : World ρ ε) (sid : SessionId) (o : Obj ρ) : (w.attach sid o).fails = w.fails := rfl

@[simp] theorem attach_object (w : World ρ ε) (sid : SessionId) (o : Obj ρ) :
    (w.attach sid o).object w.refs = some o := if_pos rfl

@[simp] theorem attach_session (w : World ρ ε) (sid : SessionId) (o : Obj ρ) :
    (w.attach sid o).session sid =
      { w.session sid with objects := (w.session sid).objects ++ [w.refs] } := if_pos rfl

@[simp] theorem openSession_rows (w : World ρ ε) : w.openSession.rows = w.rows := rfl

@[simp] theorem openSession_refs (w : World ρ ε) : w.openSession.refs = w.refs := rfl

@[simp] theorem openSession_object (w : World ρ ε) : w.openSession.object = w.object := rfl

@[simp] theorem openSession_session (w : World ρ ε) :
    w.openSession.session w.sessions = { rows := w.rows } := if_pos rfl

end World

/-! ### What a flush writes -/

namespace Mapper
variable [DecidableEq κ] [DecidableEq ρ]

/-- The row has the key of the value. -/
def sameKey (m : Mapper κ ρ ε) (v row : ρ) : Bool := m.key row == m.key v

/-- The table cannot hold both rows. -/
def collides (m : Mapper κ ρ ε) (v row : ρ) : Bool := m.sameKey v row || m.clash v row

/-- The INSERT, UPDATE or DELETE of one object. -/
def write (m : Mapper κ ρ ε) (rows : List ρ) (o : Obj ρ) : Except OrmError (List ρ) :=
  match o.loaded with
  | none =>
    if !m.fits o.value then .error .data
    else if rows.any (m.collides o.value) then .error .integrity
    else .ok (rows ++ [o.value])
  | some old =>
    if o.doomed then .ok (rows.filter fun row => !m.sameKey old row)
    else if o.value = old then .ok rows
    else if !m.fits o.value then .error .data
    else if !rows.any (m.sameKey old) then .error .stale
    else if rows.any fun row => !m.sameKey old row && m.collides o.value row then .error .integrity
    else .ok (rows.map fun row => if m.sameKey old row then o.value else row)

/-- What a write that succeeds makes of the rows. -/
inductive Written (m : Mapper κ ρ ε) (rows : List ρ) (o : Obj ρ) : List ρ → Prop where
  | insert (loaded : o.loaded = none) (fits : m.fits o.value = true)
      (free : ∀ row ∈ rows, m.collides o.value row = false) : Written m rows o (rows ++ [o.value])
  | delete (old : ρ) (loaded : o.loaded = some old) (doomed : o.doomed = true) :
      Written m rows o (rows.filter fun row => !m.sameKey old row)
  | keep (loaded : o.loaded = some o.value) (live : o.doomed = false) : Written m rows o rows
  | update (old : ρ) (loaded : o.loaded = some old) (live : o.doomed = false) (changed : o.value ≠ old)
      (fits : m.fits o.value = true) (free : ∀ row ∈ rows, m.sameKey old row = false → m.collides o.value row = false) :
      Written m rows o (rows.map fun row => if m.sameKey old row then o.value else row)

theorem written_of_write {m : Mapper κ ρ ε} {rows rows' : List ρ} {o : Obj ρ} (h : m.write rows o = .ok rows') :
    m.Written rows o rows' := by
  unfold write at h
  split at h
  · next hloaded =>
    split at h
    · cases h
    next hfits =>
    split at h
    · cases h
    next hfree =>
    cases h
    rw [Bool.not_eq_true, Bool.not_eq_false'] at hfits
    rw [Bool.not_eq_true, List.any_eq_false] at hfree
    exact .insert hloaded hfits fun row hrow => Bool.eq_false_iff.mpr (hfree row hrow)
  · next old hloaded =>
    split at h
    · next hdoomed =>
      cases h
      exact .delete old hloaded hdoomed
    next hlive =>
    rw [Bool.not_eq_true] at hlive
    split at h
    · next hsame =>
      cases h
      exact .keep (hsame ▸ hloaded) hlive
    next hchanged =>
    split at h
    · cases h
    next hfits =>
    split at h
    · cases h
    split at h
    · cases h
    next hfree =>
    cases h
    rw [Bool.not_eq_true, Bool.not_eq_false'] at hfits
    rw [Bool.not_eq_true, List.any_eq_false] at hfree
    refine .update old hloaded hlive hchanged hfits fun row hrow hkey => ?_
    have hrow := hfree row hrow
    rw [hkey, Bool.not_false, Bool.true_and] at hrow
    exact Bool.eq_false_iff.mpr hrow

end Mapper

section Operations
variable [DecidableEq κ] [DecidableEq ρ]

/-- The object differs from its row. -/
def Obj.dirty (o : Obj ρ) : Bool := o.doomed || o.loaded != some o.value

namespace World

/-- The objects that a flush has to write. -/
def dirty (w : World ρ ε) (sid : SessionId) : List (Obj ρ) :=
  (w.session sid).objects.filterMap fun r => (w.object r).filter Obj.dirty

/-- The table after a flush; a flush with nothing to write does not reach the database. -/
def flushed (m : Mapper κ ρ ε) (w : World ρ ε) (sid : SessionId) : Except ε (List ρ) :=
  if (w.dirty sid).isEmpty then .ok (w.session sid).rows
  else if (w.session sid).failed then .error (m.error .invalidRequest)
  else match w.fails .flush with
    | some e => .error e
    | none =>
      match (w.dirty sid).foldlM m.write (w.session sid).rows with
      | .ok rows => .ok rows
      | .error e => .error (m.error e)

/-- The flush succeeded: the attached objects are as their rows, and the deleted ones leave the session. -/
def settle (w : World ρ ε) (sid : SessionId) (rows : List ρ) : World ρ ε :=
  { w.putSession sid
      { w.session sid with
        rows
        objects := (w.session sid).objects.filter fun r => !(w.object r).any Obj.doomed } with
    object := fun r =>
      if r ∈ (w.session sid).objects then (w.object r).map fun o => { value := o.value, loaded := some o.value }
      else w.object r }

/-- The transaction has failed. -/
def fail (w : World ρ ε) (sid : SessionId) : World ρ ε := w.putSession sid { w.session sid with failed := true }

/-- The object belongs to the session and has a row. -/
def persistent (w : World ρ ε) (sid : SessionId) (r : Ref) : Bool :=
  (w.session sid).objects.contains r && (w.object r).any fun o => o.loaded.isSome

/-- The key of the row that the object was loaded from. -/
def identity (m : Mapper κ ρ ε) (w : World ρ ε) (r : Ref) : Option κ := (w.object r).bind fun o => o.loaded.map m.key

end World

/-- A call of the database, if the session may still make one. -/
def call (m : Mapper κ ρ ε) (sid : SessionId) (c : DbCall) : Eff (World ρ ε) ε Unit := fun w =>
  if (w.session sid).failed then (.error (m.error .invalidRequest), w)
  else match w.fails c with
    | some e => (.error e, w)
    | none => (.ok (), w)

/-- The object of a row that was read: the attached one, if there is one for this key. -/
def load (m : Mapper κ ρ ε) (sid : SessionId) (row : ρ) : Eff (World ρ ε) ε Ref := fun w =>
  match (w.session sid).objects.find? fun r => w.identity m r == some (m.key row) with
  | some r => (.ok r, w)
  | none => (.ok w.refs, w.attach sid { value := row, loaded := some row })

/-- The rows as objects, each of them once. -/
def loadAll (m : Mapper κ ρ ε) (sid : SessionId) : List ρ → Eff (World ρ ε) ε (List Ref)
  | [] => pure []
  | row :: rows => do
    let r ← load m sid row
    let rs ← loadAll m sid rows
    pure (r :: rs)

/-- `session.execute(select(..))`, with its objects. -/
def select (m : Mapper κ ρ ε) (sid : SessionId) (query : List ρ → List ρ) : Eff (World ρ ε) ε (List Ref) := do
  call m sid .select
  let rows ← Eff.gets fun w => query (w.session sid).rows
  loadAll m sid rows

/-- `scalar_one_or_none`. -/
def scalarOneOrNone (m : Mapper κ ρ ε) : List Ref → Eff (World ρ ε) ε (Option Ref)
  | [] => pure none
  | [r] => pure (some r)
  | _ => Eff.raise (m.error .invalidRequest)

/-- A look at the columns of an object. -/
def read (m : Mapper κ ρ ε) (r : Ref) : Eff (World ρ ε) ε ρ := do
  match ← Eff.gets fun w => w.object r with
  | some o => pure o.value
  | none => Eff.raise (m.error .invalidRequest)

/-- Assignments to the columns of an object. -/
def assign (r : Ref) (f : ρ → ρ) : Eff (World ρ ε) ε Unit :=
  Eff.modify fun w =>
    match w.object r with
    | some o => w.putObject r { o with value := f o.value }
    | none => w

/-- `session.add`. -/
def add (sid : SessionId) (value : ρ) : Eff (World ρ ε) ε Ref := fun w =>
  (.ok w.refs, w.attach sid { value, loaded := none })

/-- `session.delete`. -/
def delete (m : Mapper κ ρ ε) (sid : SessionId) (r : Ref) : Eff (World ρ ε) ε Unit := fun w =>
  match w.object r with
  | some o => if w.persistent sid r then (.ok (), w.putObject r { o with doomed := true })
    else (.error (m.error .invalidRequest), w)
  | none => (.error (m.error .invalidRequest), w)

/-- `session.flush`. -/
def flush (m : Mapper κ ρ ε) (sid : SessionId) : Eff (World ρ ε) ε Unit := fun w =>
  match w.flushed m sid with
  | .ok rows => (.ok (), w.settle sid rows)
  | .error e => (.error e, w.fail sid)

/-- `session.refresh`. -/
def refresh (m : Mapper κ ρ ε) (sid : SessionId) (r : Ref) : Eff (World ρ ε) ε Unit := fun w =>
  if w.persistent sid r then
    (do
      call m sid .refresh
      match (w.session sid).rows.find? fun row => some (m.key row) == w.identity m r with
      | some row => Eff.modify fun w => w.putObject r { value := row, loaded := some row }
      | none => Eff.raise (m.error .invalidRequest) : Eff (World ρ ε) ε Unit) w
  else (.error (m.error .invalidRequest), w)

/-- `session.commit`. -/
def commit (m : Mapper κ ρ ε) (sid : SessionId) : Eff (World ρ ε) ε Unit := do
  flush m sid
  call m sid .commit
  Eff.modify fun w => { w with rows := (w.session sid).rows }

/-- `session.rollback()`: the added objects leave the session. The attributes stay as they are. -/
def rollback (sid : SessionId) : Eff (World ρ ε) ε Unit :=
  Eff.modify fun w => w.putSession sid { rows := w.rows, objects := (w.session sid).objects.filter (w.persistent sid) }

/-- `async with session_factory() as session`. -/
def withSession (body : SessionId → Eff (World ρ ε) ε α) : Eff (World ρ ε) ε α := fun w =>
  ((body w.sessions w.openSession).1, (body w.sessions w.openSession).2.putSession w.sessions {})

end Operations

/-! ### What a session keeps until it commits -/

/-- From `s` to `t` the session committed nothing, and attached only new objects. -/
structure Within (sid : SessionId) (s t : World ρ ε) : Prop where
  rows : t.rows = s.rows
  refs : s.refs ≤ t.refs
  attached : ∀ r : Nat, r ∈ (t.session sid).objects → r ∈ (s.session sid).objects ∨ s.refs ≤ r ∧ r < t.refs

namespace Within

theorem refl (sid : SessionId) (s : World ρ ε) : Within sid s s := ⟨rfl, Nat.le_refl _, fun _ hr => Or.inl hr⟩

theorem trans {sid : SessionId} {s t u : World ρ ε} (hst : Within sid s t) (htu : Within sid t u) : Within sid s u where
  rows := htu.rows.trans hst.rows
  refs := Nat.le_trans hst.refs htu.refs
  attached r hr := by
    have hst_refs := hst.refs
    have htu_refs := htu.refs
    rcases htu.attached r hr with hr | hr
    · rcases hst.attached r hr with hr | hr
      · exact Or.inl hr
      · exact Or.inr (by omega)
    · exact Or.inr (by omega)

theorem of_objects {sid : SessionId} {s t : World ρ ε} (hrows : t.rows = s.rows) (hrefs : t.refs = s.refs)
    (hobjects : ∀ r ∈ (t.session sid).objects, r ∈ (s.session sid).objects) : Within sid s t :=
  ⟨hrows, Nat.le_of_eq hrefs.symm, fun r hr => Or.inl (hobjects r hr)⟩

end Within

/-- From `s` to `t` the session detached nothing. -/
def Grows (sid : SessionId) (s t : World ρ ε) : Prop := (s.session sid).objects ⊆ (t.session sid).objects

section Keeps
variable {m : Mapper κ ρ ε} {sid : SessionId}

theorem call_within (c : DbCall) : Eff.Keeps (Within sid) (call m sid c) := fun w => by
  unfold call
  split
  · exact .refl sid w
  · split <;> exact .refl sid w

theorem scalarOneOrNone_within (rs : List Ref) : Eff.Keeps (Within sid) (scalarOneOrNone m rs) := fun w => by
  unfold scalarOneOrNone
  split <;> exact .refl sid w

theorem read_within (r : Ref) : Eff.Keeps (Within sid) (read m r) :=
  .bind (R := Within sid) Within.trans (.gets (Within.refl sid) _) fun o => fun w => by
    cases o <;> exact .refl sid w

theorem assign_within (r : Ref) (f : ρ → ρ) :
    Eff.Keeps (Within sid) (assign r f : Eff (World ρ ε) ε Unit) := fun w => by
  unfold assign Eff.modify
  dsimp only
  split
  · exact .of_objects rfl rfl fun _ hr => hr
  · exact .refl sid w

theorem refresh_within [DecidableEq κ] (r : Ref) : Eff.Keeps (Within sid) (refresh m sid r) := fun w => by
  unfold refresh
  split
  · refine Eff.Keeps.bind (R := Within sid) Within.trans (call_within _) (fun _ => ?_) w
    split
    · exact fun w => .of_objects rfl rfl fun _ hr => hr
    · exact .raise (Within.refl sid) _
  · exact .refl sid w

theorem read_run {w : World ρ ε} {r : Ref} {o : Obj ρ} (h : w.object r = some o) :
    read m r w = (.ok o.value, w) := by
  simp [read, h]

theorem refresh_of_not_attached [DecidableEq κ] {w : World ρ ε} {r : Ref} (h : r ∉ (w.session sid).objects) :
    refresh m sid r w = (.error (m.error .invalidRequest), w) := by
  unfold refresh World.persistent
  rw [List.contains_eq_mem, decide_eq_false h, Bool.false_and, if_neg Bool.false_ne_true]

variable [DecidableEq κ]

theorem load_within (row : ρ) : Eff.Keeps (Within sid) (load m sid row) := fun w => by
  unfold load
  split
  · exact .refl sid w
  · refine ⟨rfl, Nat.le_succ _, fun r hr => ?_⟩
    rw [World.attach_session, List.mem_append, List.mem_singleton] at hr
    rcases hr with hr | rfl
    · exact Or.inl hr
    · exact Or.inr ⟨Nat.le_refl _, Nat.lt_succ_self _⟩

theorem loadAll_within (rows : List ρ) : Eff.Keeps (Within sid) (loadAll m sid rows) := by
  induction rows with
  | nil => exact .pure (Within.refl sid) _
  | cons row rows ih =>
    exact .bind (R := Within sid) Within.trans (load_within row) fun r =>
      .bind (R := Within sid) Within.trans ih fun rs => .pure (Within.refl sid) _

theorem select_within (query : List ρ → List ρ) : Eff.Keeps (Within sid) (select m sid query) :=
  .bind (R := Within sid) Within.trans (call_within _) fun _ =>
    .bind (R := Within sid) Within.trans (.gets (Within.refl sid) _) fun rows => loadAll_within rows

theorem flush_within [DecidableEq ρ] : Eff.Keeps (Within sid) (flush m sid) := fun w => by
  unfold flush
  split
  · refine .of_objects rfl rfl fun r hr => ?_
    rw [World.settle, World.putSession_self] at hr
    exact (List.mem_filter.mp hr).1
  · refine .of_objects rfl rfl fun r hr => ?_
    rw [World.fail, World.putSession_self] at hr
    exact hr

/-- Objects are saved by a flush, and read back. -/
theorem flush_refresh_within [DecidableEq ρ] {α : Type} (r : Ref) (a : α) :
    Eff.Keeps (Within sid) (do flush m sid; refresh m sid r; pure a) := by
  refine .bind (R := Within sid) Within.trans flush_within fun _ => ?_
  exact .bind (R := Within sid) Within.trans (refresh_within r) fun _ => .pure (Within.refl sid) a

theorem load_grows (row : ρ) : Eff.Keeps (Grows sid) (load m sid row) := fun w => by
  unfold load
  split
  · exact List.Subset.refl _
  · rw [Grows, World.attach_session]
    exact List.subset_append_left _ _

theorem loadAll_grows (rows : List ρ) : Eff.Keeps (Grows sid) (loadAll m sid rows) := by
  induction rows with
  | nil => exact fun w => List.Subset.refl _
  | cons row rows ih =>
    exact .bind (R := Grows sid) List.Subset.trans (load_grows row) fun r =>
      .bind (R := Grows sid) List.Subset.trans ih fun rs w => List.Subset.refl _

theorem load_attached {row : ρ} {w t : World ρ ε} {r : Ref} (h : load m sid row w = (.ok r, t)) :
    r ∈ (t.session sid).objects := by
  unfold load at h
  split at h
  next other hfind =>
    cases h
    exact List.mem_of_find?_eq_some hfind
  · cases h
    simp

theorem loadAll_attached {rows : List ρ} {w t : World ρ ε} {rs : List Ref} (h : loadAll m sid rows w = (.ok rs, t)) :
    ∀ r ∈ rs, r ∈ (t.session sid).objects := by
  induction rows generalizing w rs with
  | nil =>
    cases h
    simp
  | cons row rows ih =>
    obtain ⟨r, u, hload, hrest⟩ := Eff.bind_eq_ok.mp h
    obtain ⟨rest, v, hall, hpure⟩ := Eff.bind_eq_ok.mp hrest
    cases hpure
    have hgrows : Grows sid u (loadAll m sid rows u).2 := loadAll_grows rows u
    rw [hall] at hgrows
    intro other hmem
    rcases List.mem_cons.mp hmem with rfl | hmem
    · exact hgrows (load_attached hload)
    · exact ih hall other hmem

theorem select_attached {query : List ρ → List ρ} {w t : World ρ ε} {rs : List Ref}
    (h : select m sid query w = (.ok rs, t)) : ∀ r ∈ rs, r ∈ (t.session sid).objects := by
  obtain ⟨_, u, -, hrest⟩ := Eff.bind_eq_ok.mp h
  rw [Eff.gets_bind_run] at hrest
  exact loadAll_attached hrest

end Keeps

/-! ### Objects that a session does not know -/

section Detached
variable {sid : SessionId}

/-- The object belongs to another session. -/
def Detached (sid : SessionId) (r : Nat) (w : World ρ ε) : Prop := r < w.refs ∧ r ∉ (w.session sid).objects

theorem Within.detached {r : Nat} {s t : World ρ ε} (h : Within sid s t) (hs : Detached sid r s) : Detached sid r t := by
  have hrefs := h.refs
  refine ⟨Nat.lt_of_lt_of_le hs.1 hrefs, fun hr => ?_⟩
  rcases h.attached r hr with hr | hr
  · exact hs.2 hr
  · have hlt := hs.1
    omega

/-- A session knows no object that is older than itself. -/
theorem detached_openSession {r : Nat} {w : World ρ ε} (h : r < w.refs) : Detached w.sessions r w.openSession := by
  refine ⟨h, ?_⟩
  rw [World.openSession_session]
  exact List.not_mem_nil

/-- With an object of another session the program raises. -/
def RaisesOn (sid : SessionId) (r : Ref) (p : Eff (World ρ ε) ε α) : Prop := ∀ w, Detached sid r w → ∀ a t, p w ≠ (.ok a, t)

namespace RaisesOn
variable {r : Ref} {p : Eff (World ρ ε) ε α} {f : α → Eff (World ρ ε) ε β}

theorem raise (e : ε) : RaisesOn sid r (Eff.raise e : Eff (World ρ ε) ε α) := fun _ _ _ _ => by
  simp

theorem bind (h : RaisesOn sid r p) : RaisesOn sid r (p >>= f) := fun w hw b u hrun => by
  obtain ⟨a, t, hp, -⟩ := Eff.bind_eq_ok.mp hrun
  exact h w hw a t hp

theorem bind_within (hp : Eff.Keeps (Within sid) p) (hf : ∀ a, RaisesOn sid r (f a)) : RaisesOn sid r (p >>= f) :=
  fun w hw b u hrun => by
    obtain ⟨a, t, hrun, hrest⟩ := Eff.bind_eq_ok.mp hrun
    have hwithin := hp w
    rw [hrun] at hwithin
    exact hf a t (hwithin.detached hw) b u hrest

theorem refresh [DecidableEq κ] (m : Mapper κ ρ ε) (r : Ref) : RaisesOn sid r (refresh m sid r) := fun w hw a t => by
  rw [refresh_of_not_attached hw.2]
  simp

end RaisesOn

theorem withSession_run {body : SessionId → Eff (World ρ ε) ε α} {w t : World ρ ε} {result : Except ε α}
    (h : body w.sessions w.openSession = (result, t)) :
    withSession body w = (result, t.putSession w.sessions {}) := by
  unfold withSession
  rw [h]

/-- A session that is not committed leaves the rows alone. -/
theorem withSession_within {body : SessionId → Eff (World ρ ε) ε α} (h : ∀ sid, Eff.Keeps (Within sid) (body sid))
    (w : World ρ ε) : (withSession body w).2.rows = w.rows ∧ w.refs ≤ (withSession body w).2.refs :=
  ⟨(h w.sessions w.openSession).rows, (h w.sessions w.openSession).refs⟩

end Detached

/-! ### A session that has nothing attached -/

section Fresh
variable {m : Mapper κ ρ ε} {sid : SessionId} {w : World ρ ε}

theorem call_run {c : DbCall} (hfailed : (w.session sid).failed = false) (hfails : w.fails c = none) :
    call m sid c w = (.ok (), w) := by
  simp [call, hfailed, hfails]

variable [DecidableEq κ]

theorem select_of_fails {query : List ρ → List ρ} {e : ε} (hfailed : (w.session sid).failed = false)
    (hfails : w.fails .select = some e) : select m sid query w = (.error e, w) := by
  have hcall : call m sid .select w = (.error e, w) := by
    simp [call, hfailed, hfails]
  rw [select, Eff.bind_of_error hcall]

theorem select_nil {query : List ρ → List ρ} (hfailed : (w.session sid).failed = false)
    (hfails : w.fails .select = none) (hquery : query (w.session sid).rows = []) :
    select m sid query w = (.ok [], w) := by
  unfold select
  rw [Eff.bind_of_ok (call_run hfailed hfails), Eff.gets_bind_run, hquery]
  rfl

theorem select_singleton {query : List ρ → List ρ} {row : ρ} (hobjects : (w.session sid).objects = [])
    (hfailed : (w.session sid).failed = false) (hfails : w.fails .select = none)
    (hquery : query (w.session sid).rows = [row]) :
    select m sid query w = (.ok [w.refs], w.attach sid { value := row, loaded := some row }) := by
  have hload : load m sid row w = (.ok w.refs, w.attach sid { value := row, loaded := some row }) := by
    simp [load, hobjects]
  unfold select
  rw [Eff.bind_of_ok (call_run hfailed hfails), Eff.gets_bind_run, hquery]
  simp only [loadAll, Eff.bind_of_ok hload]
  rfl

/-- The table takes the value. -/
def Mapper.Admits (m : Mapper κ ρ ε) (rows : List ρ) (v : ρ) : Prop := m.fits v = true ∧ rows.any (m.collides v) = false

instance (m : Mapper κ ρ ε) (rows : List ρ) (v : ρ) : Decidable (m.Admits rows v) := inferInstanceAs (Decidable (_ ∧ _))

variable [DecidableEq ρ]

/-- A commit replaces the committed rows by those of its flush, or leaves them alone. -/
theorem commit_rows : (commit m sid w).2.rows =
    match w.flushed m sid with
    | .ok rows => if (w.session sid).failed = false ∧ w.fails .commit = none then rows else w.rows
    | .error _ => w.rows := by
  cases hflushed : w.flushed m sid with
  | error e =>
    have hflush : flush m sid w = (.error e, w.fail sid) := by
      rw [flush, hflushed]
    rw [commit, Eff.bind_of_error hflush]
    rfl
  | ok rows =>
    have hflush : flush m sid w = (.ok (), w.settle sid rows) := by
      rw [flush, hflushed]
    have hfailed : ((w.settle sid rows).session sid).failed = (w.session sid).failed := by
      rw [World.settle, World.putSession_self]
    have hrows : ((w.settle sid rows).session sid).rows = rows := by
      rw [World.settle, World.putSession_self]
    rw [commit, Eff.bind_of_ok hflush]
    dsimp only
    split
    next hok =>
      have hcall : call m sid .commit (w.settle sid rows) = (.ok (), w.settle sid rows) :=
        call_run (hfailed.trans hok.1) hok.2
      rw [Eff.bind_of_ok hcall]
      exact hrows
    next hbad =>
      have hcall : ∃ e, call m sid .commit (w.settle sid rows) = (.error e, w.settle sid rows) := by
        unfold call
        rw [hfailed]
        by_cases hfail : (w.session sid).failed = true
        · exact ⟨_, if_pos hfail⟩
        · rw [if_neg hfail]
          cases hcommit : w.fails .commit with
          | none => exact absurd ⟨Bool.eq_false_iff.mpr hfail, hcommit⟩ hbad
          | some e =>
            refine ⟨e, ?_⟩
            have hsettle : (w.settle sid rows).fails .commit = some e := hcommit
            rw [hsettle]
      obtain ⟨e, hcall⟩ := hcall
      rw [Eff.bind_of_error hcall]
      rfl

/-- A session adds one object and commits. -/
theorem add_commit_rows {v : ρ} (hobjects : (w.session sid).objects = []) (hfailed : (w.session sid).failed = false) :
    ((do let _ ← add sid v; commit m sid : Eff (World ρ ε) ε Unit) w).2.rows =
      if w.fails .flush = none ∧ w.fails .commit = none ∧ m.Admits (w.session sid).rows v then
        (w.session sid).rows ++ [v]
      else w.rows := by
  have hadd : add sid v w = (.ok w.refs, w.attach sid { value := v, loaded := none }) := rfl
  have hdirty : (w.attach sid { value := v, loaded := none }).dirty sid = [{ value := v, loaded := none }] := by
    simp [World.dirty, hobjects, Obj.dirty, Option.filter]
  rw [Eff.bind_of_ok hadd, commit_rows]
  unfold World.flushed Mapper.Admits
  rw [hdirty]
  simp only [List.isEmpty_cons, Bool.false_eq_true, if_false, World.attach_session, hfailed, World.attach_fails]
  cases hflush : w.fails .flush with
  | some e => simp
  | none =>
    have hwrite : [({ value := v, loaded := none } : Obj ρ)].foldlM m.write (w.session sid).rows =
        if !m.fits v then .error .data
        else if (w.session sid).rows.any (m.collides v) then .error .integrity
        else .ok ((w.session sid).rows ++ [v]) := by
      simp [Mapper.write]
    simp only [hwrite]
    by_cases hfits : m.fits v = true
    · by_cases hcollides : (w.session sid).rows.any (m.collides v) = true
      · simp only [hfits, hcollides]
        simp
      · simp only [hfits, Bool.eq_false_iff.mpr hcollides]
        simp
    · simp only [Bool.eq_false_iff.mpr hfits]
      simp

end Fresh

end Orm
end SmartHome
