import Mathlib.Data.List.Forall2
import SmartHome.Lib.OrmDistinct

/-! # Sessions in step with their table

A session whose attached objects are as their rows can be read as a table: a query returns the objects of
the rows it asks for, and a flush after some assignments rewrites the rows of the objects that changed. -/

namespace SmartHome.Orm

variable {κ ρ ε α : Type} {m : Mapper κ ρ ε} {sid : SessionId} {w t u : World ρ ε} {g f : ρ → ρ}

/-! ### The state of a session -/

/-- Every attached object was loaded from a row of its own, and has the value that `g` makes of the row; `g`
    leaves the rows without an object alone. -/
structure Edited [DecidableEq κ] (m : Mapper κ ρ ε) (sid : SessionId) (g : ρ → ρ) (w : World ρ ε) : Prop where
  working : (w.session sid).failed = false
  distinct : m.Distinct (w.session sid).rows
  used : ∀ r ∈ (w.session sid).objects, r < w.refs
  loaded : ∀ r ∈ (w.session sid).objects, ∃ row ∈ (w.session sid).rows,
    w.object r = some { value := g row, loaded := some row }
  single : ((w.session sid).objects.map (w.identity m)).Nodup
  rest : ∀ row ∈ (w.session sid).rows, g row ≠ row → ∃ r ∈ (w.session sid).objects, w.identity m r = some (m.key row)

/-- Every attached object is as its row. -/
abbrev Synced [DecidableEq κ] (m : Mapper κ ρ ε) (sid : SessionId) (w : World ρ ε) : Prop := Edited m sid id w

/-- The object belongs to the session, and is as its row. -/
def Holds (sid : SessionId) (w : World ρ ε) (r : Ref) (row : ρ) : Prop :=
  r ∈ (w.session sid).objects ∧ w.object r = some { value := row, loaded := some row }

/-- The object belongs to the session, and was last read or written as `row`. -/
def Loaded (sid : SessionId) (w : World ρ ε) (r : Ref) (row : ρ) : Prop :=
  r ∈ (w.session sid).objects ∧ ∃ value, w.object r = some { value, loaded := some row }

theorem Holds.loaded {r : Ref} {row : ρ} (h : Holds sid w r row) : Loaded sid w r row := ⟨h.1, row, h.2⟩

/-- From `s` to `t` the session wrote nothing, and the objects it knew are as they were. -/
structure Reads (sid : SessionId) (s t : World ρ ε) : Prop where
  rows : t.rows = s.rows
  table : (t.session sid).rows = (s.session sid).rows
  objects : (s.session sid).objects ⊆ (t.session sid).objects
  object : ∀ r ∈ (s.session sid).objects, t.object r = s.object r

namespace Reads

theorem refl (s : World ρ ε) : Reads sid s s := ⟨rfl, rfl, List.Subset.refl _, fun _ _ => rfl⟩

theorem trans (hwt : Reads sid w t) (htu : Reads sid t u) : Reads sid w u where
  rows := htu.rows.trans hwt.rows
  table := htu.table.trans hwt.table
  objects := List.Subset.trans hwt.objects htu.objects
  object r hr := (htu.object r (hwt.objects hr)).trans (hwt.object r hr)

theorem holds {r : Ref} {row : ρ} (h : Reads sid w t) (hr : Holds sid w r row) : Holds sid t r row :=
  ⟨h.objects hr.1, (h.object r hr.1).trans hr.2⟩

end Reads

theorem attach_object_of_ne {r : Ref} {o : Obj ρ} (h : r ≠ w.refs) : (w.attach sid o).object r = w.object r := if_neg h

theorem putObject_same {r : Ref} {o : Obj ρ} (h : w.object r = some o) : w.putObject r o = w := by
  unfold World.putObject
  have hobject : (fun other => if other = r then some o else w.object other) = w.object := by
    funext other
    by_cases hr : other = r
    · rw [if_pos hr, hr, h]
    · rw [if_neg hr]
  rw [hobject]

theorem read_ok {r : Ref} {v : ρ} (h : read m r w = (.ok v, t)) : t = w := by
  unfold read at h
  rw [Eff.gets_bind_run] at h
  cases hobject : w.object r with
  | none =>
    rw [hobject] at h
    cases h
  | some o =>
    rw [hobject] at h
    cases h
    rfl

theorem read_of_holds {r : Ref} {row : ρ} (h : Holds sid w r row) : read m r w = (.ok row, w) := read_run h.2

theorem identity_of_loaded {r : Ref} {row value : ρ} (h : w.object r = some { value, loaded := some row }) :
    w.identity m r = some (m.key row) := by
  simp [World.identity, h]

theorem call_ok {c : DbCall} (h : call m sid c w = (.ok (), t)) : t = w ∧ w.fails c = none := by
  unfold call at h
  split at h
  · cases h
  split at h
  · cases h
  · next hfails =>
    cases h
    exact ⟨rfl, hfails⟩

/-- `scalar_one_or_none` returns at all only for a query with at most one row. -/
theorem scalarOneOrNone_holds {rs : List Ref} {rows : List ρ} {o : Option Ref}
    (h : List.Forall₂ (Holds sid w) rs rows) (hrun : scalarOneOrNone m rs w = (.ok o, t)) :
    t = w ∧ ((o = none ∧ rows = []) ∨ ∃ r row, o = some r ∧ rows = [row] ∧ Holds sid w r row) := by
  cases h with
  | nil =>
    cases hrun
    exact ⟨rfl, Or.inl ⟨rfl, rfl⟩⟩
  | cons hholds hrest =>
    cases hrest with
    | nil =>
      cases hrun
      exact ⟨rfl, Or.inr ⟨_, _, rfl, rfl, hholds⟩⟩
    | cons _ _ => cases hrun

section Keys
variable [DecidableEq κ]

/-- A new session has loaded nothing. -/
theorem synced_openSession (h : m.Distinct w.rows) : Synced m w.sessions w.openSession where
  working := by simp
  distinct := by simpa using h
  used r hr := by simp at hr
  loaded r hr := by simp at hr
  single := by simp
  rest row _ hne := absurd rfl hne

namespace Edited

/-- Attached objects of the same row are the same object. -/
theorem eq_of_identity (h : Edited m sid g w) {r r' : Ref} (hr : r ∈ (w.session sid).objects)
    (hr' : r' ∈ (w.session sid).objects) (hid : w.identity m r = w.identity m r') : r = r' :=
  List.inj_on_of_nodup_map h.single hr hr' hid

end Edited

/-! ### Queries -/

theorem load_synced {row : ρ} (h : Synced m sid w) (hrow : row ∈ (w.session sid).rows) :
    ∃ r t, load m sid row w = (.ok r, t) ∧ Synced m sid t ∧ Reads sid w t ∧ Holds sid t r row := by
  unfold load
  cases hfind : (w.session sid).objects.find? fun r => w.identity m r == some (m.key row) with
  | some r =>
    have hmem : r ∈ (w.session sid).objects := List.mem_of_find?_eq_some hfind
    have hid : w.identity m r = some (m.key row) := by
      simpa using List.find?_some hfind
    obtain ⟨row', hrow', hobject⟩ := h.loaded r hmem
    rw [identity_of_loaded hobject, Option.some.injEq] at hid
    obtain rfl := h.distinct.eq_of_key hrow' hrow hid
    exact ⟨r, w, rfl, h, .refl w, hmem, hobject⟩
  | none =>
    -- A new object is attached; the known ones have other references and other keys.
    have hnone := List.find?_eq_none.mp hfind
    have hold : ∀ r ∈ (w.session sid).objects,
        (w.attach sid { value := row, loaded := some row }).object r = w.object r := fun r hr =>
      attach_object_of_ne (Nat.ne_of_lt (h.used r hr))
    refine ⟨w.refs, w.attach sid { value := row, loaded := some row }, rfl, ?_, ?_, ?_⟩
    · constructor
      · simpa using h.working
      · simpa using h.distinct
      · intro r hr
        rw [World.attach_session, List.mem_append, List.mem_singleton] at hr
        rw [World.attach_refs]
        rcases hr with hr | rfl
        · exact Nat.lt_succ_of_lt (h.used r hr)
        · exact Nat.lt_succ_self _
      · intro r hr
        rw [World.attach_session, List.mem_append, List.mem_singleton] at hr
        rcases hr with hr | rfl
        · obtain ⟨row', hrow', hobject⟩ := h.loaded r hr
          exact ⟨row', by simpa using hrow', by rw [hold r hr, hobject]⟩
        · exact ⟨row, by simpa using hrow, by simp⟩
      · have hids : ∀ r ∈ (w.session sid).objects,
            (w.attach sid { value := row, loaded := some row }).identity m r = w.identity m r := fun r hr => by
          rw [World.identity, hold r hr, World.identity]
        rw [World.attach_session, List.map_append, List.map_congr_left hids]
        refine List.nodup_append.mpr ⟨h.single, List.nodup_singleton _, fun a ha b hb => ?_⟩
        obtain ⟨r, hr, rfl⟩ := List.mem_map.mp ha
        rw [List.map_singleton, List.mem_singleton] at hb
        have hnew : (w.attach sid { value := row, loaded := some row }).identity m w.refs = some (m.key row) :=
          identity_of_loaded (World.attach_object w sid _)
        rw [hb, hnew]
        simpa using hnone r hr
      · intro row' _ hne
        exact absurd rfl hne
    · refine ⟨by simp, by simp, ?_, hold⟩
      rw [World.attach_session]
      exact List.subset_append_left _ _
    · exact ⟨by simp, by simp⟩

theorem loadAll_synced {rows : List ρ} (h : Synced m sid w) (hrows : rows ⊆ (w.session sid).rows) :
    ∃ rs t, loadAll m sid rows w = (.ok rs, t) ∧ Synced m sid t ∧ Reads sid w t ∧
      List.Forall₂ (Holds sid t) rs rows := by
  induction rows generalizing w with
  | nil => exact ⟨[], w, rfl, h, .refl w, .nil⟩
  | cons row rows ih =>
    rw [List.cons_subset] at hrows
    obtain ⟨r, t, hload, ht, hreads, hholds⟩ := load_synced h hrows.1
    obtain ⟨rs, u, hall, hu, hreads', hforall⟩ := ih ht (hreads.table ▸ hrows.2)
    refine ⟨r :: rs, u, ?_, hu, hreads.trans hreads', .cons (hreads'.holds hholds) hforall⟩
    rw [loadAll, Eff.bind_of_ok hload, Eff.bind_of_ok hall]
    rfl

theorem select_synced {query : List ρ → List ρ} {rs : List Ref} (h : Synced m sid w)
    (hquery : query (w.session sid).rows ⊆ (w.session sid).rows) (hrun : select m sid query w = (.ok rs, t)) :
    Synced m sid t ∧ Reads sid w t ∧ List.Forall₂ (Holds sid t) rs (query (w.session sid).rows) := by
  obtain ⟨_, v, hcall, hload⟩ := Eff.bind_eq_ok.mp hrun
  obtain ⟨rfl, -⟩ := call_ok hcall
  rw [Eff.gets_bind_run] at hload
  obtain ⟨rs', t', hall, ht, hreads, hforall⟩ := loadAll_synced h hquery
  rw [hall] at hload
  cases hload
  exact ⟨ht, hreads, hforall⟩

/-- A query for at most one row, as the first thing a session does. -/
def lookup (m : Mapper κ ρ ε) (sid : SessionId) (query : List ρ → List ρ) : Eff (World ρ ε) ε (Option Ref) := do
  let result ← select m sid query
  scalarOneOrNone m result

theorem lookup_of_fails {query : List ρ → List ρ} {e : ε} (hfails : w.fails .select = some e) :
    lookup m w.sessions query w.openSession = (.error e, w.openSession) := by
  have hselect : select m w.sessions query w.openSession = (.error e, w.openSession) := select_of_fails (by simp) hfails
  rw [lookup, Eff.bind_of_error hselect]

theorem lookup_nil {query : List ρ → List ρ} (hfails : w.fails .select = none) (hquery : query w.rows = []) :
    lookup m w.sessions query w.openSession = (.ok none, w.openSession) := by
  have hselect : select m w.sessions query w.openSession = (.ok [], w.openSession) :=
    select_nil (by simp) hfails (by simpa using hquery)
  rw [lookup, Eff.bind_of_ok hselect]
  rfl

theorem lookup_singleton {query : List ρ → List ρ} {row : ρ} (hfails : w.fails .select = none)
    (hquery : query w.rows = [row]) :
    lookup m w.sessions query w.openSession =
      (.ok (some w.refs), w.openSession.attach w.sessions { value := row, loaded := some row }) := by
  have hselect : select m w.sessions query w.openSession =
      (.ok [w.refs], w.openSession.attach w.sessions { value := row, loaded := some row }) :=
    select_singleton (by simp) (by simp) hfails (by simpa using hquery)
  rw [lookup, Eff.bind_of_ok hselect]
  rfl

/-- What a query for at most one row finds. -/
theorem lookup_synced {p : ρ → Bool} {o : Option Ref} (h : Synced m sid w)
    (hrun : lookup m sid (List.filter p) w = (.ok o, t)) :
    Synced m sid t ∧ (t.session sid).rows = (w.session sid).rows ∧
      ((o = none ∧ ∀ row ∈ (w.session sid).rows, p row = false) ∨
        ∃ r, ∃ row ∈ (w.session sid).rows, o = some r ∧ p row = true ∧ Holds sid t r row) := by
  obtain ⟨rs, v, hselect, hone⟩ := Eff.bind_eq_ok.mp hrun
  obtain ⟨hsynced, hreads, hforall⟩ := select_synced h (List.filter_subset_self _) hselect
  obtain ⟨rfl, hcases⟩ := scalarOneOrNone_holds hforall hone
  refine ⟨hsynced, hreads.table, ?_⟩
  rcases hcases with ⟨rfl, hnil⟩ | ⟨r, row, rfl, hrow, hholds⟩
  · rw [List.filter_eq_nil_iff] at hnil
    exact Or.inl ⟨rfl, fun row hrow => Bool.eq_false_iff.mpr (hnil row hrow)⟩
  · have hmem : row ∈ (w.session sid).rows.filter p := hrow ▸ List.mem_singleton_self row
    obtain ⟨hmem, hp⟩ := List.mem_filter.mp hmem
    exact Or.inr ⟨r, row, hmem, rfl, hp, hholds⟩

/-- The object that a new session's query for one row returns. -/
theorem lookup_holds {p : ρ → Bool} {r : Ref} (h : m.Distinct w.rows)
    (hrun : lookup m w.sessions (List.filter p) w.openSession = (.ok (some r), u)) :
    ∃ row ∈ w.rows, p row = true ∧ Synced m w.sessions u ∧ (u.session w.sessions).rows = w.rows ∧
      Holds w.sessions u r row := by
  have hrows : (w.openSession.session w.sessions).rows = w.rows := by rw [World.openSession_session]
  obtain ⟨hsynced, htable, hcases⟩ := lookup_synced (synced_openSession h) hrun
  rw [hrows] at htable hcases
  rcases hcases with ⟨hnone, -⟩ | ⟨r', row, hrow, hsome, hp, hholds⟩
  · cases hnone
  · cases hsome
    exact ⟨row, hrow, hp, hsynced, htable, hholds⟩

theorem refresh_synced {r : Ref} (h : Synced m sid w) (hr : r ∈ (w.session sid).objects)
    (hrun : refresh m sid r w = (.ok (), t)) : t = w := by
  obtain ⟨row, hrow, hloaded⟩ := h.loaded r hr
  unfold refresh at hrun
  split at hrun
  · obtain ⟨_, v, hcall, hrest⟩ := Eff.bind_eq_ok.mp hrun
    obtain ⟨rfl, -⟩ := call_ok hcall
    cases hfind : (v.session sid).rows.find? fun row => some (m.key row) == v.identity m r with
    | none =>
      rw [hfind] at hrest
      cases hrest
    | some found =>
      have hkey : m.key found = m.key row := by
        simpa [identity_of_loaded hloaded] using List.find?_some hfind
      obtain rfl := h.distinct.eq_of_key (List.mem_of_find?_eq_some hfind) hrow hkey
      rw [hfind] at hrest
      cases hrest
      exact putObject_same hloaded
  · cases hrun

theorem settle_synced (h : Synced m sid w) : w.settle sid (w.session sid).rows = w := by
  have hobjects : (w.session sid).objects.filter (fun r => !(w.object r).any Obj.doomed) = (w.session sid).objects := by
    refine List.filter_eq_self.mpr fun r hr => ?_
    obtain ⟨row, -, hloaded⟩ := h.loaded r hr
    simp [hloaded]
  have hobject : (fun r => if r ∈ (w.session sid).objects then
      (w.object r).map fun o => { value := o.value, loaded := some o.value } else w.object r) = w.object := by
    funext r
    split
    · next hr =>
      obtain ⟨row, -, hloaded⟩ := h.loaded r hr
      rw [hloaded]
      rfl
    · rfl
  have hsession : (w.putSession sid (w.session sid)).session = w.session := by
    funext other
    unfold World.putSession
    dsimp only
    split
    · next heq => rw [heq]
    · rfl
  unfold World.settle
  rw [hobject, hobjects]
  cases w
  simp only [World.mk.injEq, true_and]
  exact ⟨rfl, rfl, hsession, rfl, rfl⟩

/-! ### Assignments -/

/-- Assigns to every object in turn. -/
def assignAll (f : ρ → ρ) : List Ref → Eff (World ρ ε) ε Unit
  | [] => pure ()
  | r :: rs => do
    assign r f
    assignAll f rs

variable [DecidableEq ρ]

/-- What an assignment to the object of `row` makes of the rows, after the edits `g`. -/
def editing (f g : ρ → ρ) (rows : List ρ) (x : ρ) : ρ := if x ∈ rows then f (g x) else g x

theorem assign_edited {r : Ref} {row : ρ} (h : Edited m sid g w) (hr : Loaded sid w r row) :
    ∃ t, assign r f w = (.ok (), t) ∧ Edited m sid (editing f g [row]) t ∧ t.session = w.session ∧ t.rows = w.rows ∧
      ∀ r' row', Loaded sid w r' row' → Loaded sid t r' row' := by
  obtain ⟨hmem, value, hobject⟩ := hr
  have hput : ∀ r', r' ≠ r → (w.putObject r { value := f value, loaded := some row }).object r' = w.object r' :=
    fun r' hne => if_neg hne
  have hself : (w.putObject r { value := f value, loaded := some row }).object r =
      some { value := f value, loaded := some row } := World.putObject_self w r _
  refine ⟨w.putObject r { value := f value, loaded := some row }, ?_, ?_, rfl, rfl, ?_⟩
  · unfold assign Eff.modify
    simp only [hobject]
  · have hid : ∀ r', (w.putObject r { value := f value, loaded := some row }).identity m r' = w.identity m r' := by
      intro r'
      by_cases hr' : r' = r
      · subst hr'
        rw [identity_of_loaded hobject, identity_of_loaded hself]
      · rw [World.identity, hput r' hr', World.identity]
    refine ⟨h.working, h.distinct, h.used, fun r' hr' => ?_, ?_, fun row' hrow' hne => ?_⟩
    · obtain ⟨row', hrow', hobject'⟩ := h.loaded r' hr'
      by_cases heq : r' = r
      · subst heq
        rw [hobject, Option.some.injEq, Obj.mk.injEq, Option.some.injEq] at hobject'
        obtain ⟨rfl, rfl, -⟩ := hobject'
        exact ⟨row, hrow', by rw [hself, editing, if_pos (List.mem_singleton_self row)]⟩
      · have hother : row' ≠ row := by
          rintro rfl
          refine heq (h.eq_of_identity hr' hmem ?_)
          rw [identity_of_loaded hobject', identity_of_loaded hobject]
        exact ⟨row', hrow', by rw [hput r' heq, hobject', editing, if_neg (by simpa using hother)]⟩
    · rw [List.map_congr_left fun r' _ => hid r']
      exact h.single
    · by_cases heq : row' = row
      · subst heq
        exact ⟨r, hmem, (hid r).trans (identity_of_loaded hobject)⟩
      · rw [editing, if_neg (by simpa using heq)] at hne
        obtain ⟨r', hr', hid'⟩ := h.rest row' hrow' hne
        exact ⟨r', hr', (hid r').trans hid'⟩
  · rintro r' row' ⟨hmem', value', hobject'⟩
    by_cases heq : r' = r
    · subst heq
      rw [hobject, Option.some.injEq, Obj.mk.injEq, Option.some.injEq] at hobject'
      obtain ⟨-, rfl, -⟩ := hobject'
      exact ⟨hmem', f value, hself⟩
    · exact ⟨hmem', value', (hput r' heq).trans hobject'⟩

theorem editing_editing {g : ρ → ρ} {row : ρ} {rows : List ρ} (h : row ∉ rows) :
    editing f (editing f g [row]) rows = editing f g (row :: rows) := by
  funext x
  by_cases hx : x = row
  · subst hx
    simp [editing, h]
  · by_cases hrows : x ∈ rows <;> simp [editing, hx, hrows]

/-- The loop over the objects of a query. -/
theorem assignAll_edited {rs : List Ref} {rows : List ρ} (h : Edited m sid g w) (hnodup : rows.Nodup)
    (hloaded : List.Forall₂ (Loaded sid w) rs rows) :
    ∃ t, assignAll f rs w = (.ok (), t) ∧ Edited m sid (editing f g rows) t ∧ t.session = w.session ∧
      t.rows = w.rows := by
  induction rs generalizing g w rows with
  | nil =>
    cases hloaded
    have hnone : editing f g [] = g := by
      funext x
      simp [editing]
    exact ⟨w, rfl, hnone.symm ▸ h, rfl, rfl⟩
  | cons r rs ih =>
    cases hloaded with
    | @cons _ row _ rows hfirst hrest =>
      rw [List.nodup_cons] at hnodup
      obtain ⟨t, hassign, ht, hsession, hrows, hkept⟩ := assign_edited (f := f) h hfirst
      obtain ⟨u, hall, hu, hsession', hrows'⟩ := ih ht hnodup.2 (hrest.imp hkept)
      refine ⟨u, ?_, ?_, hsession'.trans hsession, hrows'.trans hrows⟩
      · rw [assignAll, Eff.bind_of_ok hassign, hall]
      · rw [← editing_editing hnodup.1]
        exact hu

/-! ### Flushes -/

theorem flushed_ok {rows : List ρ} (h : w.flushed m sid = .ok rows) :
    (w.dirty sid).foldlM m.write (w.session sid).rows = .ok rows := by
  unfold World.flushed at h
  split at h
  · next hempty =>
    rw [List.isEmpty_iff.mp hempty]
    cases h
    rfl
  split at h
  · cases h
  split at h
  · cases h
  split at h
  · next hwrite =>
    cases h
    exact hwrite
  · cases h

theorem flush_ok (h : flush m sid w = (.ok (), t)) :
    ∃ rows, (w.dirty sid).foldlM m.write (w.session sid).rows = .ok rows ∧ t = w.settle sid rows := by
  unfold flush at h
  split at h
  · next rows hflushed =>
    cases h
    exact ⟨rows, flushed_ok hflushed, rfl⟩
  · cases h

/-- The row after the UPDATEs of the objects. -/
def updated (m : Mapper κ ρ ε) (objects : List (Obj ρ)) (row : ρ) : ρ :=
  ((objects.find? fun o => o.loaded.map m.key == some (m.key row)).map Obj.value).getD row

theorem write_update {o : Obj ρ} {old : ρ} {rows rows' : List ρ} (hlive : o.doomed = false)
    (hloaded : o.loaded = some old) (hvalue : o.value ≠ old) (hwrite : m.write rows o = .ok rows') :
    rows' = rows.map fun row => if m.sameKey old row then o.value else row := by
  cases Mapper.written_of_write hwrite with
  | insert loaded => cases hloaded.symm.trans loaded
  | delete old' loaded doomed => cases hlive.symm.trans doomed
  | keep loaded => exact absurd (Option.some.inj (loaded.symm.trans hloaded)) hvalue
  | update old' loaded =>
    obtain rfl := Option.some.inj (hloaded.symm.trans loaded)
    rfl

/-- Each row is rewritten by the one object that was loaded from it. -/
theorem foldlM_update {objects : List (Obj ρ)} {rows rows' : List ρ}
    (hupdate : ∀ o ∈ objects, o.doomed = false ∧ ∃ old, o.loaded = some old ∧ o.value ≠ old ∧ m.key o.value = m.key old)
    (hkeys : (objects.map fun o => o.loaded.map m.key).Nodup) (hwrite : objects.foldlM m.write rows = .ok rows') :
    rows' = rows.map (updated m objects) := by
  induction objects generalizing rows with
  | nil =>
    cases hwrite
    have hnone : updated m [] = id := rfl
    rw [hnone, List.map_id]
  | cons o objects ih =>
    obtain ⟨hlive, old, hloaded, hvalue, hkey⟩ := hupdate o (List.mem_cons_self ..)
    rw [List.map_cons, List.nodup_cons] at hkeys
    rw [List.foldlM_cons] at hwrite
    cases hone : m.write rows o with
    | error e =>
      rw [hone] at hwrite
      cases hwrite
    | ok mid =>
      rw [hone] at hwrite
      obtain rfl := write_update hlive hloaded hvalue hone
      rw [ih (fun o ho => hupdate o (List.mem_cons_of_mem _ ho)) hkeys.2 hwrite, List.map_map]
      refine List.map_congr_left fun row _ => ?_
      unfold updated Mapper.sameKey
      rw [Function.comp_apply, List.find?_cons]
      by_cases hrow : m.key row = m.key old
      · -- No later object was loaded from the same row.
        have hnone : objects.find? (fun o => o.loaded.map m.key == some (m.key old)) = none := by
          rw [List.find?_eq_none]
          intro other hother hsame
          exact hkeys.1 (List.mem_map.mpr ⟨other, hother, by rw [beq_iff_eq.mp hsame, hloaded, Option.map_some]⟩)
        simp [hrow, hloaded, hkey, hnone]
      · have hhead : (o.loaded.map m.key == some (m.key row)) = false := by
          simp [hloaded, Ne.symm hrow]
        rw [hhead, if_neg (by simpa using hrow)]

theorem Edited.mem_dirty {o : Obj ρ} (h : Edited m sid g w) (ho : o ∈ w.dirty sid) :
    ∃ row ∈ (w.session sid).rows, g row ≠ row ∧ o = { value := g row, loaded := some row } := by
  obtain ⟨r, hr, hobject⟩ := List.mem_filterMap.mp ho
  obtain ⟨row, hrow, hloaded⟩ := h.loaded r hr
  rw [hloaded, Option.filter_some] at hobject
  split at hobject
  · next hdirty =>
    cases hobject
    refine ⟨row, hrow, fun heq => ?_, rfl⟩
    simp [Obj.dirty, heq] at hdirty
  · cases hobject

theorem Synced.dirty (h : Synced m sid w) : w.dirty sid = [] := by
  refine List.eq_nil_iff_forall_not_mem.mpr fun o ho => ?_
  obtain ⟨row, -, hne, -⟩ := h.mem_dirty ho
  exact hne rfl

theorem Edited.dirty_keys (h : Edited m sid g w) : ((w.dirty sid).map fun o => o.loaded.map m.key).Nodup := by
  have hsub : ∀ rs : List Ref, ((rs.filterMap fun r => (w.object r).filter Obj.dirty).map fun o => o.loaded.map m.key).Sublist
      (rs.map (w.identity m)) := by
    intro rs
    induction rs with
    | nil => exact List.Sublist.slnil
    | cons r rs ih =>
      rw [List.filterMap_cons, List.map_cons]
      cases hobject : (w.object r).filter Obj.dirty with
      | none => exact ih.cons _
      | some o =>
        obtain ⟨hobject, -⟩ := Option.filter_eq_some_iff.mp hobject
        rw [List.map_cons, World.identity, hobject]
        exact ih.cons_cons _
  exact List.Nodup.sublist (hsub _) h.single

/-- The UPDATEs of a session's objects do to the rows what the edits did to the objects. -/
theorem Edited.updated (h : Edited m sid g w) {row : ρ} (hrow : row ∈ (w.session sid).rows) :
    updated m (w.dirty sid) row = g row := by
  unfold Orm.updated
  cases hfind : (w.dirty sid).find? fun o => o.loaded.map m.key == some (m.key row) with
  | some o =>
    obtain ⟨row', hrow', -, rfl⟩ := h.mem_dirty (List.mem_of_find?_eq_some hfind)
    have hkey : m.key row' = m.key row := by
      simpa using List.find?_some hfind
    obtain rfl := h.distinct.eq_of_key hrow' hrow hkey
    rfl
  | none =>
    by_contra hne
    obtain ⟨r, hr, hid⟩ := h.rest row hrow (Ne.symm hne)
    obtain ⟨row', hrow', hloaded⟩ := h.loaded r hr
    rw [identity_of_loaded hloaded, Option.some.injEq] at hid
    obtain rfl := h.distinct.eq_of_key hrow' hrow hid
    have hmem : { value := g row', loaded := some row' } ∈ w.dirty sid := by
      refine List.mem_filterMap.mpr ⟨r, hr, ?_⟩
      rw [hloaded, Option.filter_some, if_pos]
      have hedit : g row' ≠ row' := Ne.symm hne
      simp [Obj.dirty, Ne.symm hedit]
    exact absurd (List.find?_eq_none.mp hfind _ hmem) (by simp)

/-- A flush after edits that keep the keys. -/
theorem flush_edited (hsymm : m.Symmetric) (h : Edited m sid g w) (hkey : ∀ row, m.key (g row) = m.key row)
    (hrun : flush m sid w = (.ok (), t)) :
    Synced m sid t ∧ t.rows = w.rows ∧ (t.session sid).rows = (w.session sid).rows.map g ∧
      ∀ r row, Loaded sid w r row → Holds sid t r (g row) := by
  obtain ⟨rows, hwrite, rfl⟩ := flush_ok hrun
  have hupdate : ∀ o ∈ w.dirty sid,
      o.doomed = false ∧ ∃ old, o.loaded = some old ∧ o.value ≠ old ∧ m.key o.value = m.key old := fun o ho => by
    obtain ⟨row, -, hne, rfl⟩ := h.mem_dirty ho
    exact ⟨rfl, row, rfl, hne, hkey row⟩
  have hrows : rows = (w.session sid).rows.map g := by
    rw [foldlM_update hupdate h.dirty_keys hwrite]
    exact List.map_congr_left fun row hrow => h.updated hrow
  have hobjects : ((w.settle sid rows).session sid).objects = (w.session sid).objects := by
    rw [World.settle, World.putSession_self]
    refine List.filter_eq_self.mpr fun r hr => ?_
    obtain ⟨row, -, hloaded⟩ := h.loaded r hr
    simp [hloaded]
  have hsettled : ∀ r row, Loaded sid w r row → Holds sid (w.settle sid rows) r (g row) := by
    rintro r row ⟨hr, value, hobject⟩
    obtain ⟨row', -, hloaded⟩ := h.loaded r hr
    rw [hobject, Option.some.injEq, Obj.mk.injEq, Option.some.injEq] at hloaded
    obtain ⟨rfl, rfl, -⟩ := hloaded
    refine ⟨hobjects ▸ hr, ?_⟩
    simp [World.settle, hr, hobject]
  have hseen : ((w.settle sid rows).session sid).rows = rows := by
    rw [World.settle, World.putSession_self]
  refine ⟨?_, rfl, hseen.trans hrows, hsettled⟩
  constructor
  · rw [World.settle, World.putSession_self]
    exact h.working
  · rw [hseen]
    exact h.distinct.foldlM_write hsymm hwrite
  · rw [hobjects]
    exact h.used
  · rw [hobjects, hseen]
    intro r hr
    obtain ⟨row, hrow, hloaded⟩ := h.loaded r hr
    refine ⟨g row, hrows ▸ List.mem_map_of_mem hrow, ?_⟩
    exact (hsettled r row ⟨hr, g row, hloaded⟩).2
  · rw [hobjects]
    have hids : ∀ r ∈ (w.session sid).objects, (w.settle sid rows).identity m r = w.identity m r := fun r hr => by
      obtain ⟨row, -, hloaded⟩ := h.loaded r hr
      rw [identity_of_loaded (hsettled r row ⟨hr, g row, hloaded⟩).2, identity_of_loaded hloaded, hkey]
    rw [List.map_congr_left hids]
    exact h.single
  · intro row _ hne
    exact absurd rfl hne

/-- The program that changes one object and writes it: its row changes, and the object stays as its row. -/
theorem update_synced {r : Ref} {row : ρ} {v : World ρ ε} (hsymm : m.Symmetric) (hkey : ∀ row, m.key (f row) = m.key row)
    (h : Synced m sid w) (hr : Holds sid w r row) (hassign : assign r f w = (.ok (), u))
    (hflush : flush m sid u = (.ok (), v)) (hrefresh : refresh m sid r v = (.ok (), t)) :
    Synced m sid t ∧ t.rows = w.rows ∧ (t.session sid).rows = (w.session sid).rows.map (editing f id [row]) ∧
      Holds sid t r (f row) := by
  obtain ⟨u', hassign', hedited, hsession, hrows, hkept⟩ := assign_edited (f := f) h hr.loaded
  rw [hassign] at hassign'
  cases hassign'
  have hkeys : ∀ row', m.key (editing f id [row] row') = m.key row' := fun row' => by
    unfold editing
    split
    · exact hkey row'
    · rfl
  obtain ⟨hsynced, hrows', htable, hholds⟩ := flush_edited hsymm hedited hkeys hflush
  have hupdated := hholds r row (hkept r row hr.loaded)
  obtain rfl := refresh_synced hsynced hupdated.1 hrefresh
  rw [editing, if_pos (List.mem_singleton_self row)] at hupdated
  exact ⟨hsynced, hrows'.trans hrows, by rw [htable, hsession], hupdated⟩

theorem dirty_attach (h : Synced m sid w) (v : ρ) :
    (w.attach sid { value := v, loaded := none }).dirty sid = [{ value := v, loaded := none }] := by
  have hold : (w.session sid).objects.filterMap
      (fun r => ((w.attach sid { value := v, loaded := none }).object r).filter Obj.dirty) = w.dirty sid :=
    List.filterMap_congr fun r hr => by rw [attach_object_of_ne (Nat.ne_of_lt (h.used r hr))]
  rw [World.dirty, World.attach_session, List.filterMap_append, hold, Synced.dirty h]
  simp [Obj.dirty, Option.filter]

/-- A flush after a new object was added. -/
theorem flush_added (hsymm : m.Symmetric) {v : ρ} (h : Synced m sid w)
    (hrun : flush m sid (w.attach sid { value := v, loaded := none }) = (.ok (), t)) :
    Synced m sid t ∧ t.rows = w.rows ∧ (t.session sid).rows = (w.session sid).rows ++ [v] ∧ Holds sid t w.refs v := by
  obtain ⟨rows, hwrite, rfl⟩ := flush_ok hrun
  rw [dirty_attach h, World.attach_session] at hwrite
  have hrows : rows = (w.session sid).rows ++ [v] := by
    simp only [List.foldlM_cons, List.foldlM_nil, bind_pure] at hwrite
    cases Mapper.written_of_write hwrite with
    | insert => rfl
    | delete old loaded => cases loaded
    | keep loaded => cases loaded
    | update old loaded => cases loaded
  have hdistinct : m.Distinct rows := h.distinct.foldlM_write hsymm hwrite
  generalize hsettle : (w.attach sid { value := v, loaded := none }).settle sid rows = t
  have hobject : ∀ r ∈ (w.session sid).objects, t.object r = w.object r := fun r hr => by
    obtain ⟨row, -, hloaded⟩ := h.loaded r hr
    rw [← hsettle]
    simp [World.settle, hr, attach_object_of_ne (Nat.ne_of_lt (h.used r hr)), hloaded]
  have hnew : t.object w.refs = some { value := v, loaded := some v } := by
    rw [← hsettle]
    simp [World.settle]
  have hobjects : (t.session sid).objects = (w.session sid).objects ++ [w.refs] := by
    rw [← hsettle, World.settle, World.putSession_self, World.attach_session]
    refine List.filter_eq_self.mpr fun r hr => ?_
    rcases List.mem_append.mp hr with hr | hr
    · obtain ⟨row, -, hloaded⟩ := h.loaded r hr
      simp [attach_object_of_ne (Nat.ne_of_lt (h.used r hr)), hloaded]
    · rw [List.mem_singleton.mp hr]
      simp
  have hseen : (t.session sid).rows = rows := by
    rw [← hsettle, World.settle, World.putSession_self]
  have hloaded : ∀ r ∈ (t.session sid).objects, ∃ row ∈ (t.session sid).rows,
      t.object r = some { value := row, loaded := some row } := fun r hr => by
    rw [hobjects, List.mem_append, List.mem_singleton] at hr
    rw [hseen, hrows]
    rcases hr with hr | rfl
    · obtain ⟨row, hrow, hloaded⟩ := h.loaded r hr
      exact ⟨row, List.mem_append_left _ hrow, (hobject r hr).trans hloaded⟩
    · exact ⟨v, List.mem_append_right _ (List.mem_singleton_self v), hnew⟩
  refine ⟨?_, by rw [← hsettle]; rfl, hseen.trans hrows, ?_, hnew⟩
  · constructor
    · rw [← hsettle, World.settle, World.putSession_self, World.attach_session]
      exact h.working
    · rw [hseen]
      exact hdistinct
    · intro r hr
      have hrefs : t.refs = w.refs + 1 := by rw [← hsettle]; rfl
      rw [hobjects, List.mem_append, List.mem_singleton] at hr
      rw [hrefs]
      rcases hr with hr | rfl
      · exact Nat.lt_succ_of_lt (h.used r hr)
      · exact Nat.lt_succ_self _
    · exact hloaded
    · have hids : ∀ r ∈ (w.session sid).objects, t.identity m r = w.identity m r := fun r hr => by
        rw [World.identity, hobject r hr, World.identity]
      rw [hobjects, List.map_append, List.map_congr_left hids, List.map_singleton, identity_of_loaded hnew]
      refine List.nodup_append.mpr ⟨h.single, List.nodup_singleton _, fun a ha b hb => ?_⟩
      obtain ⟨r, hr, rfl⟩ := List.mem_map.mp ha
      obtain ⟨row, hrow, hrowLoaded⟩ := h.loaded r hr
      rw [List.mem_singleton.mp hb, identity_of_loaded hrowLoaded]
      rw [hrows] at hdistinct
      have hfree := (List.pairwise_append.mp hdistinct).2.2 row hrow v (List.mem_singleton_self v)
      simpa using key_ne_of_not_collides hfree
    · intro row _ hne
      exact absurd rfl hne
  · rw [hobjects]
    exact List.mem_append_right _ (List.mem_singleton_self _)

theorem commit_synced (h : Synced m sid w) (hrun : commit m sid w = (.ok (), t)) : t.rows = (w.session sid).rows := by
  obtain ⟨_, u, hflush, hrest⟩ := Eff.bind_eq_ok.mp hrun
  obtain ⟨rows, hwrite, rfl⟩ := flush_ok hflush
  rw [Synced.dirty h] at hwrite
  cases hwrite
  obtain ⟨_, v, hcall, hmodify⟩ := Eff.bind_eq_ok.mp hrest
  obtain ⟨rfl, -⟩ := call_ok hcall
  cases hmodify
  change ((w.settle sid (w.session sid).rows).session sid).rows = _
  rw [World.settle, World.putSession_self]

theorem commit_ok_fails (hrun : commit m sid w = (.ok (), t)) : w.fails .commit = none := by
  obtain ⟨_, u, hflush, hrest⟩ := Eff.bind_eq_ok.mp hrun
  obtain ⟨rows, -, rfl⟩ := flush_ok hflush
  obtain ⟨_, v, hcall, -⟩ := Eff.bind_eq_ok.mp hrest
  exact (call_ok hcall).2

/-- The commit of a session with nothing to write. -/
theorem commit_synced_run (h : Synced m sid w) (hfails : w.fails .commit = none) :
    commit m sid w = (.ok (), { w with rows := (w.session sid).rows }) := by
  have hflush : flush m sid w = (.ok (), w) := by
    rw [flush, World.flushed, Synced.dirty h, List.isEmpty_nil, if_pos rfl]
    exact congrArg _ (settle_synced h)
  rw [commit, Eff.bind_of_ok hflush, Eff.bind_of_ok (call_run h.working hfails)]
  rfl

end Keys
end SmartHome.Orm
