import SmartHome.Lib.OrmTransaction

/-! # Sessions with one object

What a session does that holds the object of at most one row: which calls succeed, and what they leave. -/

namespace SmartHome.Orm

variable {κ ρ ε α : Type}

/-- The session sees `table` while `committed` is committed, and holds at most the one object. -/
structure Solo (sid : SessionId) (committed table : List ρ) (fails : DbCall → Option ε) (held : Option (Ref × Obj ρ))
    (w : World ρ ε) : Prop where
  rows : w.rows = committed
  table : (w.session sid).rows = table
  fails : w.fails = fails
  working : (w.session sid).failed = false
  objects : (w.session sid).objects = held.toList.map Prod.fst
  object : ∀ r o, held = some (r, o) → w.object r = some o

section
variable {m : Mapper κ ρ ε} {sid : SessionId} {committed table : List ρ} {fails : DbCall → Option ε} {w : World ρ ε}

theorem solo_openSession (w : World ρ ε) : Solo w.sessions w.rows w.rows w.fails none w.openSession where
  rows := rfl
  table := by simp
  fails := rfl
  working := by simp
  objects := by simp
  object := nofun

theorem solo_attach {o : Obj ρ} (h : Solo sid committed table fails none w) :
    Solo sid committed table fails (some (w.refs, o)) (w.attach sid o) where
  rows := h.rows
  table := by rw [World.attach_session, h.table]
  fails := h.fails
  working := by rw [World.attach_session, h.working]
  objects := by rw [World.attach_session, h.objects]; rfl
  object r o' heq := by
    cases heq
    exact World.attach_object ..

theorem add_solo {v : ρ} (h : Solo sid committed table fails none w) :
    ∃ t, (add sid v : Eff (World ρ ε) ε Ref) w = (.ok w.refs, t) ∧
      Solo sid committed table fails (some (w.refs, { value := v, loaded := none })) t :=
  ⟨_, rfl, solo_attach h⟩

theorem assign_solo {r : Ref} {o : Obj ρ} (f : ρ → ρ) (h : Solo sid committed table fails (some (r, o)) w) :
    ∃ t, (assign r f : Eff (World ρ ε) ε Unit) w = (.ok (), t) ∧
      Solo sid committed table fails (some (r, { o with value := f o.value })) t := by
  refine ⟨w.putObject r { o with value := f o.value }, ?_, ⟨h.rows, h.table, h.fails, h.working, h.objects, ?_⟩⟩
  · rw [assign, Eff.modify_run, h.object r o rfl]
  · intro r' o' heq
    cases heq
    exact World.putObject_self ..

theorem read_solo {r : Ref} {o : Obj ρ} (h : Solo sid committed table fails (some (r, o)) w) :
    read m r w = (.ok o.value, w) := read_run (h.object r o rfl)

variable [DecidableEq κ]

section
variable {query : List ρ → List ρ} {row : ρ}

theorem lookup_solo_nil {held : Option (Ref × Obj ρ)} (h : Solo sid committed table fails held w)
    (hfails : fails .select = none) (hquery : query table = []) : lookup m sid query w = (.ok none, w) := by
  have hselect : select m sid query w = (.ok [], w) :=
    select_nil h.working (h.fails ▸ hfails) (h.table ▸ hquery)
  rw [lookup, Eff.bind_of_ok hselect]
  rfl

theorem lookup_solo_first (h : Solo sid committed table fails none w) (hfails : fails .select = none)
    (hquery : query table = [row]) :
    ∃ t, lookup m sid query w = (.ok (some w.refs), t) ∧
      Solo sid committed table fails (some (w.refs, { value := row, loaded := some row })) t := by
  have hselect : select m sid query w = (.ok [w.refs], w.attach sid { value := row, loaded := some row }) :=
    select_singleton h.objects h.working (h.fails ▸ hfails) (h.table ▸ hquery)
  refine ⟨_, ?_, solo_attach h⟩
  rw [lookup, Eff.bind_of_ok hselect]
  rfl

/-- The object is found again, whatever was assigned to it. -/
theorem lookup_solo_again {r : Ref} {o : Obj ρ} (h : Solo sid committed table fails (some (r, o)) w)
    (hfails : fails .select = none) (hquery : query table = [row]) (hidentity : o.loaded.map m.key = some (m.key row)) :
    lookup m sid query w = (.ok (some r), w) := by
  have hload : load m sid row w = (.ok r, w) := by
    have hkey : w.identity m r = some (m.key row) := by
      rw [World.identity, h.object r o rfl, Option.bind_some, hidentity]
    rw [load, h.objects]
    simp [hkey]
  have hselect : select m sid query w = (.ok [r], w) := by
    have hquery' : query (w.session sid).rows = [row] := h.table ▸ hquery
    unfold select
    rw [Eff.bind_of_ok (call_run h.working (h.fails ▸ hfails)), Eff.gets_bind_run, hquery']
    simp only [loadAll, Eff.bind_of_ok hload]
    rfl
  rw [lookup, Eff.bind_of_ok hselect]
  rfl

end

theorem refresh_solo {r : Ref} {row : ρ} (h : Solo sid committed table fails (some (r, { value := row, loaded := some row })) w)
    (hfails : fails .refresh = none) (hdistinct : m.Distinct table) (hrow : row ∈ table) :
    refresh m sid r w = (.ok (), w) := by
  have hobject := h.object r _ rfl
  have hpersistent : w.persistent sid r = true := by
    rw [World.persistent, h.objects, hobject]
    simp
  obtain ⟨found, hfound⟩ : ∃ found, table.find? (fun row' => some (m.key row') == w.identity m r) = some found := by
    refine Option.isSome_iff_exists.mp (List.find?_isSome.mpr ⟨row, hrow, ?_⟩)
    rw [World.identity, hobject]
    simp
  have hkey : m.key found = m.key row := by
    have hidentity := List.find?_some hfound
    rw [World.identity, hobject] at hidentity
    simpa using hidentity
  have hsame : found = row := hdistinct.eq_of_key (List.mem_of_find?_eq_some hfound) hrow hkey
  rw [refresh, if_pos hpersistent, Eff.bind_of_ok (call_run h.working (h.fails ▸ hfails)), h.table, hfound, hsame]
  dsimp only
  rw [Eff.modify_run, putObject_same hobject]

variable [DecidableEq ρ]

theorem loaded_clean (v : ρ) : ({ value := v, loaded := some v } : Obj ρ).dirty = false := by
  simp [Obj.dirty]

theorem dirty_solo_none (h : Solo sid committed table fails none w) : w.dirty sid = [] := by
  rw [World.dirty, h.objects]
  rfl

theorem dirty_solo {r : Ref} {o : Obj ρ} (h : Solo sid committed table fails (some (r, o)) w) :
    w.dirty sid = if o.dirty then [o] else [] := by
  rw [World.dirty, h.objects]
  simp only [Option.toList_some, List.map_cons, List.map_nil, List.filterMap_cons, List.filterMap_nil,
    h.object r o rfl, Option.filter_some]
  cases o.dirty <;> rfl

/-- What the flush of one object does to the table. -/
def Mapper.writes (m : Mapper κ ρ ε) (table : List ρ) (fails : DbCall → Option ε) (o : Obj ρ) : Except ε (List ρ) :=
  if !o.dirty then .ok table
  else match fails .flush with
    | some e => .error e
    | none => (m.write table o).mapError m.error

/-- A write that succeeds has put the object's value into the table, and no other. -/
theorem write_ok {o : Obj ρ} {rows : List ρ} (hlive : o.doomed = false)
    (hold : ∀ old, o.loaded = some old → old ∈ table) (h : m.write table o = .ok rows) :
    o.value ∈ rows ∧ (∀ row ∈ rows, row ∈ table ∨ row = o.value) ∧ (m.fits o.value = true ∨ o.value ∈ table) := by
  cases Mapper.written_of_write h with
  | insert loaded fits free =>
    refine ⟨List.mem_append_right _ (List.mem_singleton_self _), fun row hrow => ?_, Or.inl fits⟩
    rwa [List.mem_append, List.mem_singleton] at hrow
  | delete old loaded doomed => cases hlive.symm.trans doomed
  | keep loaded live =>
    have hmem := hold _ loaded
    exact ⟨hmem, fun row hrow => Or.inl hrow, Or.inr hmem⟩
  | update old loaded live changed fits free =>
    have hself : m.sameKey old old = true := beq_self_eq_true (m.key old)
    refine ⟨List.mem_map.mpr ⟨old, hold old loaded, if_pos hself⟩, fun row hrow => ?_, Or.inl fits⟩
    obtain ⟨other, hother, rfl⟩ := List.mem_map.mp hrow
    split
    · exact Or.inr rfl
    · exact Or.inl hother

theorem writes_ok {o : Obj ρ} {rows : List ρ} (hsymm : m.Symmetric) (hdistinct : m.Distinct table)
    (hlive : o.doomed = false) (hold : ∀ old, o.loaded = some old → old ∈ table)
    (h : m.writes table fails o = .ok rows) :
    m.Distinct rows ∧ o.value ∈ rows ∧ (∀ row ∈ rows, row ∈ table ∨ row = o.value) ∧
      (m.fits o.value = true ∨ o.value ∈ table) := by
  rw [Mapper.writes] at h
  cases hdirty : o.dirty with
  | false =>
    rw [hdirty] at h
    cases h
    rw [Obj.dirty, hlive, Bool.false_or, bne_eq_false_iff_eq] at hdirty
    exact ⟨hdistinct, hold _ hdirty, fun row hrow => Or.inl hrow, Or.inr (hold _ hdirty)⟩
  | true =>
    rw [hdirty, Bool.not_true, if_neg Bool.false_ne_true] at h
    split at h
    · cases h
    · have hwrite : m.write table o = .ok rows := by
        rcases hrows : m.write table o with e | rows' <;> rw [hrows] at h
        · cases h
        · cases h
          rfl
      exact ⟨hdistinct.write hsymm hwrite, write_ok hlive hold hwrite⟩

theorem flushed_solo {r : Ref} {o : Obj ρ} (h : Solo sid committed table fails (some (r, o)) w) :
    w.flushed m sid = m.writes table fails o := by
  rw [World.flushed, dirty_solo h, h.table, h.working, h.fails, Mapper.writes]
  cases o.dirty with
  | false => rfl
  | true =>
    simp only [if_true, List.isEmpty_cons, Bool.false_eq_true, if_false, List.foldlM_cons, List.foldlM_nil, Bool.not_true]
    cases fails .flush with
    | some e => rfl
    | none => rcases m.write table o with e | rows <;> rfl

theorem flush_solo_ok {r : Ref} {o : Obj ρ} {rows : List ρ} (h : Solo sid committed table fails (some (r, o)) w)
    (hlive : o.doomed = false) (hwrites : m.writes table fails o = .ok rows) :
    ∃ t, flush m sid w = (.ok (), t) ∧
      Solo sid committed rows fails (some (r, { value := o.value, loaded := some o.value })) t := by
  refine ⟨w.settle sid rows, ?_, ⟨h.rows, ?_, h.fails, ?_, ?_, ?_⟩⟩
  · rw [flush, flushed_solo h, hwrites]
  · rw [World.settle, World.putSession_self]
  · rw [World.settle, World.putSession_self, h.working]
  · rw [World.settle, World.putSession_self, h.objects]
    simp [h.object r o rfl, hlive]
  · intro r' o' heq
    cases heq
    have hattached : r ∈ (w.session sid).objects := by
      rw [h.objects]
      exact List.mem_singleton_self r
    simp only [World.settle, if_pos hattached, h.object r o rfl]
    rfl

/-- After a flush that failed the session answers nothing. -/
theorem flush_solo_error {r : Ref} {o : Obj ρ} {e : ε} (h : Solo sid committed table fails (some (r, o)) w)
    (hwrites : m.writes table fails o = .error e) :
    ∃ t, flush m sid w = (.error e, t) ∧ t.rows = committed ∧
      ∀ query, lookup m sid query t = (.error (m.error .invalidRequest), t) := by
  refine ⟨w.fail sid, ?_, h.rows, fun query => ?_⟩
  · rw [flush, flushed_solo h, hwrites]
  · have hcall : call m sid .select (w.fail sid) = (.error (m.error .invalidRequest), w.fail sid) := by
      rw [call, World.fail, World.putSession_self]
      rfl
    rw [lookup, select, Eff.bind_of_error (Eff.bind_of_error hcall)]

/-- With nothing to write, a commit makes the session's table the committed one. -/
theorem commit_solo {held : Option (Ref × Obj ρ)} (h : Solo sid committed table fails held w)
    (hclean : ∀ r o, held = some (r, o) → o.dirty = false) :
    (fails .commit = none → ∃ t, commit m sid w = (.ok (), t) ∧ t.rows = table) ∧
      ∀ e, fails .commit = some e → ∃ t, commit m sid w = (.error e, t) ∧ t.rows = committed := by
  have hflushed : w.flushed m sid = .ok table := by
    have hdirty : w.dirty sid = [] := by
      cases held with
      | none => exact dirty_solo_none h
      | some held => rw [dirty_solo h, hclean _ _ rfl]; rfl
    rw [World.flushed, hdirty, h.table]
    rfl
  have hflush : flush m sid w = (.ok (), w.settle sid table) := by rw [flush, hflushed]
  have hworking : ((w.settle sid table).session sid).failed = false := by
    rw [World.settle, World.putSession_self, h.working]
  have htable : ((w.settle sid table).session sid).rows = table := by rw [World.settle, World.putSession_self]
  have hsame : (w.settle sid table).fails = fails := h.fails
  constructor
  · intro hfails
    refine ⟨{ w.settle sid table with rows := ((w.settle sid table).session sid).rows }, ?_, htable⟩
    rw [commit, Eff.bind_of_ok hflush, Eff.bind_of_ok (call_run hworking (hsame ▸ hfails))]
    rfl
  · intro e hfails
    have hcall : call m sid .commit (w.settle sid table) = (.error e, w.settle sid table) := by
      rw [call, hworking, hsame, hfails]
      rfl
    refine ⟨w.settle sid table, ?_, h.rows⟩
    rw [commit, Eff.bind_of_ok hflush, Eff.bind_of_error hcall]

end

end SmartHome.Orm
