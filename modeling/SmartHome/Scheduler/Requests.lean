import SmartHome.Scheduler.Service

/-! # What a schedule request does

A request either raises before it changes anything, or it changes the job of its schedule and then runs to
its commit. `plan` tells the two apart and says what the second kind does; `handle_of_plan` and
`handle_of_no_plan` tie it to the program. -/

namespace SmartHome

/-- What a request does to the job of its schedule. -/
inductive JobEffect (T : Type) where
  | keep
  | add (job : Job T)
  | remove

namespace JobEffect
variable {T : Type}

/-- The job table after the effect. -/
def apply (f : JobEffect T) (id : Uuid) (s : Stores T) : Stores T :=
  match f with
  | keep => s
  | add job => s.addJob (.schedule id) job
  | remove => s.removeJob (.schedule id)

/-- The job of the schedule after the effect. -/
def after : JobEffect T → Option (Job T) → Option (Job T)
  | keep, job => job
  | add job, _ => some job
  | remove, _ => none

@[simp] theorem apply_rows (f : JobEffect T) (id : Uuid) (s : Stores T) : (f.apply id s).rows = s.rows := by
  cases f <;> rfl

@[simp] theorem apply_job_self (f : JobEffect T) (id : Uuid) (s : Stores T) :
    (f.apply id s).job id = f.after (s.job id) := by
  cases f with
  | keep => rfl
  | add job => exact s.addJob_job_self id job
  | remove => exact s.removeJob_job_self id

theorem apply_job_of_ne (f : JobEffect T) {id other : Uuid} (s : Stores T) (h : other ≠ id) :
    (f.apply id s).job other = s.job other := by
  cases f with
  | keep => rfl
  | add job => exact s.addJob_job_of_ne job h
  | remove => exact s.removeJob_job_of_ne h

theorem apply_eq_self_iff (f : JobEffect T) (id : Uuid) (s : Stores T) :
    f.apply id s = s ↔ f.after (s.job id) = s.job id := by
  constructor
  · intro h
    rw [← apply_job_self, h]
  · intro h
    cases f with
    | keep => rfl
    | add job =>
      have hjob : s.jobs (.schedule id) = some job := h.symm
      show Stores.addJob _ job s = s
      unfold Stores.addJob
      rw [← hjob, Function.update_eq_self]
    | remove =>
      have hjob : s.jobs (.schedule id) = none := h.symm
      show Stores.removeJob _ s = s
      unfold Stores.removeJob
      rw [← hjob, Function.update_eq_self]

theorem apply_putRow (f : JobEffect T) (id : Uuid) (row : Schedule) {s : Stores T} :
    f.apply id (s.putRow row) = (f.apply id s).putRow row := by
  cases f <;> rfl

theorem rollback_apply_putRow (f : JobEffect T) (id : Uuid) (row : Schedule) {s : Stores T} :
    { f.apply id (s.putRow row) with rows := s.rows } = f.apply id s := by
  cases f <;> rfl

end JobEffect

namespace Request
variable {T : Type} {aps : Apscheduler T} {r : Request} {s : Stores T}

/-- The effect of `_register_apscheduler_job`. -/
def registerEffect (aps : Apscheduler T) (now : DateTime) (row : Schedule) : Except PyError (JobEffect T) :=
  match buildTrigger aps now row.triggerType row.triggerConfig with
  | .error e => .error e
  | .ok none => .ok .keep
  | .ok (some trigger) => .ok (.add { trigger, task := .jobFunc row.id row.actionConfig })

/-- The effect of `_sync_apscheduler_job`. -/
def syncEffect (aps : Apscheduler T) (now : DateTime) (row : Schedule) : Except PyError (JobEffect T) :=
  if row.isEnabled then registerEffect aps now row else .ok .remove

/-- The effect of a new schedule. -/
def createEffect (aps : Apscheduler T) (now : DateTime) (row : Schedule) : Except PyError (JobEffect T) :=
  if row.isEnabled then registerEffect aps now row else .ok .keep

/-- What a request does once it gets to the job table. -/
structure Plan (T : Type) where
  id : Uuid
  effect : JobEffect T
  /-- The row that is committed, `none` for a delete. -/
  row : Option Schedule
  /-- The failure after the change of the job table. -/
  late : Option PyError

/-- None of the calls fails. -/
def passes (r : Request) (calls : List DbCall) : Bool := calls.all fun c => (r.fails c).isNone

/-- The plan of a request, `none` when it raises before it gets to the job table. -/
def plan (aps : Apscheduler T) (r : Request) (s : Stores T) : Option (Plan T) :=
  match r.body with
  | .create id data createdBy =>
    if r.passes [.flush, .refresh] && (s.rows.find id).isNone then
      (createEffect aps r.now (data.row id createdBy)).toOption.map fun effect =>
        { id, effect, row := some (data.row id createdBy), late := r.fails .commit }
    else none
  | .update id data =>
    if r.passes [.select, .flush, .refresh] then
      (s.rows.find id).bind fun row => (syncEffect aps r.now (data.updated row)).toOption.map fun effect =>
        { id, effect, row := some (data.updated row), late := r.fails .commit }
    else none
  | .delete id =>
    if r.passes [.select] then
      (s.rows.find id).map fun _ =>
        { id, effect := .remove, row := none, late := (r.fails .flush).orElse fun _ => r.fails .commit }
    else none

/-- The stores after the plan. -/
def Plan.finish (p : Plan T) (s : Stores T) : Stores T :=
  match p.late, p.row with
  | some _, _ => p.effect.apply p.id s
  | none, some row => (p.effect.apply p.id s).putRow row
  | none, none => (p.effect.apply p.id s).eraseRow p.id

/-! ### Plans -/

theorem registerEffect_eq_ok {now : DateTime} {row : Schedule} {f : JobEffect T} :
    registerEffect aps now row = .ok f ↔
      (buildTrigger aps now row.triggerType row.triggerConfig = .ok none ∧ f = .keep) ∨
        ∃ trigger, buildTrigger aps now row.triggerType row.triggerConfig = .ok (some trigger) ∧
          f = .add { trigger, task := .jobFunc row.id row.actionConfig } := by
  unfold registerEffect
  rcases buildTrigger aps now row.triggerType row.triggerConfig with e | _ | trigger <;> simp [eq_comm]

section
variable {now : DateTime} {row : Schedule}

theorem syncEffect_of_enabled (h : row.isEnabled = true) : syncEffect aps now row = registerEffect aps now row :=
  if_pos h

theorem syncEffect_of_disabled (h : row.isEnabled = false) : syncEffect aps now row = .ok .remove :=
  if_neg (Bool.eq_false_iff.mp h)

theorem createEffect_of_enabled (h : row.isEnabled = true) : createEffect aps now row = registerEffect aps now row :=
  if_pos h

theorem createEffect_of_disabled (h : row.isEnabled = false) : createEffect aps now row = .ok .keep :=
  if_neg (Bool.eq_false_iff.mp h)

end

theorem passes_cons {c : DbCall} {calls : List DbCall} :
    r.passes (c :: calls) = true ↔ r.fails c = none ∧ r.passes calls = true := by
  simp [passes]

@[simp] theorem passes_nil : r.passes [] = true := rfl

theorem passes_concat {c : DbCall} {calls : List DbCall} :
    r.passes (calls ++ [c]) = true ↔ r.passes calls = true ∧ r.fails c = none := by
  simp [passes]

theorem toOption_eq_some {α : Type} {e : Except PyError α} {a : α} : e.toOption = some a ↔ e = .ok a := by
  cases e <;> simp [Except.toOption]

theorem plan_create_iff {id : Uuid} {data : ScheduleCreate} {createdBy : Option Uuid} {p : Plan T}
    (hbody : r.body = .create id data createdBy) :
    r.plan aps s = some p ↔ r.passes [.flush, .refresh] = true ∧ s.rows.find id = none ∧
      ∃ f, createEffect aps r.now (data.row id createdBy) = .ok f ∧
        { id, effect := f, row := some (data.row id createdBy), late := r.fails .commit } = p := by
  simp only [plan, hbody]
  split
  next h =>
    rw [Bool.and_eq_true, Option.isNone_iff_eq_none] at h
    simp [h.1, h.2, toOption_eq_some]
  next h =>
    rw [Bool.and_eq_true, Option.isNone_iff_eq_none] at h
    constructor
    · intro hp
      cases hp
    · rintro ⟨hpass, hfree, -⟩
      exact absurd ⟨hpass, hfree⟩ h

theorem plan_update_iff {id : Uuid} {data : ScheduleUpdate} {p : Plan T} (hbody : r.body = .update id data) :
    r.plan aps s = some p ↔ r.passes [.select, .flush, .refresh] = true ∧ ∃ row, s.rows.find id = some row ∧
      ∃ f, syncEffect aps r.now (data.updated row) = .ok f ∧
        { id, effect := f, row := some (data.updated row), late := r.fails .commit } = p := by
  simp only [plan, hbody]
  split
  next h => simp [h, Option.bind_eq_some_iff, toOption_eq_some]
  next h => simp [h]

theorem plan_delete_iff {id : Uuid} {p : Plan T} (hbody : r.body = .delete id) :
    r.plan aps s = some p ↔ r.passes [.select] = true ∧ ∃ row, s.rows.find id = some row ∧
      { id, effect := .remove, row := none, late := (r.fails .flush).orElse fun _ => r.fails .commit } = p := by
  simp only [plan, hbody]
  split
  next h => simp [h]
  next h => simp [h]

theorem plan_row_id {p : Plan T} (h : r.plan aps s = some p) {row : Schedule} (hrow : p.row = some row) :
    row.id = p.id := by
  cases hbody : r.body with
  | create id data createdBy =>
    obtain ⟨-, -, f, -, rfl⟩ := (plan_create_iff hbody).mp h
    cases hrow
    rfl
  | update id data =>
    obtain ⟨-, loaded, hfind, f, -, rfl⟩ := (plan_update_iff hbody).mp h
    cases hrow
    show loaded.id = id
    exact s.rows.keyed hfind
  | delete id =>
    obtain ⟨-, loaded, -, rfl⟩ := (plan_delete_iff hbody).mp h
    cases hrow

/-- A plan registers the job of an enabled row, or removes the job, or leaves the job of a new disabled row. -/
theorem plan_cases {p : Plan T} (h : r.plan aps s = some p) :
    (∃ row, p.row = some row ∧ row.isEnabled = true ∧ registerEffect aps r.now row = .ok p.effect) ∨
      ((∀ row, p.row = some row → row.isEnabled = false) ∧
        (p.effect = .remove ∨ p.effect = .keep ∧ s.rows.find p.id = none)) := by
  cases hbody : r.body with
  | create id data createdBy =>
    obtain ⟨-, hfree, f, hf, rfl⟩ := (plan_create_iff hbody).mp h
    rcases henabled : (data.row id createdBy).isEnabled with _ | _
    · rw [createEffect_of_disabled henabled] at hf
      cases hf
      refine Or.inr ⟨?_, Or.inr ⟨rfl, hfree⟩⟩
      rintro row ⟨⟩
      exact henabled
    · rw [createEffect_of_enabled henabled] at hf
      exact Or.inl ⟨_, rfl, henabled, hf⟩
  | update id data =>
    obtain ⟨-, loaded, -, f, hf, rfl⟩ := (plan_update_iff hbody).mp h
    rcases henabled : (data.updated loaded).isEnabled with _ | _
    · rw [syncEffect_of_disabled henabled] at hf
      cases hf
      refine Or.inr ⟨?_, Or.inl rfl⟩
      rintro row ⟨⟩
      exact henabled
    · rw [syncEffect_of_enabled henabled] at hf
      exact Or.inl ⟨_, rfl, henabled, hf⟩
  | delete id =>
    obtain ⟨-, loaded, -, rfl⟩ := (plan_delete_iff hbody).mp h
    exact Or.inr ⟨by rintro row ⟨⟩, Or.inl rfl⟩

theorem Plan.finish_job_self (p : Plan T) : (p.finish s).job p.id = p.effect.after (s.job p.id) := by
  unfold Plan.finish
  split <;> simp

theorem Plan.finish_job_of_ne (p : Plan T) {other : Uuid} (h : other ≠ p.id) :
    (p.finish s).job other = s.job other := by
  unfold Plan.finish
  split <;> simp [p.effect.apply_job_of_ne s h]

theorem Plan.finish_of_late {p : Plan T} (h : p.late ≠ none) : p.finish s = p.effect.apply p.id s := by
  obtain ⟨e, he⟩ := Option.ne_none_iff_exists'.mp h
  unfold Plan.finish
  rw [he]

theorem Plan.finish_find_self {p : Plan T} (hrow : ∀ row, p.row = some row → row.id = p.id) (h : p.late = none) :
    (p.finish s).rows.find p.id = p.row := by
  unfold Plan.finish
  rw [h]
  rcases hr : p.row with _ | row
  · simp
  · have hid := hrow row hr
    rw [← hid]
    simp

theorem Plan.finish_find_of_ne {p : Plan T} (hrow : ∀ row, p.row = some row → row.id = p.id) {other : Uuid}
    (h : other ≠ p.id) : (p.finish s).rows.find other = s.rows.find other := by
  unfold Plan.finish
  rcases p.late with _ | e
  · rcases hr : p.row with _ | row
    · simp [ScheduleTable.find_erase_of_ne _ h]
    · have hid := hrow row hr
      rw [← hid] at h
      simp [ScheduleTable.find_put_of_ne _ h]
  · simp

/-! ### The parts of a request -/

theorem call_of_none {c : DbCall} (h : r.fails c = none) : r.call c s = (.ok (), s) := by
  simp [call, h]

theorem call_of_some {c : DbCall} {e : PyError} (h : r.fails c = some e) : r.call c s = (.error e, s) := by
  simp [call, h]

theorem registerApschedulerJob_run (row : Schedule) :
    r.registerApschedulerJob aps row s =
      match registerEffect aps r.now row with
      | .error e => (.error e, s)
      | .ok f => (.ok (), f.apply row.id s) := by
  unfold registerApschedulerJob registerEffect
  rcases buildTrigger aps r.now row.triggerType row.triggerConfig with e | _ | trigger <;> rfl

theorem syncApschedulerJob_run (aps : Apscheduler T) (r : Request) (s : Stores T) (row : Schedule) :
    r.syncApschedulerJob aps row s =
      match syncEffect aps r.now row with
      | .error e => (.error e, s)
      | .ok f => (.ok (), f.apply row.id s) := by
  unfold syncApschedulerJob syncEffect
  split
  · exact registerApschedulerJob_run row
  · rfl

theorem refresh_of_find {id : Uuid} {row : Schedule} (hpass : r.fails .refresh = none)
    (hfind : s.rows.find id = some row) : r.refresh id s = (.ok row, s) := by
  unfold refresh
  rw [Eff.bind_of_ok (call_of_none hpass), Eff.gets_bind_run, hfind]
  rfl

theorem refresh_of_fails {id : Uuid} {e : PyError} (h : r.fails .refresh = some e) :
    r.refresh id s = (.error e, s) := by
  unfold refresh
  exact Eff.bind_of_error (call_of_some h)

/-- The program raises, and leaves the job table as it was. -/
def FailsCleanly {α : Type} (m : Py (Stores T) α) (s : Stores T) : Prop := ∃ e t, m s = (.error e, t) ∧ t.jobs = s.jobs

theorem FailsCleanly.bind {α β : Type} {m : Py (Stores T) α} (h : FailsCleanly m s) (f : α → Py (Stores T) β) :
    FailsCleanly (m >>= f) s := by
  obtain ⟨e, t, hm, hjobs⟩ := h
  exact ⟨e, t, Eff.bind_of_error hm, hjobs⟩

theorem FailsCleanly.after {α β : Type} {m : Py (Stores T) α} {f : α → Py (Stores T) β} {a : α} {t : Stores T}
    (hm : m s = (.ok a, t)) (hjobs : t.jobs = s.jobs) (h : FailsCleanly (f a) t) : FailsCleanly (m >>= f) s := by
  obtain ⟨e, u, hf, hu⟩ := h
  exact ⟨e, u, by rw [Eff.bind_of_ok hm, hf], hu.trans hjobs⟩

theorem FailsCleanly.call {c : DbCall} (h : r.fails c ≠ none) : FailsCleanly (r.call c) s := by
  obtain ⟨e, he⟩ := Option.ne_none_iff_exists'.mp h
  exact ⟨e, s, call_of_some he, rfl⟩

theorem insert_of_passes {row : Schedule} (hpass : r.passes [.flush, .refresh] = true)
    (hfree : s.rows.find row.id = none) : r.insert row s = (.ok row, s.putRow row) := by
  obtain ⟨hflush, hrefresh, -⟩ : r.fails .flush = none ∧ r.fails .refresh = none ∧ True := by
    simpa [passes_cons] using hpass
  unfold insert
  rw [Eff.bind_of_ok (call_of_none hflush), Eff.gets_bind_run]
  simp only [hfree]
  rw [Eff.modify_bind_run]
  exact refresh_of_find hrefresh (s.rows.find_put_self row)

theorem insert_fails {row : Schedule} (h : ¬ (r.passes [.flush, .refresh] = true ∧ s.rows.find row.id = none)) :
    FailsCleanly (r.insert row) s := by
  unfold insert
  by_cases hflush : r.fails .flush = none
  · refine FailsCleanly.after (call_of_none hflush) rfl ?_
    rcases hfind : s.rows.find row.id with _ | other
    · obtain ⟨e, hrefresh⟩ : ∃ e, r.fails .refresh = some e := by
        rw [← Option.ne_none_iff_exists']
        intro hrefresh
        exact h ⟨by simp [passes_cons, hflush, hrefresh], hfind⟩
      refine ⟨e, s.putRow row, ?_, rfl⟩
      rw [Eff.gets_bind_run]
      simp only [hfind]
      rw [Eff.modify_bind_run]
      exact refresh_of_fails hrefresh
    · refine ⟨.integrityError, s, ?_, rfl⟩
      rw [Eff.gets_bind_run]
      simp only [hfind]
      rfl
  · exact (FailsCleanly.call hflush).bind _

theorem putRow_of_find {row : Schedule} (h : s.rows.find row.id = some row) : s.putRow row = s := by
  have hrows : s.rows.put row = s.rows := by
    ext1 id
    by_cases hid : id = row.id
    · rw [hid, ScheduleTable.find_put_self, h]
    · exact s.rows.find_put_of_ne hid
  show { s with rows := s.rows.put row } = s
  rw [hrows]

theorem write_of_passes {row : Schedule} (data : ScheduleUpdate) (hpass : r.passes [.flush, .refresh] = true)
    (hfind : s.rows.find row.id = some row) :
    r.write row data s = (.ok (data.updated row), s.putRow (data.updated row)) := by
  obtain ⟨hflush, hrefresh, -⟩ : r.fails .flush = none ∧ r.fails .refresh = none ∧ True := by
    simpa [passes_cons] using hpass
  unfold write
  rw [Eff.bind_of_ok (call_of_none hflush)]
  rcases hempty : (data.changes row).isEmpty with _ | _
  · have hwritten : (s.putRow (data.updated row)).rows.find row.id = some (data.updated row) :=
      s.rows.find_put_self (data.updated row)
    simp only [Bool.not_false, if_true, Eff.bind_run, Eff.gets_run, hfind, Eff.modify_run]
    exact refresh_of_find hrefresh hwritten
  · have hsame : data.updated row = row := ScheduleUpdate.apply_of_isEmpty hempty row
    simp only [Bool.not_true, Bool.false_eq_true, if_false, hsame, putRow_of_find hfind]
    exact refresh_of_find hrefresh hfind

theorem write_fails {row : Schedule} {data : ScheduleUpdate} (h : r.passes [.flush, .refresh] ≠ true) :
    FailsCleanly (r.write row data) s := by
  unfold write
  by_cases hflush : r.fails .flush = none
  · refine FailsCleanly.after (call_of_none hflush) rfl ?_
    obtain ⟨e, hrefresh⟩ : ∃ e, r.fails .refresh = some e := by
      rw [← Option.ne_none_iff_exists']
      intro hrefresh
      exact h (by simp [passes_cons, hflush, hrefresh])
    rcases hempty : (data.changes row).isEmpty with _ | _
    · rcases hfind : s.rows.find row.id with _ | current
      · refine ⟨.staleData, s, ?_, rfl⟩
        simp [Eff.bind_run, hfind]
      · refine ⟨e, s.putRow ((data.changes row).apply current), ?_, rfl⟩
        simp [Eff.bind_run, hfind, refresh_of_fails hrefresh]
    · refine ⟨e, s, ?_, rfl⟩
      simp [refresh_of_fails hrefresh]
  · exact (FailsCleanly.call hflush).bind _

theorem getSchedule_of_find {id : Uuid} {row : Schedule} (hpass : r.fails .select = none)
    (hfind : s.rows.find id = some row) : r.getSchedule id s = (.ok row, s) := by
  simp [getSchedule, getById, Eff.bind_run, call_of_none hpass, hfind]

theorem getSchedule_fails {id : Uuid} (h : ¬ (r.fails .select = none ∧ s.rows.find id ≠ none)) :
    FailsCleanly (r.getSchedule id) s := by
  unfold getSchedule getById
  by_cases hselect : r.fails .select = none
  · have hfind : s.rows.find id = none := by
      by_contra hne
      exact h ⟨hselect, hne⟩
    exact ⟨_, s, by simp [Eff.bind_run, call_of_none hselect, hfind]; rfl, rfl⟩
  · exact ((FailsCleanly.call hselect).bind _).bind _

/-! ### The commit -/

theorem getDb_of_clean {α : Type} {body : Py (Stores T) α} (h : FailsCleanly body s) :
    ∃ e, r.getDb body s = (.error e, s) := by
  obtain ⟨e, t, hbody, hjobs⟩ := h
  refine ⟨e, ?_⟩
  unfold getDb
  rw [Eff.bind_of_error hbody]
  simp only [hjobs]

theorem getDb_of_error {α : Type} {body : Py (Stores T) α} {e : PyError} {t : Stores T} (h : body s = (.error e, t)) :
    r.getDb body s = (.error e, { t with rows := s.rows }) := by
  unfold getDb
  rw [Eff.bind_of_error h]

theorem getDb_of_ok {α : Type} {body : Py (Stores T) α} {a : α} {t : Stores T} (h : body s = (.ok a, t)) :
    r.getDb body s = match r.fails .commit with
      | none => (.ok a, t)
      | some e => (.error e, { t with rows := s.rows }) := by
  unfold getDb
  rw [Eff.bind_of_ok h]
  rcases hcommit : r.fails .commit with _ | e
  · rw [Eff.bind_of_ok (call_of_none hcommit)]
    rfl
  · rw [Eff.bind_of_error (call_of_some hcommit)]

/-! ### The whole request -/

/-- The request raises. -/
def Raises (aps : Apscheduler T) (r : Request) (s : Stores T) : Prop := ∃ e, (r.handle aps s).1 = .error e

theorem registerCreated_run (aps : Apscheduler T) (r : Request) (s : Stores T) (row : Schedule) :
    (if row.isEnabled then r.registerApschedulerJob aps row else pure ()) s =
      match createEffect aps r.now row with
      | .error e => (.error e, s)
      | .ok f => (.ok (), f.apply row.id s) := by
  unfold createEffect
  split
  · exact registerApschedulerJob_run row
  · rfl

/-- What a request is, once it is known whether it gets to the job table: the answer to `plan`. -/
def Follows (aps : Apscheduler T) (r : Request) (s : Stores T) : Option (Plan T) → Prop
  | none => ∃ e, r.handle aps s = (.error e, s)
  | some p => (r.handle aps s).2 = p.finish s ∧ (r.Raises aps s ↔ p.late ≠ none)

theorem follows_clean {body : Py (Stores T) (Option Schedule)} (hhandle : r.handle aps s = r.getDb body s)
    (h : FailsCleanly body s) : r.Follows aps s none := by
  show ∃ e, r.handle aps s = (.error e, s)
  rw [hhandle]
  exact getDb_of_clean h

theorem follows_written {body : Py (Stores T) (Option Schedule)} {answer : Option Schedule} {id : Uuid}
    {f : JobEffect T} {row : Schedule} (hhandle : r.handle aps s = r.getDb body s)
    (h : body s = (.ok answer, f.apply id (s.putRow row))) :
    r.Follows aps s (some { id, effect := f, row := some row, late := r.fails .commit }) := by
  show (r.handle aps s).2 = _ ∧ ((∃ e, (r.handle aps s).1 = .error e) ↔ _)
  rw [hhandle, getDb_of_ok h]
  rcases r.fails .commit with _ | e
  · exact ⟨f.apply_putRow id row, by simp⟩
  · exact ⟨f.rollback_apply_putRow id row, by simp⟩

theorem follows_create {id : Uuid} {data : ScheduleCreate} {createdBy : Option Uuid}
    (hbody : r.body = .create id data createdBy) : r.Follows aps s (r.plan aps s) := by
  have hhandle : r.handle aps s =
      r.getDb (do let s ← r.createSchedule aps id data createdBy; pure (some s)) s := by
    simp only [handle, hbody]
  have hplan : r.plan aps s =
      if r.passes [.flush, .refresh] && (s.rows.find id).isNone then
        (createEffect aps r.now (data.row id createdBy)).toOption.map fun effect =>
          { id, effect, row := some (data.row id createdBy), late := r.fails .commit }
      else none := by
    simp only [plan, hbody]
  rw [hplan]
  by_cases hreach : r.passes [.flush, .refresh] = true ∧ s.rows.find id = none
  · have hinsert : r.insert (data.row id createdBy) s =
        (.ok (data.row id createdBy), s.putRow (data.row id createdBy)) :=
      insert_of_passes hreach.1 hreach.2
    have hregister := registerCreated_run aps r (s.putRow (data.row id createdBy)) (data.row id createdBy)
    rw [hreach.1, hreach.2, Option.isNone_none, Bool.and_self, if_pos rfl]
    rcases heffect : createEffect aps r.now (data.row id createdBy) with e | f <;> rw [heffect] at hregister
    · have hcreate : r.createSchedule aps id data createdBy s = (.error e, s.putRow (data.row id createdBy)) := by
        rw [createSchedule, Eff.bind_of_ok hinsert]
        exact Eff.bind_of_error hregister
      exact follows_clean hhandle ⟨e, s.putRow (data.row id createdBy), Eff.bind_of_error hcreate, rfl⟩
    · have hcreate : r.createSchedule aps id data createdBy s =
          (.ok (data.row id createdBy), f.apply id (s.putRow (data.row id createdBy))) := by
        rw [createSchedule, Eff.bind_of_ok hinsert]
        exact Eff.bind_of_ok hregister
      exact follows_written hhandle (Eff.bind_of_ok hcreate)
  · have hnone : ¬ (r.passes [.flush, .refresh] && (s.rows.find id).isNone) = true := by
      rwa [Bool.and_eq_true, Option.isNone_iff_eq_none]
    rw [if_neg hnone]
    exact follows_clean hhandle (((insert_fails hreach).bind _).bind _)

/-- A plan for a row that cannot be loaded: when the query passes, the row is not there. -/
theorem bind_find_eq_none {id : Uuid} {calls : List DbCall} {plan : Schedule → Option (Plan T)}
    (hselect : ¬ (r.fails .select = none ∧ s.rows.find id ≠ none)) :
    (if r.passes (.select :: calls) then (s.rows.find id).bind plan else none) = none := by
  by_cases hpass : r.passes (.select :: calls) = true
  · have hfind : s.rows.find id = none := by
      by_contra hne
      exact hselect ⟨(passes_cons.mp hpass).1, hne⟩
    rw [if_pos hpass, hfind]
    rfl
  · rw [if_neg hpass]

theorem follows_update {id : Uuid} {data : ScheduleUpdate} (hbody : r.body = .update id data) :
    r.Follows aps s (r.plan aps s) := by
  have hhandle : r.handle aps s = r.getDb (do let s ← r.updateSchedule aps id data; pure (some s)) s := by
    simp only [handle, hbody]
  have hplan : r.plan aps s =
      if r.passes [.select, .flush, .refresh] then
        (s.rows.find id).bind fun row => (syncEffect aps r.now (data.updated row)).toOption.map fun effect =>
          { id, effect, row := some (data.updated row), late := r.fails .commit }
      else none := by
    simp only [plan, hbody]
  rw [hplan]
  by_cases hselect : r.fails .select = none ∧ s.rows.find id ≠ none
  · obtain ⟨row, hfind⟩ := Option.ne_none_iff_exists'.mp hselect.2
    have hkey : row.id = id := s.rows.keyed hfind
    subst hkey
    have hget := getSchedule_of_find hselect.1 hfind
    by_cases hpass : r.passes [.flush, .refresh] = true
    · have hwrite := write_of_passes data hpass hfind
      have hsync := syncApschedulerJob_run aps r (s.putRow (data.updated row)) (data.updated row)
      rw [if_pos (passes_cons.mpr ⟨hselect.1, hpass⟩), hfind, Option.bind_some]
      rcases heffect : syncEffect aps r.now (data.updated row) with e | f <;> rw [heffect] at hsync
      · have hupdate : r.updateSchedule aps row.id data s = (.error e, s.putRow (data.updated row)) := by
          rw [updateSchedule, Eff.bind_of_ok hget, Eff.bind_of_ok hwrite]
          exact Eff.bind_of_error hsync
        exact follows_clean hhandle ⟨e, s.putRow (data.updated row), Eff.bind_of_error hupdate, rfl⟩
      · have hupdate : r.updateSchedule aps row.id data s =
            (.ok (data.updated row), f.apply row.id (s.putRow (data.updated row))) := by
          rw [updateSchedule, Eff.bind_of_ok hget, Eff.bind_of_ok hwrite]
          exact Eff.bind_of_ok hsync
        exact follows_written hhandle (Eff.bind_of_ok hupdate)
    · rw [if_neg fun h => hpass (passes_cons.mp h).2]
      have hupdate : FailsCleanly (r.updateSchedule aps row.id data) s := by
        unfold updateSchedule
        exact FailsCleanly.after hget rfl ((write_fails hpass).bind _)
      exact follows_clean hhandle (hupdate.bind _)
  · rw [bind_find_eq_none hselect]
    exact follows_clean hhandle (((getSchedule_fails hselect).bind _).bind _)

theorem follows_delete {id : Uuid} (hbody : r.body = .delete id) : r.Follows aps s (r.plan aps s) := by
  have hhandle : r.handle aps s = r.getDb (do r.deleteSchedule id; pure none) s := by
    simp only [handle, hbody]
  have hplan : r.plan aps s =
      if r.passes [.select] then
        (s.rows.find id).map fun _ =>
          { id, effect := .remove, row := none, late := (r.fails .flush).orElse fun _ => r.fails .commit }
      else none := by
    simp only [plan, hbody]
  rw [hplan]
  by_cases hselect : r.fails .select = none ∧ s.rows.find id ≠ none
  · obtain ⟨row, hfind⟩ := Option.ne_none_iff_exists'.mp hselect.2
    have hkey : row.id = id := s.rows.keyed hfind
    subst hkey
    have hget := getSchedule_of_find hselect.1 hfind
    rw [if_pos (passes_cons.mpr ⟨hselect.1, passes_nil⟩), hfind, Option.map_some]
    show (r.handle aps s).2 = _ ∧ ((∃ e, (r.handle aps s).1 = .error e) ↔ _)
    rw [hhandle]
    rcases hflush : r.fails .flush with _ | e
    · have hdelete : r.deleteSchedule row.id s = (.ok (), (s.removeJob (.schedule row.id)).eraseRow row.id) := by
        rw [deleteSchedule, Eff.bind_of_ok hget, Eff.modify_bind_run, deleteRow, Eff.bind_of_ok (call_of_none hflush)]
        rfl
      have hbody' : (do r.deleteSchedule row.id; pure none : Py (Stores T) (Option Schedule)) s =
          (.ok none, (s.removeJob (.schedule row.id)).eraseRow row.id) := Eff.bind_of_ok hdelete
      rw [getDb_of_ok hbody']
      rcases r.fails .commit with _ | e
      · exact ⟨rfl, by simp⟩
      · exact ⟨rfl, by simp⟩
    · have hdelete : r.deleteSchedule row.id s = (.error e, s.removeJob (.schedule row.id)) := by
        rw [deleteSchedule, Eff.bind_of_ok hget, Eff.modify_bind_run, deleteRow, Eff.bind_of_error (call_of_some hflush)]
      rw [getDb_of_error (Eff.bind_of_error hdelete)]
      exact ⟨rfl, by simp⟩
  · rw [Option.map_eq_bind, bind_find_eq_none hselect]
    exact follows_clean hhandle (((getSchedule_fails hselect).bind _).bind _)

theorem follows_plan (aps : Apscheduler T) (r : Request) (s : Stores T) : r.Follows aps s (r.plan aps s) := by
  cases hbody : r.body with
  | create id data createdBy => exact follows_create hbody
  | update id data => exact follows_update hbody
  | delete id => exact follows_delete hbody

/-- A request fails and changes nothing, or finishes its plan. -/
theorem handle_cases (aps : Apscheduler T) (r : Request) (s : Stores T) :
    (r.plan aps s = none ∧ ∃ e, r.handle aps s = (.error e, s)) ∨
      ∃ p, r.plan aps s = some p ∧ (r.handle aps s).2 = p.finish s ∧ (r.Raises aps s ↔ p.late ≠ none) ∧
        ∀ row, p.row = some row → row.id = p.id := by
  have hfollows := follows_plan aps r s
  rcases hplan : r.plan aps s with _ | p <;> rw [hplan] at hfollows
  · exact Or.inl ⟨rfl, hfollows⟩
  · exact Or.inr ⟨p, rfl, hfollows.1, hfollows.2, fun row hrow => plan_row_id hplan hrow⟩

end Request
end SmartHome
