import SmartHome.Scheduler.Store

/-! # The scheduler engine

`setup_scheduler`, `start_scheduler` and `stop_scheduler` (`app/scheduler/engine.py`), as `lifespan`
(`app/main.py`) calls them. The job store is APScheduler's in-memory one, which is empty in a new process. -/

namespace SmartHome

/-- The database, and the process with its scheduler; `jobs` is empty while no process runs. -/
structure Process (T : Type) where
  stores : Stores T
  running : Bool
  now : DateTime

namespace Process
variable {T : Type}

/-- The process before its start; the jobs are in memory only. -/
def down (rows : ScheduleTable) (now : DateTime) : Process T where
  stores := { rows, jobs := fun _ => none }
  running := false
  now

/-- `if not scheduler.get_job(id): scheduler.add_job(.., trigger=IntervalTrigger(**interval), id=id, ..)`. -/
def setupJob (aps : Apscheduler T) (id : JobId) (task : Task) (interval : PyDict) : Py (Process T) Unit := do
  match ← Eff.gets (·.stores.jobs id) with
  | some _ => pure ()
  | none =>
    let now ← Eff.gets (·.now)
    match aps.intervalTrigger now interval with
    | .ok trigger => Eff.modify fun p => { p with stores := p.stores.addJob id { trigger, task } }
    | .error e => Eff.raise e

/-- `setup_scheduler`: the three jobs of the application itself. -/
def setupScheduler (aps : Apscheduler T) : Py (Process T) Unit := do
  setupJob aps .pollAllDevices .pollAllDevices [("seconds", .int 60)]
  setupJob aps .evaluateAllRules .evaluateAllRules [("seconds", .int 60)]
  setupJob aps .refreshWeatherCache .refreshWeatherCache [("minutes", .int 30)]

/-- `start_scheduler`. -/
def startScheduler (aps : Apscheduler T) : Py (Process T) Unit := do
  setupScheduler aps
  Eff.modify fun p => { p with running := true }

/-- `stop_scheduler`, and the end of the process: the in-memory jobs are gone. -/
def stopScheduler (p : Process T) : Process T :=
  { p with
    stores := { p.stores with jobs := fun _ => none }
    running := false }

/-! ### What starting keeps -/

/-- Nothing has changed for the schedules. -/
structure SameSchedules (p q : Process T) : Prop where
  rows : q.stores.rows = p.stores.rows
  job : q.stores.job = p.stores.job
  now : q.now = p.now

theorem SameSchedules.refl (p : Process T) : SameSchedules p p := ⟨rfl, rfl, rfl⟩

theorem SameSchedules.trans {p q r : Process T} (h : SameSchedules p q) (h' : SameSchedules q r) : SameSchedules p r :=
  ⟨h'.rows.trans h.rows, h'.job.trans h.job, h'.now.trans h.now⟩

theorem setupJob_keeps (aps : Apscheduler T) (id : JobId) (task : Task) (interval : PyDict)
    (hid : ∀ schedule, id ≠ .schedule schedule) : Eff.Keeps SameSchedules (setupJob aps id task interval) := by
  intro p
  unfold setupJob
  rw [Eff.gets_bind_run]
  cases p.stores.jobs id with
  | some job => exact SameSchedules.refl p
  | none =>
    simp only [Eff.gets_bind_run]
    cases aps.intervalTrigger p.now interval with
    | error e => exact SameSchedules.refl p
    | ok trigger =>
      refine ⟨rfl, ?_, rfl⟩
      funext schedule
      exact Function.update_of_ne (fun h => hid schedule h.symm) ..

theorem startScheduler_keeps (aps : Apscheduler T) : Eff.Keeps SameSchedules (startScheduler aps) := by
  have seq {α β : Type} {m : Py (Process T) α} {f : α → Py (Process T) β} (hm : Eff.Keeps SameSchedules m)
      (hf : ∀ a, Eff.Keeps SameSchedules (f a)) : Eff.Keeps SameSchedules (m >>= f) :=
    Eff.Keeps.bind (R := SameSchedules) (fun h h' => h.trans h') hm hf
  refine seq (seq (setupJob_keeps aps _ _ _ ?_) fun _ => seq (setupJob_keeps aps _ _ _ ?_) fun _ =>
    setupJob_keeps aps _ _ _ ?_) fun _ p => ⟨rfl, rfl, rfl⟩
  all_goals
    intro id h
    cases h

end Process
end SmartHome
