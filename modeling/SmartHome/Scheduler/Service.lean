import SmartHome.Lib.Orm
import SmartHome.Scheduler.Store

/-! # The schedule requests

`ScheduleRepository`, the schedule part of `SchedulerService`, and `get_db` around a request
(`app/scheduler/repository.py`, `app/scheduler/service.py`, `app/dependencies.py`), one request after
another. Every call to the database can fail. -/

namespace SmartHome

/-- The body that creates a schedule. -/
structure ScheduleCreate where
  name : String
  description : Option String := none
  triggerType : String
  triggerConfig : PyDict
  actionType : String := "device_control"
  actionConfig : PyDict
  isEnabled : Bool := true

/-- The row of the new schedule. -/
def ScheduleCreate.row (data : ScheduleCreate) (id : Uuid) (createdBy : Option Uuid) : Schedule where
  id
  name := data.name
  description := data.description
  triggerType := data.triggerType
  triggerConfig := data.triggerConfig
  actionType := data.actionType
  actionConfig := data.actionConfig
  isEnabled := data.isEnabled
  createdBy

/-- `ScheduleUpdate`; `none` leaves the column alone. -/
structure ScheduleUpdate where
  name : Option String := none
  description : Option String := none
  triggerConfig : Option PyDict := none
  actionConfig : Option PyDict := none
  isEnabled : Option Bool := none

namespace ScheduleUpdate

/-- The columns that an UPDATE writes: those that got a value different from the loaded one. -/
def changes (data : ScheduleUpdate) (loaded : Schedule) : ScheduleUpdate where
  name := data.name.filter fun name => name != loaded.name
  description := data.description.filter fun description => some description != loaded.description
  triggerConfig := data.triggerConfig.filter fun config => !config.same loaded.triggerConfig
  actionConfig := data.actionConfig.filter fun config => !config.same loaded.actionConfig
  isEnabled := data.isEnabled.filter fun enabled => enabled != loaded.isEnabled

/-- The update changes nothing. -/
def isEmpty (data : ScheduleUpdate) : Bool :=
  data.name.isNone && data.description.isNone && data.triggerConfig.isNone && data.actionConfig.isNone &&
    data.isEnabled.isNone

/-- The row after the update; what is not given stays. -/
def apply (data : ScheduleUpdate) (row : Schedule) : Schedule :=
  { row with
    name := data.name.getD row.name
    description := data.description.orElse fun _ => row.description
    triggerConfig := data.triggerConfig.getD row.triggerConfig
    actionConfig := data.actionConfig.getD row.actionConfig
    isEnabled := data.isEnabled.getD row.isEnabled }

/-- The row that an update leaves when nobody else writes it. -/
def updated (data : ScheduleUpdate) (row : Schedule) : Schedule := (data.changes row).apply row

@[simp] theorem updated_id (data : ScheduleUpdate) (row : Schedule) : (data.updated row).id = row.id := rfl

theorem apply_of_isEmpty {data : ScheduleUpdate} (h : data.isEmpty = true) (row : Schedule) : data.apply row = row := by
  simp only [isEmpty, Bool.and_eq_true, Option.isNone_iff_eq_none] at h
  obtain ⟨⟨⟨⟨hname, hdescription⟩, htrigger⟩, haction⟩, henabled⟩ := h
  cases row
  simp [apply, hname, hdescription, htrigger, haction, henabled]

end ScheduleUpdate

/-- The requests on the schedules. -/
inductive RequestBody where
  /-- `id` is the new `uuid4()`. -/
  | create (id : Uuid) (data : ScheduleCreate) (createdBy : Option Uuid)
  | update (id : Uuid) (data : ScheduleUpdate)
  | delete (id : Uuid)

/-- A request, the time at which it is served, and the database calls that fail for reasons of their own; the
    commit is the one of `get_db`. -/
structure Request where
  body : RequestBody
  now : DateTime
  fails : DbCall → Option PyError := fun _ => none

/-- `_build_trigger`; `none` for an unknown type. -/
def buildTrigger {T : Type} (aps : Apscheduler T) (now : DateTime) (triggerType : String) (config : PyDict) :
    Except PyError (Option T) :=
  if triggerType = "cron" then (aps.cronTrigger now config).map some
  else if triggerType = "interval" then (aps.intervalTrigger now config).map some
  else if triggerType = "date" then (aps.dateTrigger now config).map some
  else .ok none

namespace Request
variable {T : Type}

/-- A call of the database, which may fail. -/
def call (r : Request) (c : DbCall) : Py (Stores T) Unit :=
  match r.fails c with
  | none => pure ()
  | some e => Eff.raise e

/-! ## `ScheduleRepository` -/

/-- `ScheduleRepository.get_by_id`. -/
def getById (r : Request) (id : Uuid) : Py (Stores T) (Option Schedule) := do
  r.call .select
  Eff.gets (·.rows.find id)

/-- `session.refresh`. -/
def refresh (r : Request) (id : Uuid) : Py (Stores T) Schedule := do
  r.call .refresh
  match ← Eff.gets (·.rows.find id) with
  | some row => pure row
  | none => Eff.raise .invalidRequest

/-- `ScheduleRepository.create`: an INSERT under a taken id violates the primary key. -/
def insert (r : Request) (row : Schedule) : Py (Stores T) Schedule := do
  r.call .flush
  match ← Eff.gets (·.rows.find row.id) with
  | some _ => Eff.raise .integrityError
  | none =>
    Eff.modify (·.putRow row)
    r.refresh row.id

/-- `ScheduleRepository.update`, of the object loaded as `loaded`. -/
def write (r : Request) (loaded : Schedule) (data : ScheduleUpdate) : Py (Stores T) Schedule := do
  r.call .flush
  if !(data.changes loaded).isEmpty then
    match ← Eff.gets (·.rows.find loaded.id) with
    | some row => Eff.modify (·.putRow ((data.changes loaded).apply row))
    | none => Eff.raise .staleData
  r.refresh loaded.id

/-- `ScheduleRepository.delete`. -/
def deleteRow (r : Request) (row : Schedule) : Py (Stores T) Unit := do
  r.call .flush
  Eff.modify (·.eraseRow row.id)

/-! ## `SchedulerService` -/

/-- `_register_apscheduler_job`. -/
def registerApschedulerJob (aps : Apscheduler T) (r : Request) (schedule : Schedule) : Py (Stores T) Unit :=
  match buildTrigger aps r.now schedule.triggerType schedule.triggerConfig with
  | .error e => Eff.raise e
  | .ok none => pure ()
  | .ok (some trigger) =>
    Eff.modify (·.addJob (.schedule schedule.id) { trigger, task := .jobFunc schedule.id schedule.actionConfig })

/-- `_sync_apscheduler_job`. -/
def syncApschedulerJob (aps : Apscheduler T) (r : Request) (schedule : Schedule) : Py (Stores T) Unit :=
  if schedule.isEnabled then r.registerApschedulerJob aps schedule
  else Eff.modify (·.removeJob (.schedule schedule.id))

/-- `SchedulerService.create_schedule`. -/
def createSchedule (aps : Apscheduler T) (r : Request) (id : Uuid) (data : ScheduleCreate) (createdBy : Option Uuid) :
    Py (Stores T) Schedule := do
  let result ← r.insert (data.row id createdBy)
  (if data.isEnabled then r.registerApschedulerJob aps result else pure ())
  pure result

/-- `SchedulerService.get_schedule`. -/
def getSchedule (r : Request) (id : Uuid) : Py (Stores T) Schedule := do
  match ← r.getById id with
  | some s => pure s
  | none => Eff.raise (.app (.notFound s!"Schedule {Uuid.text id} not found."))

/-- `SchedulerService.update_schedule`. -/
def updateSchedule (aps : Apscheduler T) (r : Request) (id : Uuid) (data : ScheduleUpdate) :
    Py (Stores T) Schedule := do
  let schedule ← r.getSchedule id
  let result ← r.write schedule data
  r.syncApschedulerJob aps result
  pure result

/-- `SchedulerService.delete_schedule`. -/
def deleteSchedule (r : Request) (id : Uuid) : Py (Stores T) Unit := do
  let schedule ← r.getSchedule id
  Eff.modify (·.removeJob (.schedule id))
  r.deleteRow schedule

/-! ## The request -/

/-- `get_db` around the body of a request: it commits when the body returns and the commit succeeds, and
    rolls the rows back otherwise. The job table stays as the body left it. -/
def getDb {α : Type} (r : Request) (body : Py (Stores T) α) : Py (Stores T) α := fun s =>
  match (do let a ← body; r.call .commit; pure a : Py (Stores T) α) s with
  | (.ok a, t) => (.ok a, t)
  | (.error e, t) => (.error e, { t with rows := s.rows })

/-- Serves a request; the answer is the schedule, or nothing for a delete. -/
def handle (aps : Apscheduler T) (r : Request) : Py (Stores T) (Option Schedule) :=
  match r.body with
  | .create id data createdBy => r.getDb (do let s ← r.createSchedule aps id data createdBy; pure (some s))
  | .update id data => r.getDb (do let s ← r.updateSchedule aps id data; pure (some s))
  | .delete id => r.getDb (do r.deleteSchedule id; pure none)

end Request
end SmartHome
