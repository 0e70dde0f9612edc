import Mathlib.Logic.Function.Basic
import SmartHome.Scheduler.Tasks

/-! # The two stores of the scheduler

The rows of `schedules` (`app/scheduler/models.py`) and the job table of the APScheduler instance
(`app/scheduler/engine.py`). The job table lives in memory and takes no part in database transactions. -/

namespace SmartHome

/-- A row of `schedules`. -/
structure Schedule where
  id : Uuid
  name : String
  description : Option String := none
  triggerType : String
  triggerConfig : PyDict
  actionType : String := "device_control"
  actionConfig : PyDict
  isEnabled : Bool := true
  lastTriggered : Option DateTime := none
  createdBy : Option Uuid := none

/-- APScheduler's triggers, as far as the application uses them. A trigger whose fire times are over has
    none later. -/
structure Apscheduler (T : Type) where
  /-- `CronTrigger(**config)`, built at the given time. -/
  cronTrigger : DateTime → PyDict → Except PyError T
  intervalTrigger : DateTime → PyDict → Except PyError T
  dateTrigger : DateTime → PyDict → Except PyError T
  nextFireTime : T → DateTime → Option DateTime
  spent : ∀ {trigger now later}, now ≤ later → nextFireTime trigger now = none → nextFireTime trigger later = none

/-- A job's id; `schedule id` is `f"schedule_{id}"`. -/
inductive JobId where
  | pollAllDevices
  | evaluateAllRules
  | refreshWeatherCache
  | schedule (id : Uuid)
  deriving DecidableEq, Repr

/-- What a job runs; `jobFunc` is the closure of `_register_apscheduler_job`, with what it captured. -/
inductive Task where
  | pollAllDevices
  | evaluateAllRules
  | refreshWeatherCache
  | jobFunc (scheduleId : Uuid) (actionConfig : PyDict)

/-- A job of APScheduler. -/
structure Job (T : Type) where
  trigger : T
  task : Task

/-- The rows of `schedules`, each found under its primary key. -/
structure ScheduleTable where
  find : Uuid → Option Schedule
  keyed : ∀ {id row}, find id = some row → row.id = id

namespace ScheduleTable

@[ext] theorem ext {t u : ScheduleTable} (h : ∀ id, t.find id = u.find id) : t = u := by
  cases t
  cases u
  congr
  exact funext h

/-- There is no schedule. -/
def empty : ScheduleTable where
  find _ := none
  keyed h := by cases h

/-- The row is added, or takes the place of the one with its id. -/
def put (row : Schedule) (t : ScheduleTable) : ScheduleTable where
  find := Function.update t.find row.id (some row)
  keyed {id other} h := by
    by_cases hid : id = row.id
    · subst hid
      rw [Function.update_self] at h
      cases h
      rfl
    · rw [Function.update_of_ne hid] at h
      exact t.keyed h

/-- The row is taken away. -/
def erase (id : Uuid) (t : ScheduleTable) : ScheduleTable where
  find := Function.update t.find id none
  keyed {key other} h := by
    by_cases hid : key = id
    · subst hid
      rw [Function.update_self] at h
      cases h
    · rw [Function.update_of_ne hid] at h
      exact t.keyed h

@[simp] theorem find_put_self (t : ScheduleTable) (row : Schedule) : (t.put row).find row.id = some row :=
  Function.update_self ..

theorem find_put_of_ne (t : ScheduleTable) {row : Schedule} {id : Uuid} (h : id ≠ row.id) :
    (t.put row).find id = t.find id :=
  Function.update_of_ne h ..

@[simp] theorem find_erase_self (t : ScheduleTable) (id : Uuid) : (t.erase id).find id = none :=
  Function.update_self ..

theorem find_erase_of_ne (t : ScheduleTable) {id other : Uuid} (h : other ≠ id) :
    (t.erase id).find other = t.find other :=
  Function.update_of_ne h ..

end ScheduleTable

/-- The rows as the current session sees them (the committed ones, outside a request), and the job table. -/
structure Stores (T : Type) where
  rows : ScheduleTable
  jobs : JobId → Option (Job T)

namespace Stores
variable {T : Type}

/-- There is no schedule and no job. -/
def empty : Stores T where
  rows := .empty
  jobs _ := none

/-- The row is written. -/
def putRow (row : Schedule) (s : Stores T) : Stores T := { s with rows := s.rows.put row }

/-- The row is deleted. -/
def eraseRow (id : Uuid) (s : Stores T) : Stores T := { s with rows := s.rows.erase id }

/-- `add_job` with `replace_existing`. -/
def addJob (id : JobId) (job : Job T) (s : Stores T) : Stores T :=
  { s with jobs := Function.update s.jobs id (some job) }

/-- `remove_job`; a job that is not there is no error. -/
def removeJob (id : JobId) (s : Stores T) : Stores T :=
  { s with jobs := Function.update s.jobs id none }

/-- The job of a schedule. -/
def job (s : Stores T) (id : Uuid) : Option (Job T) := s.jobs (.schedule id)

@[simp] theorem putRow_rows (s : Stores T) (row : Schedule) : (s.putRow row).rows = s.rows.put row := rfl
@[simp] theorem eraseRow_rows (s : Stores T) (id : Uuid) : (s.eraseRow id).rows = s.rows.erase id := rfl
@[simp] theorem addJob_rows (s : Stores T) (id : JobId) (job : Job T) : (s.addJob id job).rows = s.rows := rfl
@[simp] theorem removeJob_rows (s : Stores T) (id : JobId) : (s.removeJob id).rows = s.rows := rfl
@[simp] theorem putRow_job (s : Stores T) (id : Uuid) (row : Schedule) : (s.putRow row).job id = s.job id := rfl
@[simp] theorem eraseRow_job (s : Stores T) (id other : Uuid) : (s.eraseRow id).job other = s.job other := rfl

@[simp] theorem addJob_job_self (s : Stores T) (id : Uuid) (job : Job T) :
    (s.addJob (.schedule id) job).job id = some job :=
  Function.update_self ..

theorem addJob_job_of_ne (s : Stores T) {id other : Uuid} (job : Job T) (h : other ≠ id) :
    (s.addJob (.schedule id) job).job other = s.job other :=
  Function.update_of_ne (fun heq => h (JobId.schedule.inj heq)) ..

@[simp] theorem removeJob_job_self (s : Stores T) (id : Uuid) : (s.removeJob (.schedule id)).job id = none :=
  Function.update_self ..

theorem removeJob_job_of_ne (s : Stores T) {id other : Uuid} (h : other ≠ id) :
    (s.removeJob (.schedule id)).job other = s.job other :=
  Function.update_of_ne (fun heq => h (JobId.schedule.inj heq)) ..

end Stores

/-! ### Triggers of the clock -/

/-- A trigger that fires every day at one time, or again and again from a start. -/
inductive ClockTrigger where
  | daily (hour minute : Nat)
  | every (start : DateTime) (seconds : Nat)
  deriving DecidableEq, Repr

namespace ClockTrigger

/-- The next time from `now` on. -/
def next (now : DateTime) : ClockTrigger → DateTime
  | daily hour minute =>
    let today := now.day * 86400 + (hour * 60 + minute) * 60
    if now ≤ today then today else today + 86400
  | every start seconds =>
    if now ≤ start then start else start + (now - start + seconds - 1) / seconds * seconds

/-- A trigger for every day at a time. -/
def cron (config : PyDict) : Except PyError ClockTrigger :=
  match config.get "hour", config.get "minute" with
  | .int hour, .int minute =>
    if 0 ≤ hour ∧ hour < 24 ∧ 0 ≤ minute ∧ minute < 60 then .ok (daily hour.toNat minute.toNat)
    else .error (.builtin .valueError)
  | _, _ => .error (.builtin .typeError)

/-- A trigger every so often, from now on. -/
def interval (now : DateTime) (config : PyDict) : Except PyError ClockTrigger :=
  match config.getD "seconds" (.int 0), config.getD "minutes" (.int 0) with
  | .int seconds, .int minutes =>
    let length := seconds + 60 * minutes
    if 0 < length then .ok (every (now + length) length.toNat) else .error (.builtin .valueError)
  | _, _ => .error (.builtin .typeError)

end ClockTrigger

/-- A scheduler that knows these two triggers. -/
def clockTriggers : Apscheduler ClockTrigger where
  cronTrigger _ config := ClockTrigger.cron config
  intervalTrigger := ClockTrigger.interval
  dateTrigger _ _ := .error (.builtin .typeError)
  nextFireTime trigger now := some (trigger.next now)
  spent _ h := by cases h

end SmartHome
