import SmartHome.Lib.Aggregate
import SmartHome.Lib.Grouping
import SmartHome.Devices.Service
import SmartHome.Scheduler.Rules

/-! # Aggregated metrics

The handlers of `app/api/v1/analytics.py` and `dashboard_stats` of `app/api/v1/dashboard.py`. Times count
microseconds since the epoch, the session of the database is in UTC, readings are finite, and the arithmetic of
their floats is exact. A query that the database refuses ends the handler. -/

namespace SmartHome.Analytics
open Aggregate

/-- A row of `device_state_snapshots`, with the columns that the queries read. -/
structure Snapshot where
  id : Uuid
  deviceId : Uuid
  recordedAt : Int
  temperatureCelsius : Option ℚ
  powerWatts : Option ℚ
  deriving DecidableEq

/-- The tables that the queries read. -/
structure Database where
  devices : List Device
  snapshots : List Snapshot
  schedules : List Schedule := []
  rules : List RuleRecord := []
  deviceIds : (devices.map (·.id)).Nodup
  ains : (devices.map (·.ain)).Nodup
  snapshotIds : (snapshots.map (·.id)).Nodup

/-- An hour in microseconds. -/
def hour : Int := 3600 * 1000000
/-- A minute in microseconds. -/
def minute : Int := 60 * 1000000

/-- `date_trunc('hour', t)`. -/
def truncHour (t : Int) : Int := t - t % hour

/-- `round(x, 1)`. -/
def round1 (x : ℚ) : ℚ := Grid.nearest 10 x

/-- `round(x, 1) if x else 0.0`. -/
def roundOrZero : Option ℚ → ℚ
  | some x => if x ≠ 0 then round1 x else 0
  | none => 0

/-- `round(x, 1) if x else None`. -/
def roundOrNone : Option ℚ → Option ℚ
  | some x => if x ≠ 0 then some (round1 x) else none
  | none => none

/-- The rows with a value in the column that are not older than `since`. -/
def recorded (column : Snapshot → Option ℚ) (since : Int) (snapshots : List Snapshot) : List Snapshot :=
  snapshots.filter fun row => (column row).isSome && since ≤ row.recordedAt

/-- `func.date_trunc("hour", DeviceStateSnapshot.recorded_at)`, in which the text is a literal. -/
def hourOfSnapshot : Grouping.Expr String := .binary "date_trunc" (.value "hour") (.column "recorded_at")

/-- The rows of a grouped query, which is checked before it runs. -/
def execute {ρ : Type} (query : Grouping.Query String) (rows : List ρ) : Except PyError (List ρ) :=
  if query.bind.valid then .ok rows else .error .external

/-! ## `power_history` -/

/-- An entry of the answer, which is a row of the query with its figures rounded. -/
structure PowerEntry where
  hour : Int
  avgWatts : ℚ
  totalWatts : ℚ
  deriving DecidableEq

/-- The query of `power_history`. -/
def powerQuery : Grouping.Query String where
  selected := [hourOfSnapshot, .aggregate "avg" (.column "power_watts"), .aggregate "sum" (.column "power_watts")]
  conditions := [.unary "IS NOT NULL" (.column "power_watts"), .binary ">=" (.column "recorded_at") (.value "since")]
  groupBy := [hourOfSnapshot]
  orderBy := [hourOfSnapshot]

/-- `GET /analytics/power/history`: the groups by hour, if the query is not refused. -/
def powerHistory (db : Database) (hours now : Int) : Except PyError (List PowerEntry) :=
  let rows := recorded (·.powerWatts) (now - hours * hour) db.snapshots
  execute powerQuery <| (groups (truncHour ·.recordedAt) rows).map fun h =>
    { hour := h
      avgWatts := roundOrZero (avg (·.powerWatts) (group (truncHour ·.recordedAt) rows h))
      totalWatts := roundOrZero (sum (·.powerWatts) (group (truncHour ·.recordedAt) rows h)) }

/-- The three hours of the query have a parameter each, so it is refused on every table. -/
theorem powerHistory_raises (db : Database) (hours now : Int) : powerHistory db hours now = .error .external := by
  have hrefused : powerQuery.bind.valid = false :=
    Grouping.Query.not_valid_of_literals (e := hourOfSnapshot) (by simp [powerQuery, hourOfSnapshot, Grouping.Expr.values])
      (List.mem_cons_self ..) rfl
  rw [powerHistory, execute, hrefused, if_neg Bool.false_ne_true]

/-! ## `temperature_history` -/

/-- An hour in the answer of `temperature_history`. -/
structure TemperatureEntry where
  hour : Int
  avgTemp : Option ℚ
  deriving DecidableEq

/-- `if ain: ..where(device_id == device_subq)`; without such a device the subquery is NULL. -/
def ofDevice (db : Database) (ain : Option String) (row : Snapshot) : Bool :=
  match ain with
  | some ain =>
    if ain ≠ "" then (db.devices.find? fun device => device.ain = ain).map (·.id) = some row.deviceId else true
  | none => true

/-- The query of `temperature_history`, with its condition on the device when an AIN is given. -/
def temperatureQuery (ain : Option String) : Grouping.Query String where
  selected := [hourOfSnapshot, .aggregate "avg" (.column "temperature_celsius")]
  conditions :=
    [.unary "IS NOT NULL" (.column "temperature_celsius"), .binary ">=" (.column "recorded_at") (.value "since")] ++
      (ain.filter (· ≠ "")).toList.map fun ain =>
        .binary "=" (.column "device_id") (.unary "SELECT id FROM devices WHERE ain =" (.value ain))
  groupBy := [hourOfSnapshot]
  orderBy := [hourOfSnapshot]

/-- `GET /analytics/temperature/history`: the groups by hour, if the query is not refused. -/
def temperatureHistory (db : Database) (ain : Option String) (hours now : Int) :
    Except PyError (List TemperatureEntry) :=
  let rows := (recorded (·.temperatureCelsius) (now - hours * hour) db.snapshots).filter (ofDevice db ain)
  execute (temperatureQuery ain) <| (groups (truncHour ·.recordedAt) rows).map fun h =>
    { hour := h
      avgTemp := roundOrNone (avg (·.temperatureCelsius) (group (truncHour ·.recordedAt) rows h)) }

/-- With an AIN or without one. -/
theorem temperatureHistory_raises (db : Database) (ain : Option String) (hours now : Int) :
    temperatureHistory db ain hours now = .error .external := by
  have hrefused : (temperatureQuery ain).bind.valid = false :=
    Grouping.Query.not_valid_of_literals (e := hourOfSnapshot)
      (by simp [temperatureQuery, hourOfSnapshot, Grouping.Expr.values]) (List.mem_cons_self ..) rfl
  rw [temperatureHistory, execute, hrefused, if_neg Bool.false_ne_true]

/-! ## `top_consumers` -/

/-- A device in the answer of `top_consumers`. -/
structure Consumer where
  ain : String
  name : String
  avgWatts : ℚ
  deriving DecidableEq

/-- The rows of a device that the query joins with it. -/
def consumption (db : Database) (since : Int) (device : Device) : List Snapshot :=
  db.snapshots.filter fun row =>
    row.deviceId = device.id && row.powerWatts.any (0 < ·) && since ≤ row.recordedAt

/-- `AVG(power_watts)` of a group. -/
def positiveMean (db : Database) (since : Int) (device : Device) : ℚ :=
  mean ((consumption db since device).filterMap (·.powerWatts))

/-- An order of the groups that `ORDER BY avg DESC` allows; it leaves the order of equal averages open. -/
structure Ranking (db : Database) (since : Int) (ranking : List Device) : Prop where
  perm : ranking.Perm (db.devices.filter fun device => consumption db since device ≠ [])
  descending : ranking.Pairwise fun a b => positiveMean db since b ≤ positiveMean db since a

/-- The answer from the groups in the order in which the database lists them. -/
def topConsumers (db : Database) (ranking : List Device) (limit : Nat) (hours now : Int) : List Consumer :=
  (ranking.take limit).map fun device =>
    { ain := device.ain
      name := device.name
      avgWatts := roundOrZero (avg (·.powerWatts) (consumption db (now - hours * hour) device)) }

/-! ## `dashboard_stats` -/

/-- The answer of `dashboard_stats`. -/
structure DashboardStats where
  totalDevices : Nat
  onlineDevices : Nat
  totalPowerWatts : ℚ
  avgTemperature : Option ℚ
  activeSchedules : Nat
  activeRules : Nat

/-- `GET /dashboard/stats`. -/
def dashboardStats (db : Database) (now : Int) : DashboardStats where
  totalDevices := db.devices.countP (·.isActive)
  onlineDevices := db.devices.countP fun device => device.isActive && device.lastSeen.isSome
  totalPowerWatts := round1 ((sum (·.powerWatts) (recorded (·.powerWatts) (now - 2 * minute) db.snapshots)).getD 0)
  avgTemperature :=
    roundOrNone (avg (·.temperatureCelsius) (recorded (·.temperatureCelsius) (now - 2 * minute) db.snapshots))
  activeSchedules := db.schedules.countP (·.isEnabled)
  activeRules := db.rules.countP (·.isEnabled)

end SmartHome.Analytics
