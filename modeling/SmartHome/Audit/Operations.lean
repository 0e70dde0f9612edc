import SmartHome.Api.Users
import SmartHome.Audit.Service
import SmartHome.Devices.LastSeen
import SmartHome.Groups.Service
import SmartHome.Scheduler.Rules
import SmartHome.Scheduler.Service

/-! # The operations that change state

The application with all tables that requests and jobs write: the handlers of `app/api/v1` that change state, the
schedule jobs and the passes over the rules. Beside it stands the list of what they have changed. -/

namespace SmartHome
open Orm

/-- What a state-changing operation changes. -/
inductive Change where
  | device (ain : PyValue)
  | discovery
  | deviceRow (id : Uuid)
  | group (id : Uuid)
  | schedule (id : Uuid)
  | rule (id : Uuid)
  | user (id : Option Uuid)

/-- The `resource_type` and the `resource_id` of an event about it. -/
def Change.resource : Change → Option String × Option String
  | device (.str ain) => (some "device", some ain)
  | device _ | discovery => (some "device", none)
  | deviceRow id => (some "device", some (Uuid.text id))
  | group id => (some "device_group", some (Uuid.text id))
  | schedule id => (some "schedule", some (Uuid.text id))
  | rule id => (some "automation_rule", some (Uuid.text id))
  | user id => (some "user", id.map Uuid.text)

/-- The world, the tables and the scheduler. `changes` is what the operations that succeeded have changed; the
    application keeps no such list. -/
structure House (σ T : Type) where
  world : σ
  devices : Devices.World
  users : Users.World
  schedules : Stores T
  rules : List RuleRecord
  groups : Groups.GroupTables
  audit : Audit.AuditLog
  changes : List Change

namespace House
variable {σ R T α : Type}

/-- A program over the world outside. -/
def onWorld (m : Py σ α) : Py (House σ T) α := Eff.zoom (·.world) (fun world h => { h with world }) m

/-- A program over the table of devices. -/
def onDevices (m : Py Devices.World α) : Py (House σ T) α := Eff.zoom (·.devices) (fun devices h => { h with devices }) m

/-- A program over the table of users. -/
def onUsers (m : Py Users.World α) : Py (House σ T) α := Eff.zoom (·.users) (fun users h => { h with users }) m

/-- A program over the schedules and their jobs. -/
def onSchedules (m : Py (Stores T) α) : Py (House σ T) α :=
  Eff.zoom (·.schedules) (fun schedules h => { h with schedules }) m

/-- A program over the rules. -/
def onRules (m : Py (List RuleRecord) α) : Py (House σ T) α := Eff.zoom (·.rules) (fun rules h => { h with rules }) m

/-- A program over the groups and their members. -/
def onGroups (m : Py Groups.GroupTables α) : Py (House σ T) α := Eff.zoom (·.groups) (fun groups h => { h with groups }) m

/-- `emit_event`. -/
def emitEvent (e : Audit.Emitted) : Py (House σ T) Unit := Eff.modify fun h => { h with audit := Audit.emitEvent e h.audit }

/-- An operation, whose success is noted. -/
def noted (change : Change) (m : Py (House σ T) α) : Py (House σ T) α := do
  let a ← m
  Eff.modify fun h => { h with changes := h.changes ++ [change] }
  pure a

/-! ## What jobs and handlers call -/

/-- The provider in the house; a command that succeeds is noted. -/
def provider (provider : Provider σ R) : Provider (House σ T) R where
  discoverDevices := onWorld provider.discoverDevices
  getDeviceState ain := onWorld (provider.getDeviceState ain)
  setSwitch ain on := noted (.device ain) (onWorld (provider.setSwitch ain on))
  setTemperature ain celsius := noted (.device ain) (onWorld (provider.setTemperature ain celsius))
  setDimmer ain level := noted (.device ain) (onWorld (provider.setDimmer ain level))

variable (fails : DbCall → Option PyError)

/-- `get_all(enabled_only=True)`, with the collation of the database. -/
def enabledRules (collate : String → String → Bool) : Py (List RuleRecord) (List AutomationRule) := do
  Tables.call fails .select
  let rows ← Eff.gets fun rows => rows.filter fun rule => rule.isEnabled
  pure ((rows.mergeSort fun a b => collate a.name b.name).map fun rule => rule.toAutomationRule)

/-- The commit of the stamps of a pass. -/
def commitTriggered (stamps : List (Uuid × DateTime)) : Py (List RuleRecord) Unit :=
  Tables.transaction fails do
    Tables.call fails .flush
    Eff.modify fun rows => rows.map fun rule => { rule with toRuleRow := rule.toRuleRow.stamp stamps }

/-- The session at the end of `job_func`. -/
def stampSchedule (now : DateTime) (scheduleId : Uuid) : Py (Stores T) Unit :=
  Tables.transaction fails do
    Tables.call fails .select
    match ← Eff.gets fun s => s.rows.find scheduleId with
    | none => pure ()
    | some row => do
      Tables.call fails .flush
      Eff.modify fun s => s.putRow { row with lastTriggered := some now }

/-- The environment in the house, whose tables hold the rules and the schedules. -/
def env (collate : String → String → Bool) (env : DeviceEnv σ R) : DeviceEnv (House σ T) R where
  provider := provider env.provider
  getCurrent := onWorld env.getCurrent
  utcnow h := env.utcnow h.world
  enabledRules := onRules (enabledRules fails collate)
  commitTriggered stamps := onRules (commitTriggered fails stamps)
  stampSchedule id := do
    let now ← Eff.gets fun h => env.utcnow h.world
    onSchedules (stampSchedule fails now id)
  monotonic h := env.monotonic h.world
  activeDevices := onWorld env.activeDevices
  saveSnapshot snapshot := onWorld (env.saveSnapshot snapshot)
  commitSnapshots := onWorld env.commitSnapshots

/-! ## Handlers -/

section
variable (jwt : Jwt) (token : String)

/-- `require_role`, and the id of the user. -/
def currentUser (role : Role) : Py (House σ T) Uuid := onUsers do
  let user ← requireRole jwt role token
  let row ← read Users.mapper user
  pure row.id

/-- `POST /devices/discover`. -/
def discoverDevices (env : DeviceEnv (House σ T) R) (draws : Devices.Draws) : Py (House σ T) Unit := do
  let _ ← currentUser jwt token .admin
  noted .discovery do
    let devicesInfo ← env.provider.discoverDevices
    let _ ← onDevices (Devices.discoverDevices (.ok devicesInfo) draws)
    pure ()

/-- `PATCH /devices/{device_id}`. -/
def updateDevice (deviceId : Uuid) (data : Devices.DeviceUpdate) (flushed : DateTime) : Py (House σ T) Unit := do
  let _ ← currentUser jwt token .user
  noted (.deviceRow deviceId) (onDevices (Devices.updateDevice deviceId data flushed))

end

end House

/-! ## Requests -/

open Groups in
/-- The role that the endpoint asks for, and the group that it changes. -/
def Groups.GroupRequest.guard : GroupRequest → Role × Uuid
  | create id _ => (.user, id)
  | update groupId _ | addMember _ groupId _ _ | removeMember groupId _ => (.user, groupId)
  | delete groupId => (.admin, groupId)

/-- The rule that the request is about. -/
def RuleRequest.ruleId : RuleRequest → Uuid
  | create id _ => id
  | update ruleId _ | delete ruleId => ruleId

namespace RequestBody

/-- The schedule that the request is about. -/
def scheduleId : RequestBody → Uuid
  | create id _ _ => id
  | update id _ | delete id => id

/-- The request as the handler hands it to the service: a new schedule is that of its user. -/
def sentBy (user : Uuid) : RequestBody → RequestBody
  | create id data _ => create id data (some user)
  | update id data => update id data
  | delete id => delete id

end RequestBody

/-- The requests that write users. -/
inductive UserRequest where
  | updateMe (data : Users.UserUpdate)
  | changePassword (salt : String) (data : Users.PasswordChange)
  | createUser (id : Uuid) (salt : String) (data : Users.UserCreate)
  | updateUserRole (userId : Uuid) (data : Users.UserUpdateRole)
  | deleteUser (userId : Uuid)

/-- `PATCH /devices/reorder` is missing: it is answered by the route of `update_device`, which turns it down. -/
inductive Operation (σ : Type) where
  | turnOn (token ain : String)
  | turnOff (token ain : String)
  | setTemperature (token ain : String) (celsius : PyFloat)
  | setBrightness (token ain : String) (level : Int)
  | discover (token : String) (draws : Devices.Draws)
  | updateDevice (token : String) (deviceId : Uuid) (data : Devices.DeviceUpdate) (flushed : DateTime)
  | group (token : String) (request : Groups.GroupRequest)
  | schedule (token : String) (body : RequestBody) (now : DateTime)
  | rule (token : String) (request : RuleRequest)
  | user (token : String) (request : UserRequest)
  /-- The scheduler fires the job of a schedule. -/
  | job (scheduleId : Uuid)
  | evaluateAllRules
  /-- An audit task comes to its turn. -/
  | writeEvent (i : ℕ) (now : DateTime)
  | elapse (world : σ)

/-- What the application is configured with. -/
structure Setup (σ R T : Type) where
  jwt : Jwt
  passwords : Users.Passwords
  aps : Apscheduler T
  collate : String → String → Bool
  env : DeviceEnv σ R

namespace Setup
variable {σ R T : Type} (a : Setup σ R T) (fails : DbCall → Option PyError)

/-- What jobs, passes and services use in this house. -/
def houseEnv : DeviceEnv (House σ T) R := House.env fails a.collate a.env

/-- The handlers of the four device commands: the service call, and then the event. -/
def deviceControl (token ain : String) (service : Py (Cached (House σ T) R) Unit) (payload : PyDict) :
    Py (Cached (House σ T) R) Unit := do
  let currentUser ← Cached.outside (House.currentUser a.jwt token .user)
  service
  Cached.outside (House.emitEvent
    { action := "device_control", actorId := some currentUser, resourceType := some "device", resourceId := some ain,
      payload := some payload })

/-- `POST /devices/{ain}/on`. -/
def turnOn (token ain : String) : Py (Cached (House σ T) R) Unit :=
  a.deviceControl token ain (DeviceService.turnOn (a.houseEnv fails) ain) [("action", .str "on")]

/-- `POST /devices/{ain}/off`. -/
def turnOff (token ain : String) : Py (Cached (House σ T) R) Unit :=
  a.deviceControl token ain (DeviceService.turnOff (a.houseEnv fails) ain) [("action", .str "off")]

/-- `PUT /devices/{ain}/temperature`. -/
def setTemperature (token ain : String) (celsius : PyFloat) : Py (Cached (House σ T) R) Unit :=
  a.deviceControl token ain (DeviceService.setTemperature (a.houseEnv fails) ain celsius)
    [("action", .str "set_temperature"), ("celsius", .float celsius)]

/-- `PUT /devices/{ain}/brightness`. -/
def setBrightness (token ain : String) (level : Int) : Py (Cached (House σ T) R) Unit :=
  a.deviceControl token ain (DeviceService.setBrightness (a.houseEnv fails) ain level)
    [("action", .str "set_brightness"), ("level", .int level)]

/-- A request on the groups, behind its guard. -/
def groupRequest (token : String) (request : Groups.GroupRequest) : Py (House σ T) Unit := do
  let currentUser ← House.currentUser a.jwt token request.guard.1
  let devices ← Eff.gets fun h => h.devices.rows
  House.noted (.group request.guard.2) do
    let _ ← House.onGroups
      (request.handle fails (fun id => devices.any fun row => row.id == id) currentUser)
    pure ()

/-- A request on the schedules, behind its guard. -/
def scheduleRequest (token : String) (body : RequestBody) (now : DateTime) : Py (House σ T) Unit := do
  let currentUser ← House.currentUser a.jwt token .user
  House.noted (.schedule body.scheduleId) do
    let _ ← House.onSchedules (Request.handle a.aps { body := body.sentBy currentUser, now, fails })
    pure ()

/-- A request on the rules, behind its guard. -/
def ruleRequest (token : String) (request : RuleRequest) : Py (House σ T) Unit := do
  let currentUser ← House.currentUser a.jwt token .user
  House.noted (.rule request.ruleId) do
    let _ ← House.onRules (request.handle fails currentUser)
    pure ()

/-- The user whom the token is about. -/
def subject (token : String) : Option Uuid := (decodeAccessToken a.jwt token).bind Payload.sub

/-- A request on the users; its handler contains the guard. -/
def userRequest (token : String) : UserRequest → Py (House σ T) Unit
  | .updateMe data => House.noted (.user (a.subject token)) do
    let _ ← House.onUsers (Api.updateMe a.jwt token data)
    pure ()
  | .changePassword salt data => House.noted (.user (a.subject token)) do
    House.onUsers (Api.changePassword a.passwords a.jwt token salt data)
  | .createUser id salt data => House.noted (.user (some id)) do
    let _ ← House.onUsers (Api.createUser a.passwords a.jwt token id salt data)
    pure ()
  | .updateUserRole userId data => House.noted (.user (some userId)) do
    let _ ← House.onUsers (Api.updateUserRole a.jwt token userId data)
    pure ()
  | .deleteUser userId => House.noted (.user (some userId)) do
    House.onUsers (Api.deleteUser a.jwt token userId)

/-- The job of the schedule, if it has one. -/
def fireJob (scheduleId : Uuid) : Py (House σ T) Unit := do
  match ← Eff.gets fun h => h.schedules.job scheduleId with
  | some { task := .jobFunc id actionConfig, .. } => jobFunc (a.houseEnv fails) id actionConfig
  | _ => pure ()

/-- What an operation does. -/
def program [DeviceReading R] : Operation σ → Py (Cached (House σ T) R) Unit
  | .turnOn token ain => a.turnOn fails token ain
  | .turnOff token ain => a.turnOff fails token ain
  | .setTemperature token ain celsius => a.setTemperature fails token ain celsius
  | .setBrightness token ain level => a.setBrightness fails token ain level
  | .discover token draws => Cached.outside (House.discoverDevices a.jwt token (a.houseEnv fails) draws)
  | .updateDevice token deviceId data flushed => Cached.outside (House.updateDevice a.jwt token deviceId data flushed)
  | .group token request => Cached.outside (a.groupRequest fails token request)
  | .schedule token body now => Cached.outside (a.scheduleRequest fails token body now)
  | .rule token request => Cached.outside (a.ruleRequest fails token request)
  | .user token request => Cached.outside (a.userRequest token request)
  | .job scheduleId => Cached.outside (a.fireJob fails scheduleId)
  | .evaluateAllRules => Cached.outside (SmartHome.evaluateAllRules (a.houseEnv fails).toEnv)
  | .writeEvent i now =>
    Cached.outside (Eff.modify fun h => { h with audit := Audit.writeEvent i now h.audit })
  | .elapse world => Cached.outside (Eff.modify fun h => { h with world })

end Setup
end SmartHome
