import SmartHome.Cache
import SmartHome.Scheduler.Store

/-! # The device service

The parts of `DeviceService` that read and command devices (`app/devices/service.py`), over the shared
`device_state_cache`, and the job that polls all devices (`app/scheduler/tasks.py`). -/

namespace SmartHome

/-- What services use of a row of devices. -/
structure Device where
  id : Uuid
  ain : String
  name : String
  deviceType : String
  capabilities : List String := []
  location : Option String := none
  isActive : Bool := true
  lastSeen : Option DateTime := none
  firmwareVersion : Option String := none
  isFavorite : Bool := false
  displayOrder : Int := 0
  deriving DecidableEq

/-- A row of snapshots. -/
structure DeviceStateSnapshot where
  deviceId : Uuid
  ain : String
  recordedAt : DateTime
  isOn : Option Bool
  temperatureCelsius : Option PyFloat
  targetTemperature : Option PyFloat
  powerWatts : Option PyFloat
  energyWh : Option PyFloat
  brightnessLevel : Option Int

/-! ## `DeviceRepository` -/

namespace DeviceRepository

/-- `get_by_ain`; the column is unique. -/
def getByAin (rows : List Device) (ain : String) : Option Device := rows.find? fun row => row.ain == ain

/-- `get_all`, with the collation of the database. -/
def getAll (collate : String → String → Bool) (rows : List Device) (includeInactive : Bool) : List Device :=
  ((rows.filter fun row => includeInactive || row.isActive).mergeSort fun a b =>
    a.displayOrder < b.displayOrder || (a.displayOrder == b.displayOrder && collate a.name b.name)).take 200

/-- `DeviceRepository.get_latest_snapshot`. -/
def getLatestSnapshot (rows : List DeviceStateSnapshot) (ain : String) : Option DeviceStateSnapshot :=
  ((rows.filter fun row => row.ain == ain).mergeSort fun a b => b.recordedAt ≤ a.recordedAt).head?

end DeviceRepository

/-! ## `DeviceService` -/

/-- What the service and the tasks call. -/
structure DeviceEnv (σ R : Type) extends Env σ R where
  monotonic : σ → ℚ
  activeDevices : Py σ (List Device)
  saveSnapshot : DeviceStateSnapshot → Py σ Unit
  commitSnapshots : Py σ Unit

/-- The cache key of a device. -/
def stateKey (ain : String) : String := "state:" ++ ain

theorem stateKey_inj {ain other : String} (h : stateKey ain = stateKey other) : ain = other := by
  have hlist := congrArg String.toList h
  simp only [stateKey, String.toList_append] at hlist
  exact String.toList_injective (List.append_cancel_left hlist)

namespace DeviceService
variable {σ R : Type}

/-- `DeviceService.get_live_state`: 10 seconds in the cache. -/
def getLiveState (env : DeviceEnv σ R) (ain : String) : Py (Cached σ R) R :=
  Cached.getOrFetch env.monotonic (stateKey ain) 10 (env.provider.getDeviceState (.str ain))

/-- The command, and then `device_state_cache.invalidate`. -/
def control (env : DeviceEnv σ R) (ain : String) (command : Command) : Py (Cached σ R) Unit := do
  Cached.outside (env.provider.send (.str ain) command)
  Eff.modify fun s => { s with cache := s.cache.invalidate (stateKey ain) }

/-- `DeviceService.turn_on`. -/
def turnOn (env : DeviceEnv σ R) (ain : String) : Py (Cached σ R) Unit := control env ain (.setSwitch true)

/-- `DeviceService.turn_off`. -/
def turnOff (env : DeviceEnv σ R) (ain : String) : Py (Cached σ R) Unit := control env ain (.setSwitch false)

/-- `DeviceService.set_temperature`. -/
def setTemperature (env : DeviceEnv σ R) (ain : String) (celsius : PyFloat) : Py (Cached σ R) Unit :=
  control env ain (.setTemperature celsius)

/-- `DeviceService.set_brightness`. -/
def setBrightness (env : DeviceEnv σ R) (ain : String) (level : Int) : Py (Cached σ R) Unit :=
  control env ain (.setDimmer level)

/-- The snapshot that a poll makes of a state. -/
def snapshot (device : Device) (now : DateTime) (state : DeviceState) : DeviceStateSnapshot where
  deviceId := device.id
  ain := device.ain
  recordedAt := now
  isOn := state.isOn
  temperatureCelsius := state.temperatureCelsius
  targetTemperature := state.targetTemperature
  powerWatts := state.powerWatts
  energyWh := state.energyWh
  brightnessLevel := state.brightnessLevel

/-- The poll of one device: its state goes into the cache for 65 seconds, and a snapshot into the session. -/
def pollDevice [DeviceReading R] (env : DeviceEnv σ R) (now : DateTime) (device : Device) : Py (Cached σ R) ℕ := do
  let state ← Cached.outside (env.provider.getDeviceState (.str device.ain))
  Eff.modify fun s => { s with cache := s.cache.set (stateKey device.ain) state (env.monotonic s.world + 65) }
  Cached.outside (env.saveSnapshot (snapshot device now (DeviceReading.state state)))
  pure 1

/-- The loop; a device that raises is passed over. -/
def pollDevices [DeviceReading R] (env : DeviceEnv σ R) (now : DateTime) : List Device → Py (Cached σ R) ℕ
  | [] => pure 0
  | device :: devices => do
    let one ← (pollDevice env now device).attempt fun _ => pure 0
    let rest ← pollDevices env now devices
    pure (one + rest)

/-- `DeviceService.poll_and_snapshot_all`. -/
def pollAndSnapshotAll [DeviceReading R] (env : DeviceEnv σ R) : Py (Cached σ R) ℕ := do
  let devices ← Cached.outside env.activeDevices
  let now ← Eff.gets fun s => env.utcnow s.world
  pollDevices env now devices

end DeviceService

/-- `poll_all_devices`, which logs what it catches. -/
def pollAllDevices {σ R : Type} [DeviceReading R] (env : DeviceEnv σ R) : Py (Cached σ R) Unit :=
  Eff.attempt (do
    let _ ← DeviceService.pollAndSnapshotAll env
    Cached.outside env.commitSnapshots) fun _ => pure ()

/-- `job_func` of a schedule. -/
def jobFunc {σ R : Type} (env : DeviceEnv σ R) (scheduleId : Uuid) (actionConfig : PyDict) : Py σ Unit := do
  executeAction actionConfig env.provider
  env.stampSchedule scheduleId

end SmartHome
