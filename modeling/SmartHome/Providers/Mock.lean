import Mathlib.Logic.Function.Basic
import SmartHome.Providers.Base

/-! # The mock provider

`MockProvider` (`app/providers/mock/provider.py`): the device table of the fixture and one state for each
device, which the setters change in place. -/

namespace SmartHome

/-- The state of a `MockProvider`: `_devices` in insertion order and `_states`. -/
structure MockProvider where
  devices : List DeviceInfo
  states : String → DeviceState

namespace MockProvider

/-- A dictionary's assignment: a known AIN keeps its place and takes the new value. -/
def put (info : DeviceInfo) : List DeviceInfo → List DeviceInfo
  | [] => [info]
  | other :: devices => if other.ain = info.ain then info :: devices else other :: put info devices

/-- The provider that `__init__` builds from a fixture with these devices and states. -/
def load (infos : List DeviceInfo) (states : String → DeviceState) : MockProvider where
  devices := infos.foldl (fun devices info => put info devices) []
  states

/-- The device with this AIN. -/
def device? (m : MockProvider) (ain : String) : Option DeviceInfo := m.devices.find? (·.ain == ain)

/-- The state of a device changes. -/
def setState (ain : String) (f : DeviceState → DeviceState) (m : MockProvider) : MockProvider :=
  { m with states := Function.update m.states ain (f (m.states ain)) }

/-- `_require_device`. A container is no dictionary key; any other value that is not a string is no key of `_devices`. -/
def requireDevice (ain : PyValue) : Py MockProvider DeviceInfo := do
  match ain with
  | .str a =>
    match ← Eff.gets (·.device? a) with
    | some info => pure info
    | none => Eff.raise (.app (.deviceNotFound a))
  | .list _ | .dict _ => Eff.raise (.builtin .typeError)
  | v => Eff.raise (.app (.deviceNotFound v.text))

/-- The name of a flag. -/
def capabilityName : DeviceCapability → String
  | .switch => "SWITCH"
  | .thermostat => "THERMOSTAT"
  | .dimmer => "DIMMER"
  | .powerMeter => "POWER_METER"

/-- `_require_capability`. -/
def requireCapability (info : DeviceInfo) (capability : DeviceCapability) : Py MockProvider Unit :=
  if capability ∈ info.capabilities then pure ()
  else Eff.raise (.app (.deviceCommand s!"Device {info.ain} does not support {capabilityName capability}."))

/-- `discover_devices`. -/
def discoverDevices : Py MockProvider (List DeviceInfo) := Eff.gets (·.devices)

/-- `get_device_state`. -/
def getDeviceState (ain : PyValue) : Py MockProvider DeviceState := do
  let info ← requireDevice ain
  let s ← Eff.gets (·.states info.ain)
  pure { s with ain := info.ain }

/-- `set_switch`. -/
def setSwitch (ain : PyValue) (on : Bool) : Py MockProvider Unit := do
  let info ← requireDevice ain
  requireCapability info .switch
  Eff.modify (setState info.ain fun s => { s with isOn := some on })

/-- `8.0 <= celsius <= 28.0` or `celsius in (0, 32)`. -/
def legalTemperature : PyFloat → Bool
  | .finite c => (8 ≤ c && c ≤ 28) || c == 0 || c == 32
  | _ => false

/-- `set_temperature`. -/
def setTemperature (ain : PyValue) (celsius : PyFloat) : Py MockProvider Unit := do
  let info ← requireDevice ain
  requireCapability info .thermostat
  if legalTemperature celsius then
    Eff.modify (setState info.ain fun s => { s with targetTemperature := some celsius })
  else Eff.raise (.app (.deviceCommand s!"Temperature {celsius.text}°C out of range (8-28, 0=off, 32=boost)."))

/-- `set_dimmer`; the lamp is on if the level is not 0. -/
def setDimmer (ain : PyValue) (level : Int) : Py MockProvider Unit := do
  let info ← requireDevice ain
  requireCapability info .dimmer
  if 0 ≤ level ∧ level ≤ 255 then
    Eff.modify (setState info.ain fun s => { s with brightnessLevel := some level, isOn := some (decide (level > 0)) })
  else Eff.raise (.app (.deviceCommand s!"Brightness level {level} out of range (0-255)."))

/-- The fixture as a provider. -/
def provider : Provider MockProvider DeviceState :=
  { discoverDevices, getDeviceState, setSwitch, setTemperature, setDimmer }

end MockProvider
end SmartHome
