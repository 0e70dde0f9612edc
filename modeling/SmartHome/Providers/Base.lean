import SmartHome.Exceptions

/-! # The provider interface

`BaseProvider` and its data objects (`app/providers/base.py`). A provider is given by what its five methods
do to the world `σ` outside the application. A read returns a value of type `R` that carries a `DeviceState`,
so that a proof can follow where a state came from. -/

namespace SmartHome

/-- The kinds of devices. -/
inductive DeviceType where
  | thermostat
  | switch
  | light
  | unknown
  deriving DecidableEq, Repr

/-- The flags of what a device can do. -/
inductive DeviceCapability where
  | switch
  | thermostat
  | dimmer
  | powerMeter
  deriving DecidableEq, Repr

/-- A device as a provider describes it. -/
structure DeviceInfo where
  ain : String
  name : String
  deviceType : DeviceType
  capabilities : List DeviceCapability
  isPresent : Bool
  firmwareVersion : Option String := none
  deriving DecidableEq, Repr

/-- A device's state; `none` where the device does not support the capability. -/
structure DeviceState where
  ain : String
  isOn : Option Bool := none
  temperatureCelsius : Option PyFloat := none
  targetTemperature : Option PyFloat := none
  powerWatts : Option PyFloat := none
  energyWh : Option PyFloat := none
  brightnessLevel : Option Int := none
  deriving DecidableEq, Repr

/-- What a provider returns for a device, with the `DeviceState` in it. -/
class DeviceReading (R : Type) where
  state : R → DeviceState

instance : DeviceReading DeviceState := ⟨id⟩

/-- `BaseProvider`. An AIN is what the caller passes: a string, except where stored JSON is passed on. -/
structure Provider (σ R : Type) where
  discoverDevices : Py σ (List DeviceInfo)
  getDeviceState : PyValue → Py σ R
  setSwitch : PyValue → Bool → Py σ Unit
  setTemperature : PyValue → PyFloat → Py σ Unit
  setDimmer : PyValue → Int → Py σ Unit

/-- The commands of a provider. -/
inductive Command where
  | setSwitch (on : Bool)
  | setTemperature (celsius : PyFloat)
  | setDimmer (level : Int)
  deriving DecidableEq, Repr

/-- The method of the provider for the command. -/
def Provider.send {σ R : Type} (provider : Provider σ R) (ain : PyValue) : Command → Py σ Unit
  | .setSwitch on => provider.setSwitch ain on
  | .setTemperature celsius => provider.setTemperature ain celsius
  | .setDimmer level => provider.setDimmer ain level

namespace Provider
variable {σ R α : Type}

/-- The provider in a larger state. -/
def within {τ : Type} (view : τ → σ) (put : σ → τ → τ) (provider : Provider σ R) : Provider τ R where
  discoverDevices := Eff.zoom view put provider.discoverDevices
  getDeviceState ain := Eff.zoom view put (provider.getDeviceState ain)
  setSwitch ain on := Eff.zoom view put (provider.setSwitch ain on)
  setTemperature ain celsius := Eff.zoom view put (provider.setTemperature ain celsius)
  setDimmer ain level := Eff.zoom view put (provider.setDimmer ain level)

theorem within_send {τ : Type} (view : τ → σ) (put : σ → τ → τ) (provider : Provider σ R) (ain : PyValue)
    (command : Command) : (provider.within view put).send ain command = Eff.zoom view put (provider.send ain command) := by
  cases command <;> rfl

/-- The program with a log to which it adds nothing. -/
def unrecorded (m : Py σ α) : Py (σ × List (PyValue × Command)) α := fun (s, log) => ((m s).1, (m s).2, log)

/-- The program with a log to which it adds a command. -/
def recorded (ain : PyValue) (command : Command) (m : Py σ α) : Py (σ × List (PyValue × Command)) α :=
  fun (s, log) => ((m s).1, (m s).2, log ++ [(ain, command)])

/-- The provider with a log of the commands that are sent to it. -/
def recording (provider : Provider σ R) : Provider (σ × List (PyValue × Command)) R where
  discoverDevices := unrecorded provider.discoverDevices
  getDeviceState ain := unrecorded (provider.getDeviceState ain)
  setSwitch ain on := recorded ain (.setSwitch on) (provider.setSwitch ain on)
  setTemperature ain celsius := recorded ain (.setTemperature celsius) (provider.setTemperature ain celsius)
  setDimmer ain level := recorded ain (.setDimmer level) (provider.setDimmer ain level)

end Provider

namespace DeviceState

/-- The fields of the class. -/
def fields : List String :=
  ["ain", "is_on", "temperature_celsius", "target_temperature", "power_watts", "energy_wh", "brightness_level",
    "last_updated"]

/-- None where there is no value. -/
def optional {α : Type} (wrap : α → PyValue) : Option α → PyValue
  | none => .none
  | some a => wrap a

/-- `getattr(state, name, None)` of the fields; what every class has besides (`__doc__`) is left out. -/
def getattr (s : DeviceState) (name : String) : PyValue :=
  if name = "ain" then .str s.ain
  else if name = "is_on" then optional .bool s.isOn
  else if name = "temperature_celsius" then optional .float s.temperatureCelsius
  else if name = "target_temperature" then optional .float s.targetTemperature
  else if name = "power_watts" then optional .float s.powerWatts
  else if name = "energy_wh" then optional .float s.energyWh
  else if name = "brightness_level" then optional .int s.brightnessLevel
  else if name = "last_updated" then .object
  else .none

end DeviceState
end SmartHome
