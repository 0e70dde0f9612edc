import Mathlib.Data.Finset.Image
import Mathlib.Data.List.DropRight
import SmartHome.Providers.Base

/-! # Device discovery

How the device objects of the FRITZ!Box become `DeviceInfo`s (`app/providers/fritz/discovery.py`). -/

namespace SmartHome

/-- The value of the enumeration. -/
def DeviceType.value : DeviceType → String
  | .thermostat => "thermostat"
  | .switch => "switch"
  | .light => "light"
  | .unknown => "unknown"

/-- `str.strip()`. -/
def stripText (s : String) : String := String.ofList (Numeral.strip Numeral.isSpace s.toList)

theorem stripText_stripText (s : String) : stripText (stripText s) = stripText s := by
  have hstrip : ∀ cs, Numeral.strip Numeral.isSpace cs = (cs.dropWhile Numeral.isSpace).rdropWhile Numeral.isSpace :=
    fun _ => rfl
  unfold stripText
  rw [String.toList_ofList, hstrip, hstrip]
  have hhead := List.head?_dropWhile_not Numeral.isSpace s.toList
  generalize s.toList.dropWhile Numeral.isSpace = cs at hhead ⊢
  -- What is left of the end begins as before.
  have hbegin : (cs.rdropWhile Numeral.isSpace).dropWhile Numeral.isSpace = cs.rdropWhile Numeral.isSpace := by
    obtain ⟨rest, hrest⟩ := List.rdropWhile_prefix Numeral.isSpace cs
    cases hcs : cs.rdropWhile Numeral.isSpace with
    | nil => rfl
    | cons c kept =>
      rw [hcs] at hrest
      rw [← hrest, List.cons_append, List.head?_cons] at hhead
      exact List.dropWhile_cons_of_neg (Bool.eq_false_iff.mp hhead)
  rw [hbegin, List.rdropWhile_idempotent]

/-- `str.lower()`, for the search for ASCII letters: besides them only the Kelvin sign turns into one. -/
def lowerText (s : String) : List Char := s.toList.map fun c => if c.toNat = 8490 then 'k' else c.toLower

namespace Fritz

/-- An attribute of a device object: it need not be there, and may be `None`. -/
inductive Attribute where
  | missing
  | none
  | text (s : String)
  deriving DecidableEq, Repr

namespace Attribute

/-- `getattr(device, name, None) or None`. -/
def text? : Attribute → Option String
  | text s => if s = "" then .none else some s
  | _ => .none

/-- `str(getattr(device, name, default))`. -/
def asText (default : String) : Attribute → String
  | missing => default
  | none => "None"
  | text s => s

end Attribute

/-- A device object of the FRITZ!Box. -/
structure RawDevice where
  ain : Attribute
  deviceName : Attribute := .missing
  productName : Attribute := .missing
  firmwareVersion : Attribute := .missing
  isSwitchable : Bool := false
  isPluggable : Bool := false
  isRadiatorControl : Bool := false
  isAdjustable : Bool := false
  isBulb : Bool := false
  isEnergySensor : Bool := false
  deriving DecidableEq, Repr

/-- `is_fritz_group_ain`. -/
def isFritzGroupAin (ain : String) : Bool :=
  let stripped := stripText ain
  stripped = "" || "grp".toList.isPrefixOf (lowerText stripped)

/-- `_parse_capabilities`. -/
def parseCapabilities (device : RawDevice) : List DeviceCapability :=
  (if device.isSwitchable || device.isPluggable then [.switch] else []) ++
    (if device.isRadiatorControl then [.thermostat] else []) ++
    (if device.isAdjustable || device.isBulb then [.dimmer] else []) ++
    (if device.isEnergySensor then [.powerMeter] else [])

/-- `_infer_device_type`. -/
def inferDeviceType (capabilities : List DeviceCapability) : DeviceType :=
  if .thermostat ∈ capabilities then .thermostat
  else if .dimmer ∈ capabilities then .light
  else if .switch ∈ capabilities then .switch
  else .unknown

/-- The AIN of a device object without the blanks around it. -/
def RawDevice.trimmedAin (device : RawDevice) : String := stripText (device.ain.text?.getD "")

/-- The name of a device, or of its product. -/
def RawDevice.name (device : RawDevice) : String :=
  device.deviceName.text?.getD (device.productName.asText "Unknown")

/-- `none` for a virtual group and for a device without an AIN. -/
def parseDeviceInfo (device : RawDevice) : Option DeviceInfo :=
  if isFritzGroupAin device.trimmedAin then none
  else
    let capabilities := parseCapabilities device
    some
      { ain := device.trimmedAin
        name := device.name
        deviceType := inferDeviceType capabilities
        capabilities
        isPresent := true
        firmwareVersion := device.firmwareVersion.text? }

/-- The devices of the box, without its virtual groups. -/
def deviceInfos (table : List RawDevice) : List DeviceInfo := table.filterMap parseDeviceInfo

theorem parseDeviceInfo_ain {device : RawDevice} {info : DeviceInfo} (h : parseDeviceInfo device = some info) :
    info.ain = device.trimmedAin := by
  unfold parseDeviceInfo at h
  split at h
  · cases h
  · cases h
    rfl

/-! ### The devices in a raw list -/

/-- The AIN is not empty, and not that of a group. -/
def Physical (ain : String) : Prop := ain ≠ "" ∧ ¬ "grp".toList <+: lowerText ain

instance (ain : String) : Decidable (Physical ain) := inferInstanceAs (Decidable (_ ∧ _))

theorem isFritzGroupAin_trimmedAin (device : RawDevice) :
    isFritzGroupAin device.trimmedAin = false ↔ Physical device.trimmedAin := by
  unfold isFritzGroupAin Physical RawDevice.trimmedAin
  rw [stripText_stripText, Bool.or_eq_false_iff, decide_eq_false_iff_not, ← List.isPrefixOf_iff_prefix, Bool.not_eq_true]

example : isFritzGroupAin "GRP12345678" = true := by decide
example : isFritzGroupAin "   " = true := by decide
example : isFritzGroupAin "Z28DBA7FFFE6000D0" = false := by decide

/-- The AINs of the devices in the list. -/
def discoveredAins (raw : List RawDevice) : Finset String := (raw.map RawDevice.trimmedAin).toFinset.filter Physical

/-- The last raw device with the AIN. -/
def lastWith (raw : List RawDevice) (ain : String) : Option RawDevice := raw.reverse.find? (·.trimmedAin = ain)

theorem parseDeviceInfo_eq_none {device : RawDevice} : parseDeviceInfo device = none ↔ ¬ Physical device.trimmedAin := by
  rw [← isFritzGroupAin_trimmedAin, Bool.not_eq_false]
  unfold parseDeviceInfo
  split
  · next hgroup => simp [hgroup]
  · next hgroup => simp [hgroup]

theorem deviceInfos_ains (raw : List RawDevice) :
    ((deviceInfos raw).map DeviceInfo.ain).toFinset = discoveredAins raw := by
  ext ain
  simp only [discoveredAins, deviceInfos, List.mem_toFinset, List.mem_map, List.mem_filterMap, Finset.mem_filter]
  constructor
  · rintro ⟨info, ⟨device, hdevice, hparse⟩, rfl⟩
    rw [parseDeviceInfo_ain hparse]
    refine ⟨⟨device, hdevice, rfl⟩, ?_⟩
    by_contra hgroup
    rw [parseDeviceInfo_eq_none.mpr hgroup] at hparse
    cases hparse
  · rintro ⟨⟨device, hdevice, rfl⟩, hphysical⟩
    cases hparse : parseDeviceInfo device with
    | none => exact absurd hphysical (parseDeviceInfo_eq_none.mp hparse)
    | some info => exact ⟨info, ⟨device, hdevice, hparse⟩, parseDeviceInfo_ain hparse⟩

end Fritz
end SmartHome
