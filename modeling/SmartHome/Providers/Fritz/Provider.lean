import Mathlib.Data.List.Infix
import Mathlib.Logic.Function.Basic
import Mathlib.Tactic.Linarith
import Mathlib.Tactic.NormNum
import SmartHome.Providers.Fritz.Discovery

/-! # The FRITZ!Box provider

`FritzProvider` with its adapter and its mapping of exceptions (`app/providers/fritz/`). The library that
talks to the box is given by `FritzBox`: what its calls do to the world `σ` outside the application. -/

namespace SmartHome
namespace Fritz

/-! ## Exceptions -/

/-- An exception of the library or of a conversion: the name of its class and its text. -/
structure FritzError where
  name : String
  text : String
  deriving DecidableEq, Repr

/-- The word is in the text of the exception. -/
def FritzError.mentions (exc : FritzError) (word : String) : Bool := decide (word.toList <:+: lowerText exc.text)

/-- `map_fritz_error`: which of the errors of the application the text speaks of. -/
def mapFritzError (ain : String) (exc : FritzError) : AppError :=
  if exc.mentions "authentication" || exc.mentions "auth" || exc.mentions "login" then
    .providerAuth ("FRITZ!Box authentication failed: " ++ exc.text)
  else if exc.mentions "connection" || exc.mentions "refused" || exc.mentions "timeout" then
    .providerConnection ("Cannot reach FRITZ!Box: " ++ exc.text)
  else if exc.mentions "not found" || exc.mentions "unknown" then .deviceNotFound ain
  else .deviceCommand ("Fritz device command failed (" ++ exc.name ++ "): " ++ exc.text)

/-! ## The library -/

/-- The commands of the AHA interface. -/
inductive AhaCommand where
  | setswitchon
  | setswitchoff
  | sethkrtsoll
  | setlevel
  | getswitchstate
  | gettemperature
  | gethkrtsoll
  | getswitchpower
  | getswitchenergy
  | getlevel
  deriving DecidableEq, Repr

namespace AhaCommand

/-- The name of the command. -/
def text : AhaCommand → String
  | setswitchon => "setswitchon"
  | setswitchoff => "setswitchoff"
  | sethkrtsoll => "sethkrtsoll"
  | setlevel => "setlevel"
  | getswitchstate => "getswitchstate"
  | gettemperature => "gettemperature"
  | gethkrtsoll => "gethkrtsoll"
  | getswitchpower => "getswitchpower"
  | getswitchenergy => "getswitchenergy"
  | getlevel => "getlevel"

/-- The command changes something. -/
def isSet : AhaCommand → Bool
  | setswitchon | setswitchoff | sethkrtsoll | setlevel => true
  | _ => false

end AhaCommand

/-- A command of the AHA interface with its keyword arguments, numbers that are sent as their texts. -/
structure AhaCall where
  command : AhaCommand
  ain : PyValue
  kwargs : List (String × Int) := []

/-- The library, and the box behind it. -/
structure FritzBox (σ : Type) where
  /-- `FritzHomeAutomation(..)`. -/
  connect : Eff σ FritzError Unit
  getHomeautomationDevices : Eff σ FritzError (List RawDevice)
  /-- `fc.call_http`: the content of the answer, if it has one. -/
  callHttp : String → PyValue → List (String × String) → Eff σ FritzError (Option String)

end Fritz

open Fritz

/-- The provider, with a log of what it sent. -/
structure FritzProvider (σ : Type) where
  world : σ
  /-- `_fha` is set. -/
  connected : Bool := false
  deviceCapabilities : String → Option (List DeviceCapability) := fun _ => none
  /-- The AHA commands that were handed to the library. -/
  sent : List AhaCall := []

namespace FritzProvider
variable {σ α : Type} (box : FritzBox σ)

/-- A call of the library. -/
def outside {ε : Type} (m : Eff σ ε α) : Eff (FritzProvider σ) ε α :=
  Eff.zoom (·.world) (fun world s => { s with world }) m

/-- `except Exception as exc: raise map_fritz_error(exc, ain)`. -/
def guarded (ain : String) (m : Eff (FritzProvider σ) FritzError α) : Py (FritzProvider σ) α :=
  m.mapError fun exc => .app (mapFritzError ain exc)

/-- `_ensure_connected`. -/
def ensureConnected : Py (FritzProvider σ) Unit := do
  if ← Eff.gets (·.connected) then pure ()
  else guarded "" do
    outside box.connect
    Eff.modify fun s => { s with connected := true }

/-- The capabilities of the devices are remembered. -/
def register (infos : List DeviceInfo) (s : FritzProvider σ) : FritzProvider σ :=
  { s with
    deviceCapabilities :=
      infos.foldl (fun known info => Function.update known info.ain (some info.capabilities)) s.deviceCapabilities }

/-- `discover_devices`. -/
def discoverDevices : Py (FritzProvider σ) (List DeviceInfo) := do
  ensureConnected box
  guarded "" do
    let devicesRaw ← outside box.getHomeautomationDevices
    Eff.modify (register (deviceInfos devicesRaw))
    pure (deviceInfos devicesRaw)

/-! ## The adapter -/

/-- `_call_http`. -/
def callHttp (command : AhaCommand) (ain : PyValue) (kwargs : List (String × Int) := []) :
    Eff (FritzProvider σ) FritzError String := do
  Eff.modify fun s => { s with sent := s.sent ++ [{ command, ain, kwargs }] }
  let content ← outside (box.callHttp command.text ain (kwargs.map fun (key, value) => (key, toString value)))
  pure (stripText (content.getD ""))

/-- `float(raw)`; the escapes of the quoted text are left out. -/
def floatOf (raw : String) : Except FritzError PyFloat :=
  match Numeral.parseFloat raw with
  | some x => .ok x
  | none => .error { name := "ValueError", text := "could not convert string to float: '" ++ raw ++ "'" }

/-- `int(raw)`. -/
def intOf (raw : String) : Except FritzError Int :=
  match Numeral.parseInt raw.toList with
  | some z => .ok z
  | none => .error { name := "ValueError", text := "invalid literal for int() with base 10: '" ++ raw ++ "'" }

/-- `int(x)` of a float, which is cut towards zero. -/
def intOfFloat : PyFloat → Except FritzError Int
  | .finite q => .ok (q.num.tdiv q.den)
  | .inf _ => .error { name := "OverflowError", text := "cannot convert float infinity to integer" }
  | .nan => .error { name := "ValueError", text := "cannot convert float NaN to integer" }

/-- The set-point in an answer: half degrees, off, or on. -/
def targetOf (raw : String) : Except FritzError PyFloat := do
  let val ← intOf raw
  if val = 253 then pure (.finite 0)
  else if val = 254 then pure (.finite 32)
  else if PyFloat.overflowBound ≤ |(val : ℚ)| then
    throw { name := "OverflowError", text := "int too large to convert to float" }
  else pure ((PyFloat.ofRat val).div 2)

/-- `if raw: .. parse(raw)`. -/
def unlessEmpty (parse : String → Except FritzError α) (raw : String) : Except FritzError (Option α) :=
  if raw = "" then .ok none else (parse raw).map some

/-- One reading, if the device has the capability. -/
def reading (ain : String) (supported : Bool) (command : AhaCommand) (parse : String → Except FritzError (Option α)) :
    Eff (FritzProvider σ) FritzError (Option α) :=
  if supported then do
    let raw ← callHttp box command (.str ain)
    Eff.ofExcept (parse raw)
  else pure none

/-- The state of a device, one request for each reading. -/
def getState (ain : String) (capabilities : List DeviceCapability) : Py (FritzProvider σ) DeviceState :=
  guarded ain do
    let isOn ← reading box ain (.switch ∈ capabilities) .getswitchstate fun raw => .ok (some (decide (raw = "1")))
    let temperatureCelsius ← reading box ain (.thermostat ∈ capabilities) .gettemperature
      (unlessEmpty fun raw => (floatOf raw).map (PyFloat.div 10))
    let targetTemperature ← reading box ain (.thermostat ∈ capabilities) .gethkrtsoll (unlessEmpty targetOf)
    let powerWatts ← reading box ain (.powerMeter ∈ capabilities) .getswitchpower
      (unlessEmpty fun raw => (floatOf raw).map (PyFloat.div 1000))
    let energyWh ← reading box ain (.powerMeter ∈ capabilities) .getswitchenergy (unlessEmpty floatOf)
    let brightnessLevel ← reading box ain (.dimmer ∈ capabilities) .getlevel (unlessEmpty intOf)
    pure { ain, isOn, temperatureCelsius, targetTemperature, powerWatts, energyWh, brightnessLevel }

/-- The parameter of `sethkrtsoll`: 253 is off, 254 is boost, any other number counts half degrees. -/
def temperatureParam (celsius : PyFloat) : Except FritzError Int :=
  if celsius.eq (.finite 0) then .ok 253
  else if (PyFloat.finite 32).lt celsius || celsius.eq (.finite 32) then .ok 254
  else intOfFloat celsius.twice

/-! ## The provider -/

/-- `_device_capabilities.get(ain)`: only a string is a key, and a container cannot be looked up. -/
def knownCapabilities : PyValue → Py (FritzProvider σ) (Option (List DeviceCapability))
  | .str ain => Eff.gets (·.deviceCapabilities ain)
  | .list _ | .dict _ => Eff.raise (.builtin .typeError)
  | _ => pure none

/-- `get_device_state`; an unknown AIN is looked for by a discovery. -/
def getDeviceState (ain : PyValue) : Py (FritzProvider σ) DeviceState := do
  ensureConnected box
  match ← knownCapabilities ain with
  | some capabilities => getState box ain.text capabilities
  | none =>
    let _ ← discoverDevices box
    match ← knownCapabilities ain with
    | some capabilities => getState box ain.text capabilities
    | none => Eff.raise (.app (.deviceNotFound ain.text))

/-- `set_switch`. -/
def setSwitch (ain : PyValue) (on : Bool) : Py (FritzProvider σ) Unit := do
  ensureConnected box
  guarded ain.text do
    let _ ← callHttp box (if on then .setswitchon else .setswitchoff) ain

/-- `set_temperature`. -/
def setTemperature (ain : PyValue) (celsius : PyFloat) : Py (FritzProvider σ) Unit := do
  ensureConnected box
  guarded ain.text do
    let param ← Eff.ofExcept (temperatureParam celsius)
    let _ ← callHttp box .sethkrtsoll ain [("param", param)]

/-- `set_dimmer`. -/
def setDimmer (ain : PyValue) (level : Int) : Py (FritzProvider σ) Unit := do
  ensureConnected box
  guarded ain.text do
    let _ ← callHttp box .setlevel ain [("level", level)]

/-- The adapter as a provider. -/
def provider : Provider (FritzProvider σ) DeviceState where
  discoverDevices := discoverDevices box
  getDeviceState := getDeviceState box
  setSwitch := setSwitch box
  setTemperature := setTemperature box
  setDimmer := setDimmer box

/-! ## What the calls send -/

variable {box} {s t : FritzProvider σ}

/-- The session stands, or it can be set up. -/
def Reaches (box : FritzBox σ) (s : FritzProvider σ) : Prop :=
  s.connected = true ∨ (box.connect s.world).1 = .ok ()

theorem ensureConnected_of_reaches (h : Reaches box s) :
    ∃ world, ensureConnected box s = (.ok (), { s with world, connected := true }) ∧
      (world = s.world ∨ world = (box.connect s.world).2) := by
  unfold ensureConnected
  rcases hconnected : s.connected with _ | _
  · have hok : (box.connect s.world).1 = .ok () := by simpa [Reaches, hconnected] using h
    refine ⟨(box.connect s.world).2, ?_, Or.inr rfl⟩
    have houtside : outside box.connect s = (.ok (), { s with world := (box.connect s.world).2 }) := by
      simp only [outside, Eff.zoom, hok]
    rw [Eff.gets_bind_run, hconnected]
    exact Eff.mapError_of_ok (by rw [Eff.bind_of_ok houtside]; rfl)
  · refine ⟨s.world, ?_, Or.inl rfl⟩
    rw [Eff.gets_bind_run, hconnected]
    cases s
    cases hconnected
    rfl

theorem ensureConnected_of_not_reaches (h : ¬ Reaches box s) :
    ∃ exc world, ensureConnected box s = (.error (.app (mapFritzError "" exc)), { s with world }) := by
  obtain ⟨hconnected, herror⟩ := not_or.mp h
  rcases hexc : (box.connect s.world).1 with exc | _
  · refine ⟨exc, (box.connect s.world).2, ?_⟩
    have houtside : outside box.connect s = (.error exc, { s with world := (box.connect s.world).2 }) := by
      simp only [outside, Eff.zoom, hexc]
    unfold ensureConnected
    rw [Eff.gets_bind_run, if_neg hconnected]
    exact Eff.mapError_of_error (Eff.bind_of_error houtside)
  · exact absurd hexc herror

theorem outside_map_run {β : Type} (m : Eff σ FritzError α) (f : α → β) (s : FritzProvider σ) :
    (do let a ← outside m; pure (f a)) s = ((m s.world).1.map f, { s with world := (m s.world).2 }) := by
  rw [Eff.bind_run]
  simp only [outside, Eff.zoom]
  rcases (m s.world).1 with exc | a <;> rfl

theorem callHttp_run (box : FritzBox σ) (command : AhaCommand) (ain : PyValue) (kwargs : List (String × Int))
    (s : FritzProvider σ) :
    callHttp box command ain kwargs s =
      let answer := box.callHttp command.text ain (kwargs.map fun (key, value) => (key, toString value)) s.world
      (answer.1.map fun content => stripText (content.getD ""),
        { s with world := answer.2, sent := s.sent ++ [{ command, ain, kwargs }] }) :=
  outside_map_run _ _ { s with sent := s.sent ++ [{ command, ain, kwargs }] }

/-- The AHA command that a command becomes, unless its argument cannot be converted. -/
def ahaCall (ain : PyValue) : Command → Except FritzError AhaCall
  | .setSwitch on => .ok { command := if on then .setswitchon else .setswitchoff, ain }
  | .setTemperature celsius =>
    (temperatureParam celsius).map fun param => { command := .sethkrtsoll, ain, kwargs := [("param", param)] }
  | .setDimmer level => .ok { command := .setlevel, ain, kwargs := [("level", level)] }

/-- Every setter connects, converts its argument and sends one AHA command. -/
theorem send_eq (box : FritzBox σ) (ain : PyValue) (command : Command) :
    (provider box).send ain command = (do
      ensureConnected box
      guarded ain.text do
        let call ← Eff.ofExcept (ahaCall ain command)
        let _ ← callHttp box call.command call.ain call.kwargs) := by
  cases command with
  | setSwitch on => rfl
  | setTemperature celsius =>
    simp only [Provider.send, provider, setTemperature, ahaCall]
    rcases temperatureParam celsius with exc | param <;> rfl
  | setDimmer level => rfl

theorem ahaCall_isSet {ain : PyValue} {command : Command} {call : AhaCall} (h : ahaCall ain command = .ok call) :
    call.command.isSet = true := by
  cases command with
  | setSwitch on =>
    cases h
    cases on <;> rfl
  | setTemperature celsius =>
    simp only [ahaCall] at h
    rcases htemperature : temperatureParam celsius with exc | param <;> rw [htemperature] at h <;> cases h
    rfl
  | setDimmer level =>
    cases h
    rfl

/-- A temperature that no parameter can be computed from. -/
def Unsendable : Command → Prop
  | .setTemperature celsius => celsius = .nan ∨ celsius.twice = .inf true
  | _ => False

theorem temperatureParam_finite (q : ℚ) :
    temperatureParam (.finite q) =
      if q = 0 then .ok 253 else if 32 ≤ q then .ok 254 else intOfFloat (PyFloat.finite q).twice := by
  have hzero : (PyFloat.finite q).eq (.finite 0) = decide (q = 0) := rfl
  have hboost : ((PyFloat.finite 32).lt (.finite q) || (PyFloat.finite q).eq (.finite 32)) = decide (32 ≤ q) := by
    have h : ((PyFloat.finite 32).lt (.finite q) || (PyFloat.finite q).eq (.finite 32)) =
        (decide (32 < q) || decide (q = 32)) := rfl
    rw [h, ← Bool.decide_or, decide_eq_decide, le_iff_lt_or_eq, eq_comm]
  simp only [temperatureParam, hzero, hboost, decide_eq_true_eq]

theorem neg_of_twice {q : ℚ} (h : (PyFloat.finite q).twice = .inf true) : q < 0 := by
  have hlarge := PyFloat.overflowBound_large
  simp only [PyFloat.twice] at h
  split at h
  · cases h
  split at h
  · linarith
  · cases h

theorem twice_small {q : ℚ} (h : q < 32) (hinf : (PyFloat.finite q).twice ≠ .inf true) :
    (PyFloat.finite q).twice = .finite (q * 2) := by
  have hlarge := PyFloat.overflowBound_large
  have habove : ¬ q * 2 ≥ PyFloat.overflowBound := by linarith
  simp only [PyFloat.twice, if_neg habove] at hinf ⊢
  split at hinf
  · exact absurd rfl hinf
  · next hbelow => rw [if_neg hbelow]

theorem temperatureParam_of_sendable {celsius : PyFloat} (h : ¬ Unsendable (.setTemperature celsius)) :
    ∃ param, temperatureParam celsius = .ok param := by
  obtain ⟨hnan, hinf⟩ := not_or.mp h
  cases celsius with
  | finite q =>
    rw [temperatureParam_finite]
    split
    · exact ⟨253, rfl⟩
    split
    · exact ⟨254, rfl⟩
    · next hboost =>
      rw [twice_small (not_le.mp hboost) hinf]
      exact ⟨_, rfl⟩
  | inf negative =>
    cases negative with
    | true => exact absurd rfl hinf
    | false => exact ⟨254, rfl⟩
  | nan => exact absurd rfl hnan

theorem ahaCall_of_sendable {command : Command} (ain : PyValue) (h : ¬ Unsendable command) :
    ∃ call, ahaCall ain command = .ok call := by
  cases command with
  | setSwitch on => exact ⟨_, rfl⟩
  | setTemperature celsius =>
    obtain ⟨param, hparam⟩ := temperatureParam_of_sendable h
    exact ⟨_, by rw [ahaCall, hparam]; rfl⟩
  | setDimmer level => exact ⟨_, rfl⟩

/-- The two texts that a conversion to `int` fails with. -/
theorem ahaCall_of_unsendable {command : Command} (ain : PyValue) (h : Unsendable command) :
    ahaCall ain command = .error { name := "ValueError", text := "cannot convert float NaN to integer" } ∨
      ahaCall ain command = .error { name := "OverflowError", text := "cannot convert float infinity to integer" } := by
  cases command with
  | setSwitch on => exact h.elim
  | setTemperature celsius =>
    cases celsius with
    | finite q =>
      have hinf : (PyFloat.finite q).twice = .inf true := h.resolve_left nofun
      have hneg : q < 0 := neg_of_twice hinf
      refine Or.inr ?_
      rw [ahaCall, temperatureParam_finite, if_neg (by linarith), if_neg (by linarith), hinf]
      rfl
    | inf negative =>
      cases negative with
      | true => exact Or.inr rfl
      | false => exact absurd (h.resolve_left nofun) nofun
    | nan => exact Or.inl rfl
  | setDimmer level => exact h.elim

theorem send_of_ahaCall {ain : PyValue} {command : Command} {call : AhaCall} (h : Reaches box s)
    (hcall : ahaCall ain command = .ok call) :
    ∃ result world, (provider box).send ain command s =
      (result, { s with world, connected := true, sent := s.sent ++ [call] }) := by
  obtain ⟨world, hconnect, -⟩ := ensureConnected_of_reaches h
  have hhttp := callHttp_run box call.command call.ain call.kwargs { s with world, connected := true }
  rw [send_eq, Eff.bind_of_ok hconnect, hcall]
  rcases hanswer : box.callHttp call.command.text call.ain (call.kwargs.map fun (key, value) => (key, toString value)) world
    with ⟨exc | content, world'⟩ <;> simp only [hanswer] at hhttp
  · refine ⟨.error (.app (mapFritzError ain.text exc)), world', Eff.mapError_of_error (e := exc) ?_⟩
    rw [Eff.bind_of_ok (Eff.ofExcept_ok_run call _), Eff.bind_of_error hhttp]
  · refine ⟨.ok (), world', Eff.mapError_of_ok ?_⟩
    rw [Eff.bind_of_ok (Eff.ofExcept_ok_run call _), Eff.bind_of_ok hhttp]
    rfl

theorem send_of_error {ain : PyValue} {command : Command} {exc : FritzError} (h : Reaches box s)
    (hcall : ahaCall ain command = .error exc) :
    ∃ world, (provider box).send ain command s =
      (.error (.app (mapFritzError ain.text exc)), { s with world, connected := true }) := by
  obtain ⟨world, hconnect, -⟩ := ensureConnected_of_reaches h
  rw [send_eq, Eff.bind_of_ok hconnect, hcall]
  exact ⟨world, Eff.mapError_of_error (Eff.bind_of_error (Eff.ofExcept_error_run exc _))⟩

theorem send_of_not_reaches {ain : PyValue} {command : Command} (h : ¬ Reaches box s) :
    ∃ exc world, (provider box).send ain command s = (.error (.app (mapFritzError "" exc)), { s with world }) := by
  obtain ⟨exc, world, hconnect⟩ := ensureConnected_of_not_reaches h
  rw [send_eq, Eff.bind_of_error hconnect]
  exact ⟨exc, world, rfl⟩

/-- Between the states no command was sent that changes a device. -/
def OnlyReads (s t : FritzProvider σ) : Prop :=
  ∃ calls, t.sent = s.sent ++ calls ∧ ∀ call ∈ calls, call.command.isSet = false

theorem onlyReads_of_sent (h : t.sent = s.sent) : OnlyReads s t := ⟨[], by simp [h], by simp⟩

theorem onlyReads_refl (s : FritzProvider σ) : OnlyReads s s := onlyReads_of_sent rfl

theorem onlyReads_trans {u : FritzProvider σ} (h : OnlyReads s t) (h' : OnlyReads t u) : OnlyReads s u := by
  obtain ⟨calls, hsent, hreads⟩ := h
  obtain ⟨more, hsent', hreads'⟩ := h'
  refine ⟨calls ++ more, by rw [hsent', hsent, List.append_assoc], fun call hcall => ?_⟩
  rcases List.mem_append.mp hcall with hcall | hcall
  · exact hreads call hcall
  · exact hreads' call hcall

/-- The program sends nothing that changes a device. -/
abbrev KeepsReading {ε : Type} (m : Eff (FritzProvider σ) ε α) : Prop := Eff.Keeps OnlyReads m

theorem keepsReading_bind {ε β : Type} {m : Eff (FritzProvider σ) ε α} {f : α → Eff (FritzProvider σ) ε β}
    (hm : KeepsReading m) (hf : ∀ a, KeepsReading (f a)) : KeepsReading (m >>= f) :=
  Eff.Keeps.bind (R := OnlyReads) onlyReads_trans hm hf

/-- What a program does after `m` adds nothing but readings. -/
theorem onlyReads_bind {ε β : Type} (m : Eff (FritzProvider σ) ε α) {f : α → Eff (FritzProvider σ) ε β}
    (hf : ∀ a, KeepsReading (f a)) (s : FritzProvider σ) : OnlyReads (m s).2 ((m >>= f) s).2 := by
  rcases hm : m s with ⟨e | a, t⟩
  · rw [Eff.bind_of_error hm]
    exact onlyReads_refl t
  · rw [Eff.bind_of_ok hm]
    exact hf a t

theorem outside_keepsReading {ε : Type} (m : Eff σ ε α) : KeepsReading (outside m) := fun _ => onlyReads_of_sent rfl

theorem ensureConnected_keepsReading (box : FritzBox σ) : KeepsReading (ensureConnected box) := by
  refine keepsReading_bind (Eff.Keeps.gets onlyReads_refl _) fun connected => ?_
  split
  · exact Eff.Keeps.pure onlyReads_refl ()
  · exact Eff.Keeps.mapError (keepsReading_bind (outside_keepsReading _) fun _ s => onlyReads_of_sent rfl)

theorem discoverDevices_keepsReading (box : FritzBox σ) : KeepsReading (discoverDevices box) := by
  refine keepsReading_bind (ensureConnected_keepsReading box) fun _ => Eff.Keeps.mapError ?_
  refine keepsReading_bind (outside_keepsReading _) fun devicesRaw => keepsReading_bind (fun s => ?_) fun _ => ?_
  · exact onlyReads_of_sent rfl
  · exact Eff.Keeps.pure onlyReads_refl _

theorem reading_keepsReading (box : FritzBox σ) (ain : String) (supported : Bool) {command : AhaCommand}
    (parse : String → Except FritzError (Option α)) (h : command.isSet = false) :
    KeepsReading (reading box ain supported command parse) := by
  unfold reading
  split
  · refine keepsReading_bind (fun s => ?_) fun raw => Eff.Keeps.ofExcept onlyReads_refl _
    rw [callHttp_run]
    exact ⟨[{ command, ain := .str ain }], rfl, by simp [h]⟩
  · exact Eff.Keeps.pure onlyReads_refl _

theorem getState_keepsReading (box : FritzBox σ) (ain : String) (capabilities : List DeviceCapability) :
    KeepsReading (getState box ain capabilities) := by
  refine Eff.Keeps.mapError (keepsReading_bind (reading_keepsReading box ain _ _ rfl) fun isOn => ?_)
  refine keepsReading_bind (reading_keepsReading box ain _ _ rfl) fun temperatureCelsius => ?_
  refine keepsReading_bind (reading_keepsReading box ain _ _ rfl) fun targetTemperature => ?_
  refine keepsReading_bind (reading_keepsReading box ain _ _ rfl) fun powerWatts => ?_
  refine keepsReading_bind (reading_keepsReading box ain _ _ rfl) fun energyWh => ?_
  refine keepsReading_bind (reading_keepsReading box ain _ _ rfl) fun brightnessLevel => ?_
  exact Eff.Keeps.pure onlyReads_refl _

theorem knownCapabilities_keepsReading (ain : PyValue) :
    KeepsReading (knownCapabilities ain : Py (FritzProvider σ) (Option (List DeviceCapability))) := by
  unfold knownCapabilities
  split
  · exact Eff.Keeps.gets onlyReads_refl _
  · exact Eff.Keeps.raise onlyReads_refl _
  · exact Eff.Keeps.raise onlyReads_refl _
  · exact Eff.Keeps.pure onlyReads_refl _

theorem getDeviceState_keepsReading (box : FritzBox σ) (ain : PyValue) : KeepsReading (getDeviceState box ain) := by
  refine keepsReading_bind (ensureConnected_keepsReading box) fun _ => ?_
  refine keepsReading_bind (knownCapabilities_keepsReading ain) fun known => ?_
  split
  · exact getState_keepsReading box _ _
  · refine keepsReading_bind (discoverDevices_keepsReading box) fun _ => ?_
    refine keepsReading_bind (knownCapabilities_keepsReading ain) fun known => ?_
    split
    · exact getState_keepsReading box _ _
    · exact Eff.Keeps.raise onlyReads_refl _

end FritzProvider
end SmartHome
