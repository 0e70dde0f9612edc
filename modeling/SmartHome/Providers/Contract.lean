import SmartHome.Lib.Run
import SmartHome.Providers.Fritz.Provider
import SmartHome.Providers.Mock

/-! # Two providers, one interface

The mock checks the device, its capability and the argument of every call; the provider of the FRITZ!Box
looks up a device only to read its state, in a table that it fills and never empties, and sends every
command on. The theorem says for which calls the two agree. -/

namespace SmartHome

open Fritz Run

/-- A call of a provider. -/
inductive ProviderCall where
  | discoverDevices
  | getDeviceState (ain : String)
  | send (ain : String) (command : Command)

/-- `DeviceNotFoundError` or `DeviceCommandError`. -/
def PyError.isRefusal : PyError → Bool
  | .app (.deviceNotFound _) | .app (.deviceCommand _) => true
  | _ => false

namespace Provider
variable {σ R : Type} (provider : Provider σ R)

/-- The method of the call. -/
def call : ProviderCall → Py σ Unit
  | .discoverDevices => do let _ ← provider.discoverDevices
  | .getDeviceState ain => do let _ ← provider.getDeviceState (.str ain)
  | .send ain command => provider.send (.str ain) command

/-- The call raises one of the errors of the contract. -/
def Refuses (s : σ) (c : ProviderCall) : Prop := ∃ e t, provider.call c s = (.error e, t) ∧ e.isRefusal = true

end Provider

namespace Command

/-- The capability that the command needs. -/
def capability : Command → DeviceCapability
  | setSwitch _ => .switch
  | setTemperature _ => .thermostat
  | setDimmer _ => .dimmer

/-- The set-point of the command is in its range. -/
def legal : Command → Bool
  | setSwitch _ => true
  | setTemperature celsius => MockProvider.legalTemperature celsius
  | setDimmer level => decide (0 ≤ level ∧ level ≤ 255)

/-- What the setters of the mock write. -/
def write : Command → DeviceState → DeviceState
  | setSwitch on, s => { s with isOn := some on }
  | setTemperature celsius, s => { s with targetTemperature := some celsius }
  | setDimmer level, s => { s with brightnessLevel := some level, isOn := some (decide (level > 0)) }

end Command

/-- The last device with the AIN. -/
def deviceWith (infos : List DeviceInfo) (ain : String) : Option DeviceInfo := infos.reverse.find? (·.ain = ain)

/-- The device is there, has the capability, and the argument is in its range. -/
def Accepts (infos : List DeviceInfo) (ain : String) (command : Command) : Prop :=
  ∃ info, deviceWith infos ain = some info ∧ command.capability ∈ info.capabilities ∧ command.legal = true

theorem deviceWith_cons (info : DeviceInfo) (infos : List DeviceInfo) (ain : String) :
    deviceWith (info :: infos) ain = (deviceWith infos ain).or (if info.ain = ain then some info else none) := by
  simp only [deviceWith, List.reverse_cons, List.find?_append, List.find?_cons, List.find?_nil]
  split <;> simp_all

/-! ## The mock -/

namespace MockProvider
variable {infos : List DeviceInfo} {states : String → DeviceState} {ain : String}

theorem find?_put (info : DeviceInfo) (devices : List DeviceInfo) (ain : String) :
    (put info devices).find? (·.ain == ain) = if info.ain = ain then some info else devices.find? (·.ain == ain) := by
  induction devices with
  | nil => by_cases hain : info.ain = ain <;> simp [put, hain]
  | cons other devices ih =>
    unfold put
    by_cases hother : other.ain = info.ain
    · rw [if_pos hother]
      by_cases hain : info.ain = ain
      · simp [hain]
      · have hne : other.ain ≠ ain := fun h => hain (hother.symm.trans h)
        simp [hain, hne]
    · rw [if_neg hother, List.find?_cons, ih]
      by_cases hain : info.ain = ain
      · have hne : (other.ain == ain) = false := by simpa using fun h => hother (h.trans hain.symm)
        rw [if_pos hain, if_pos hain, hne]
      · rw [if_neg hain, if_neg hain, List.find?_cons]

theorem load_device? (infos : List DeviceInfo) (states : String → DeviceState) (ain : String) :
    (load infos states).device? ain = deviceWith infos ain := by
  have hfold : ∀ devices : List DeviceInfo,
      (infos.foldl (fun devices info => put info devices) devices).find? (·.ain == ain) =
        (deviceWith infos ain).or (devices.find? (·.ain == ain)) := by
    induction infos with
    | nil => intro devices; rfl
    | cons info infos ih =>
      intro devices
      rw [List.foldl_cons, ih, find?_put, deviceWith_cons, Option.or_assoc]
      congr 1
      split <;> rfl
  rw [device?, load, hfold]
  simp

theorem requireDevice_eq (m : MockProvider) (ain : String) :
    requireDevice (.str ain) m = match m.device? ain with
      | some info => (.ok info, m)
      | none => (.error (.app (.deviceNotFound ain)), m) := by
  rw [requireDevice, Eff.gets_bind_run]
  cases m.device? ain <;> rfl

/-- Every setter finds the device, looks at its capability and then at the argument. -/
theorem send_eq (ain : String) (command : Command) :
    ∃ text, provider.send (.str ain) command = (do
      let info ← requireDevice (.str ain)
      requireCapability info command.capability
      if command.legal then Eff.modify (setState info.ain command.write)
      else Eff.raise (.app (.deviceCommand text))) := by
  cases command with
  | setSwitch on => exact ⟨"", rfl⟩
  | setTemperature celsius => exact ⟨_, rfl⟩
  | setDimmer level =>
    refine ⟨s!"Brightness level {level} out of range (0-255).", ?_⟩
    simp only [Command.legal, decide_eq_true_eq]
    rfl

theorem not_refuses_discoverDevices (m : MockProvider) : ¬ provider.Refuses m .discoverDevices := by
  rintro ⟨e, t, hcall, -⟩
  cases hcall

theorem refuses_getDeviceState_iff {m : MockProvider} :
    provider.Refuses m (.getDeviceState ain) ↔ m.device? ain = none := by
  simp only [Provider.Refuses, Provider.call, provider, getDeviceState, Eff.bind_run, requireDevice_eq]
  rcases m.device? ain with _ | info
  · exact ⟨fun _ => rfl, fun _ => ⟨_, _, rfl, rfl⟩⟩
  · constructor
    · rintro ⟨e, t, h, -⟩
      cases h
    · intro h
      cases h

theorem refuses_send_iff {command : Command} :
    provider.Refuses (load infos states) (.send ain command) ↔ ¬ Accepts infos ain command := by
  obtain ⟨text, hsend⟩ := send_eq ain command
  simp only [Provider.Refuses, Provider.call, hsend, Eff.bind_run, requireDevice_eq, load_device?, Accepts]
  rcases deviceWith infos ain with _ | info
  · exact ⟨fun _ => by simp, fun _ => ⟨_, _, rfl, rfl⟩⟩
  · simp only [requireCapability, Option.some.injEq, exists_eq_left']
    by_cases hcapability : command.capability ∈ info.capabilities
    · cases hlegal : command.legal <;> simp [hcapability, PyError.isRefusal]
    · simp [hcapability, PyError.isRefusal]

end MockProvider

/-! ## The FRITZ!Box -/

namespace Fritz

/-- A reply that the reading can be taken from. -/
def AhaCommand.Understands : AhaCommand → String → Prop
  | gettemperature, raw | getswitchpower, raw | getswitchenergy, raw => raw = "" ∨ ∃ x, FritzProvider.floatOf raw = .ok x
  | gethkrtsoll, raw => raw = "" ∨ ∃ x, FritzProvider.targetOf raw = .ok x
  | getlevel, raw => raw = "" ∨ ∃ z, FritzProvider.intOf raw = .ok z
  | _, _ => True

/-- The box shows its device table, answers every reading, and carries out every command that fits its device. -/
structure FritzBox.Answers {σ : Type} (box : FritzBox σ) (table : σ → List RawDevice) : Prop where
  connect : ∀ w, ∃ w', box.connect w = (.ok (), w') ∧ table w' = table w
  devices : ∀ w, ∃ w', box.getHomeautomationDevices w = (.ok (table w), w')
  read : ∀ (command : AhaCommand) ain w, command.isSet = false → ∃ content w',
    box.callHttp command.text (.str ain) [] w = (.ok content, w') ∧ command.Understands (stripText (content.getD ""))
  carryOut : ∀ ain command call w, Accepts (deviceInfos (table w)) ain command →
    FritzProvider.ahaCall (.str ain) command = .ok call → ∃ content w',
      box.callHttp call.command.text call.ain (call.kwargs.map fun (key, value) => (key, toString value)) w =
        (.ok content, w')

end Fritz

namespace FritzProvider
variable {σ : Type} {box : FritzBox σ} {table : σ → List RawDevice} {s : FritzProvider σ} {ain : String}

theorem register_deviceCapabilities (infos : List DeviceInfo) (s : FritzProvider σ) (ain : String) :
    (register infos s).deviceCapabilities ain =
      ((deviceWith infos ain).map (·.capabilities)).or (s.deviceCapabilities ain) := by
  have hfold : ∀ known : String → Option (List DeviceCapability),
      (infos.foldl (fun known info => Function.update known info.ain (some info.capabilities)) known : String → _) ain =
        ((deviceWith infos ain).map (·.capabilities)).or (known ain) := by
    induction infos with
    | nil => intro known; rfl
    | cons info infos ih =>
      intro known
      rw [List.foldl_cons, ih, deviceWith_cons]
      by_cases hain : info.ain = ain
      · subst hain
        rcases deviceWith infos info.ain with _ | other <;> simp
      · rw [if_neg hain, Option.or_none, Function.update_of_ne (Ne.symm hain)]
  exact hfold s.deviceCapabilities

theorem unlessEmpty_eq_ok {α : Type} {parse : String → Except FritzError α} {raw : String}
    (h : raw = "" ∨ ∃ a, parse raw = .ok a) : ∃ r, unlessEmpty parse raw = .ok r := by
  unfold unlessEmpty
  split
  · exact ⟨none, rfl⟩
  · next hempty =>
    obtain ⟨a, ha⟩ := h.resolve_left hempty
    exact ⟨some a, by rw [ha]; rfl⟩

theorem reading_succeeds {α : Type} (h : box.Answers table) (ain : String) (supported : Bool) {command : AhaCommand}
    {parse : String → Except FritzError (Option α)} (hread : command.isSet = false)
    (hparse : ∀ raw, command.Understands raw → ∃ r, parse raw = .ok r) :
    Eff.Succeeds (reading box ain supported command parse) := by
  intro s
  unfold reading
  split
  · obtain ⟨content, w, hhttp, hunderstands⟩ := h.read command ain s.world hread
    obtain ⟨r, hr⟩ := hparse _ hunderstands
    have hcall := callHttp_run box command (.str ain) [] s
    simp only [List.map_nil, hhttp] at hcall
    exact ⟨r, _, by rw [Eff.bind_of_ok hcall, hr]; rfl⟩
  · exact ⟨none, s, rfl⟩

theorem getState_succeeds (h : box.Answers table) (ain : String) (capabilities : List DeviceCapability) :
    Eff.Succeeds (getState box ain capabilities) := by
  have hscaled : ∀ (k : ℕ) (raw : String), (raw = "" ∨ ∃ x, floatOf raw = .ok x) →
      ∃ r, unlessEmpty (fun raw => (floatOf raw).map (PyFloat.div k)) raw = .ok r := by
    rintro k raw (hempty | ⟨x, hx⟩)
    · exact unlessEmpty_eq_ok (Or.inl hempty)
    · exact unlessEmpty_eq_ok (Or.inr ⟨x.div k, by rw [hx]; rfl⟩)
  refine Eff.Succeeds.mapError (Eff.Succeeds.bind ?_ fun isOn => ?_)
  · exact reading_succeeds h ain _ rfl fun raw _ => ⟨_, rfl⟩
  refine Eff.Succeeds.bind (reading_succeeds h ain _ rfl (hscaled _)) fun temperatureCelsius => ?_
  refine Eff.Succeeds.bind (reading_succeeds h ain _ rfl fun _ => unlessEmpty_eq_ok) fun targetTemperature => ?_
  refine Eff.Succeeds.bind (reading_succeeds h ain _ rfl (hscaled _)) fun powerWatts => ?_
  refine Eff.Succeeds.bind (reading_succeeds h ain _ rfl fun _ => unlessEmpty_eq_ok) fun energyWh => ?_
  refine Eff.Succeeds.bind (reading_succeeds h ain _ rfl fun _ => unlessEmpty_eq_ok) fun brightnessLevel => ?_
  exact Eff.Succeeds.pure _

theorem ensureConnected_of_answers (h : box.Answers table) (s : FritzProvider σ) :
    ∃ world, ensureConnected box s = (.ok (), { s with world, connected := true }) ∧ table world = table s.world := by
  obtain ⟨w, hconnect, htable⟩ := h.connect s.world
  have hreaches : Reaches box s := Or.inr (by rw [hconnect])
  obtain ⟨world, hrun, hworld⟩ := ensureConnected_of_reaches hreaches
  refine ⟨world, hrun, ?_⟩
  rcases hworld with hworld | hworld
  · rw [hworld]
  · rw [hworld, hconnect, htable]

theorem discoverDevices_of_answers (h : box.Answers table) (s : FritzProvider σ) :
    ∃ world, discoverDevices box s =
      (.ok (deviceInfos (table s.world)), register (deviceInfos (table s.world)) { s with world, connected := true }) := by
  obtain ⟨world, hconnect, htable⟩ := ensureConnected_of_answers h s
  obtain ⟨w, hdevices⟩ := h.devices world
  refine ⟨w, ?_⟩
  have hraw : outside box.getHomeautomationDevices { s with world, connected := true } =
      (.ok (table world), { s with world := w, connected := true }) := by
    simp only [outside, Eff.zoom, hdevices]
  unfold discoverDevices
  rw [Eff.bind_of_ok hconnect, ← htable]
  exact Eff.mapError_of_ok (by rw [Eff.bind_of_ok hraw]; rfl)

theorem not_refuses_discoverDevices (h : box.Answers table) (s : FritzProvider σ) :
    ¬ (provider box).Refuses s .discoverDevices := by
  rintro ⟨e, t, hcall, -⟩
  obtain ⟨world, hdiscover⟩ := discoverDevices_of_answers h s
  rw [Provider.call, show (provider box).discoverDevices = discoverDevices box from rfl, Eff.bind_of_ok hdiscover]
    at hcall
  cases hcall

theorem getDeviceState_of_known (h : box.Answers table) {capabilities : List DeviceCapability}
    (hknown : s.deviceCapabilities ain = some capabilities) : ∃ state t, getDeviceState box (.str ain) s = (.ok state, t) := by
  obtain ⟨world, hconnect, -⟩ := ensureConnected_of_answers h s
  have hlookup : knownCapabilities (.str ain) { s with world, connected := true } =
      (.ok (some capabilities), { s with world, connected := true }) := by
    rw [knownCapabilities, Eff.gets_run, hknown]
  obtain ⟨state, t, hstate⟩ := getState_succeeds h ain capabilities { s with world, connected := true }
  exact ⟨state, t, by rw [getDeviceState, Eff.bind_of_ok hconnect, Eff.bind_of_ok hlookup]; exact hstate⟩

/-- An unknown device is looked for in one discovery. -/
theorem getDeviceState_of_unknown (h : box.Answers table) (hunknown : s.deviceCapabilities ain = none) :
    (∃ state t, getDeviceState box (.str ain) s = (.ok state, t)) ∧
        deviceWith (deviceInfos (table s.world)) ain ≠ none ∨
      (∃ t, getDeviceState box (.str ain) s = (.error (.app (.deviceNotFound ain)), t)) ∧
        deviceWith (deviceInfos (table s.world)) ain = none := by
  obtain ⟨world, hconnect, htable⟩ := ensureConnected_of_answers h s
  have hlookup : knownCapabilities (.str ain) { s with world, connected := true } =
      (.ok none, { s with world, connected := true }) := by
    rw [knownCapabilities, Eff.gets_run, hunknown]
  obtain ⟨world', hdiscover⟩ := discoverDevices_of_answers h { s with world, connected := true }
  have hagain : ∀ t, t = register (deviceInfos (table s.world)) { s with world := world', connected := true } →
      knownCapabilities (.str ain) t = (.ok ((deviceWith (deviceInfos (table s.world)) ain).map (·.capabilities)), t) := by
    rintro t rfl
    rw [knownCapabilities, Eff.gets_run, register_deviceCapabilities]
    simp only [hunknown, Option.or_none]
  rw [getDeviceState, Eff.bind_of_ok hconnect, Eff.bind_of_ok hlookup]
  simp only
  rw [Eff.bind_of_ok hdiscover]
  simp only [htable]
  rw [Eff.bind_of_ok (hagain _ rfl)]
  rcases hdevice : deviceWith (deviceInfos (table s.world)) ain with _ | info
  · exact Or.inr ⟨⟨_, rfl⟩, rfl⟩
  · exact Or.inl ⟨getState_succeeds h ain info.capabilities _, nofun⟩

/-- A state is refused for a device that neither an earlier discovery nor the current table has. -/
theorem refuses_getDeviceState_iff (h : box.Answers table) :
    (provider box).Refuses s (.getDeviceState ain) ↔
      s.deviceCapabilities ain = none ∧ deviceWith (deviceInfos (table s.world)) ain = none := by
  have hcall : ∀ r t, getDeviceState box (.str ain) s = (r, t) →
      (provider box).call (.getDeviceState ain) s = (r.map fun _ => (), t) := by
    intro r t hrun
    simp only [Provider.call, provider, Eff.bind_run, hrun]
    cases r <;> rfl
  have hreturns : (∃ state t, getDeviceState box (.str ain) s = (.ok state, t)) →
      ¬ (provider box).Refuses s (.getDeviceState ain) := by
    rintro ⟨state, t, hrun⟩ ⟨e, t', hfails, -⟩
    rw [hcall _ _ hrun] at hfails
    cases hfails
  rcases hknown : s.deviceCapabilities ain with _ | capabilities
  · rcases getDeviceState_of_unknown h hknown with ⟨hrun, hdevice⟩ | ⟨⟨t, hrun⟩, hdevice⟩
    · exact ⟨fun hrefuses => absurd hrefuses (hreturns hrun), fun hnone => absurd hnone.2 hdevice⟩
    · exact ⟨fun _ => ⟨rfl, hdevice⟩, fun _ => ⟨_, _, hcall _ _ hrun, rfl⟩⟩
  · exact ⟨fun hrefuses => absurd hrefuses (hreturns (getDeviceState_of_known h hknown)),
      fun hnone => absurd hnone.1 (Option.some_ne_none capabilities)⟩

theorem not_unsendable_of_legal {command : Command} (h : command.legal = true) : ¬ Unsendable command := by
  cases command with
  | setTemperature celsius =>
    rintro (rfl | hinf)
    · cases h
    · cases celsius with
      | finite q =>
        have hneg : q < 0 := neg_of_twice hinf
        have hrange : ((8 ≤ q ∧ q ≤ 28) ∨ q = 0) ∨ q = 32 := by
          simpa [Command.legal, MockProvider.legalTemperature] using h
        rcases hrange with (⟨hlow, -⟩ | rfl) | rfl <;> linarith
      | inf negative => cases h
      | nan => cases h
  | _ => exact id

/-- A command that fits its device is carried out. -/
theorem not_refuses_send (h : box.Answers table) {command : Command}
    (haccepts : Accepts (deviceInfos (table s.world)) ain command) :
    ¬ (provider box).Refuses s (.send ain command) := by
  obtain ⟨info, -, -, hlegal⟩ := id haccepts
  obtain ⟨call, hcall⟩ := ahaCall_of_sendable (.str ain) (not_unsendable_of_legal hlegal)
  obtain ⟨world, hconnect, htable⟩ := ensureConnected_of_answers h s
  obtain ⟨content, w, hanswer⟩ := h.carryOut ain command call world (by rwa [htable]) hcall
  have hhttp := callHttp_run box call.command call.ain call.kwargs { s with world, connected := true }
  simp only [hanswer] at hhttp
  rintro ⟨e, t, hrun, -⟩
  rw [Provider.call, send_eq, Eff.bind_of_ok hconnect, hcall, guarded, Eff.mapError_of_ok] at hrun
  · cases hrun
  · rw [Eff.bind_of_ok (Eff.ofExcept_ok_run call _), Eff.bind_of_ok hhttp]
    rfl

/-- A command with a value that cannot be converted is refused without being sent. -/
theorem refuses_unsendable (h : box.Answers table) {command : Command} (hunsendable : Unsendable command) :
    (provider box).Refuses s (.send ain command) ∧ OnlyReads s ((provider box).call (.send ain command) s).2 := by
  have hreaches : Reaches box s := by
    obtain ⟨w, hconnect, -⟩ := h.connect s.world
    exact Or.inr (by rw [hconnect])
  unfold Provider.Refuses
  rcases ahaCall_of_unsendable (.str ain) hunsendable with hcall | hcall
  all_goals
    obtain ⟨world, hrun⟩ := send_of_error hreaches hcall
    rw [Provider.call, hrun]
    exact ⟨⟨_, _, rfl, rfl⟩, onlyReads_of_sent rfl⟩

theorem not_onlyReads_send (h : box.Answers table) {command : Command} (hsendable : ¬ Unsendable command) :
    ¬ OnlyReads s ((provider box).call (.send ain command) s).2 := by
  obtain ⟨w, hconnect, -⟩ := h.connect s.world
  obtain ⟨call, hcall⟩ := ahaCall_of_sendable (.str ain) hsendable
  obtain ⟨result, world, hrun⟩ := send_of_ahaCall (s := s) (Or.inr (by rw [hconnect])) hcall
  rw [Provider.call, hrun]
  rintro ⟨calls, hsent, hreads⟩
  obtain rfl := List.append_cancel_left hsent
  have hset := ahaCall_isSet hcall
  rw [hreads call (List.mem_singleton_self call)] at hset
  cases hset

end FritzProvider

/-! ## The contract -/

section
variable {σ : Type} {box : FritzBox σ} {table : σ → List RawDevice}

/-- A mock with the current table, whatever its states, refuses the call exactly when the box's provider does,
    and then the box gets no command that changes a device. -/
def Agrees (box : FritzBox σ) (table : σ → List RawDevice) (s : FritzProvider σ) (c : ProviderCall) : Prop :=
  ∀ states, let mock := MockProvider.load (deviceInfos (table s.world)) states
    ((FritzProvider.provider box).Refuses s c ↔ MockProvider.provider.Refuses mock c) ∧
      (MockProvider.provider.Refuses mock c → FritzProvider.OnlyReads s ((FritzProvider.provider box).call c s).2)

/-- A device whose state is asked for is in the current table, if it was ever discovered; a command fits its
    device, or its temperature cannot be converted. -/
def FitsTable (infos : List DeviceInfo) (s : FritzProvider σ) : ProviderCall → Prop
  | .discoverDevices => True
  | .getDeviceState ain => s.deviceCapabilities ain ≠ none → deviceWith infos ain ≠ none
  | .send ain command => Accepts infos ain command ∨ FritzProvider.Unsendable command

theorem agrees_iff (h : box.Answers table) (s : FritzProvider σ) (c : ProviderCall) :
    Agrees box table s c ↔ FitsTable (deviceInfos (table s.world)) s c := by
  unfold Agrees FitsTable
  cases c with
  | discoverDevices =>
    simp only [iff_true]
    intro states
    have hmock := MockProvider.not_refuses_discoverDevices (.load (deviceInfos (table s.world)) states)
    exact ⟨iff_of_false (FritzProvider.not_refuses_discoverDevices h s) hmock, fun hrefuses => absurd hrefuses hmock⟩
  | getDeviceState ain =>
    simp only [FritzProvider.refuses_getDeviceState_iff h, MockProvider.refuses_getDeviceState_iff,
      MockProvider.load_device?]
    constructor
    · intro hagrees hknown hnone
      exact hknown ((hagrees fun ain => { ain }).1.mpr hnone).1
    · intro hfits states
      -- The box's provider refuses for a reason more than the mock: the device was never registered.
      refine ⟨⟨And.right, fun hnone => ⟨?_, hnone⟩⟩, fun _ => ?_⟩
      · by_contra hknown
        exact hfits hknown hnone
      · exact FritzProvider.keepsReading_bind (FritzProvider.getDeviceState_keepsReading box _)
          (fun _ => Eff.Keeps.pure FritzProvider.onlyReads_refl ()) s
  | send ain command =>
    simp only [MockProvider.refuses_send_iff]
    constructor
    · intro hagrees
      by_contra hfits
      obtain ⟨haccepts, hsendable⟩ := not_or.mp hfits
      -- The mock refuses, and the command is sent.
      exact FritzProvider.not_onlyReads_send h hsendable ((hagrees fun ain => { ain }).2 haccepts)
    · intro hfits states
      by_cases haccepts : Accepts (deviceInfos (table s.world)) ain command
      · exact ⟨iff_of_false (FritzProvider.not_refuses_send h haccepts) (not_not.mpr haccepts),
          fun hnot => absurd haccepts hnot⟩
      · obtain ⟨hrefuses, hreads⟩ := @FritzProvider.refuses_unsendable _ box table s ain h _
          (hfits.resolve_left haccepts)
        exact ⟨iff_of_true hrefuses haccepts, fun _ => hreads⟩

/-- Between the calls anything may happen to the router and its devices. -/
inductive ContractEvent (σ : Type) where
  | router (change : σ → σ)
  | call (c : ProviderCall)

namespace ContractEvent

/-- What an event does: the devices of the router change, or a call is served. -/
def step (box : FritzBox σ) (s : FritzProvider σ) : ContractEvent σ → Option (FritzProvider σ)
  | router change => some { s with world := change s.world }
  | call c => some ((FritzProvider.provider box).call c s).2

/-- At a call the two providers agree. -/
def Agrees (box : FritzBox σ) (table : σ → List RawDevice) (s : FritzProvider σ) : ContractEvent σ → Prop
  | router _ => True
  | call c => SmartHome.Agrees box table s c

/-- At a call the table of the mock provider fits that of the router. -/
def FitsTable (table : σ → List RawDevice) (s : FritzProvider σ) : ContractEvent σ → Prop
  | router _ => True
  | call c => SmartHome.FitsTable (deviceInfos (table s.world)) s c

end ContractEvent

/-- In a run over any history of device tables the providers agree on every call exactly if every call fits the
    table it meets. -/
theorem providers_agree_iff (box : FritzBox σ) (table : σ → List RawDevice) (h : box.Answers table)
    (s : FritzProvider σ) (es : List (ContractEvent σ)) :
    Meets (ContractEvent.step box) (ContractEvent.Agrees box table) s es ↔
      Meets (ContractEvent.step box) (ContractEvent.FitsTable table) s es := by
  refine meets_iff (I := fun _ => True) (fun _ _ _ => trivial) (fun {s e} _ => ?_) trivial
  cases e with
  | router change => exact Iff.rfl
  | call c => exact agrees_iff h s c

end

/-! ### Runs -/

/-- A box whose device table is the world. -/
def tableBox : FritzBox (List RawDevice) where
  connect := pure ()
  getHomeautomationDevices := Eff.gets id
  callHttp command _ _ := pure (if command = "setswitchon" ∨ command = "getswitchstate" then some "1" else none)

theorem tableBox_answers : tableBox.Answers id where
  connect w := ⟨w, rfl, rfl⟩
  devices w := ⟨w, rfl⟩
  read command ain w hread := by
    refine ⟨_, w, rfl, ?_⟩
    cases command with
    | setswitchon | setswitchoff | sethkrtsoll | setlevel => cases hread
    | getswitchstate => trivial
    | _ => exact Or.inl (by decide)
  carryOut _ _ _ w _ _ := ⟨_, w, rfl⟩

/-- A plug of the router. -/
def plug : RawDevice where
  ain := .text "08761 0374811"
  deviceName := .text "Küche Steckdose"
  isSwitchable := true

/-- A plug has no thermostat; the box's provider sends it a temperature all the same. -/
theorem plug_gets_temperature :
    tableBox.Answers id ∧ ¬ Meets (ContractEvent.step tableBox) (ContractEvent.Agrees tableBox id) { world := [plug] }
      [.call (.send "08761 0374811" (.setTemperature (.finite 21)))] := by
  refine ⟨tableBox_answers, fun h => ?_⟩
  rcases (agrees_iff tableBox_answers _ _).mp h.1 with ⟨info, hinfo, hcapability, -⟩ | hnan | hinf
  · cases hinfo
    revert hcapability
    decide
  · cases hnan
  · have hneg := FritzProvider.neg_of_twice hinf
    norm_num at hneg

theorem plug_keeps_contract :
    Meets (ContractEvent.step tableBox) (ContractEvent.Agrees tableBox id) { world := [] }
      [.router fun _ => [plug], .call .discoverDevices, .call (.getDeviceState "08761 0374811"),
        .call (.send "08761 0374811" (.setSwitch true))] := by
  refine (providers_agree_iff tableBox id tableBox_answers _ _).mpr ⟨trivial, ?_⟩
  rintro t ⟨⟩
  refine ⟨trivial, ?_⟩
  rintro t ⟨⟩
  refine ⟨fun _ => by decide, ?_⟩
  rintro t ⟨⟩
  refine ⟨Or.inl ⟨_, rfl, by decide, rfl⟩, ?_⟩
  rintro t ⟨⟩
  trivial

end SmartHome
