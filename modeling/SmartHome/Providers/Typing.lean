import SmartHome.Lib.Run
import SmartHome.Providers.Contract

/-! # States typed by capability

What a sequence of setter calls leaves of the states of a `MockProvider`: which fields a device's state may
have, and which devices a call changes. -/

namespace SmartHome

/-- Only devices with the capability have a switch, a set-point or a level, and a level is a byte. -/
structure TypedState (capabilities : List DeviceCapability) (s : DeviceState) : Prop where
  switch : s.isOn ≠ none → .switch ∈ capabilities
  thermostat : s.targetTemperature ≠ none → .thermostat ∈ capabilities
  dimmer : ∀ level, s.brightnessLevel = some level → .dimmer ∈ capabilities ∧ 0 ≤ level ∧ level ≤ 255

/-- A call of a setter. -/
structure SetterCall where
  ain : String
  command : Command

/-- A level that is set on a lamp without a switch. -/
def Misplaced (infos : List DeviceInfo) (call : SetterCall) : Prop :=
  ∃ info level, deviceWith infos call.ain = some info ∧ call.command = .setDimmer level ∧
    .dimmer ∈ info.capabilities ∧ .switch ∉ info.capabilities ∧ 0 ≤ level ∧ level ≤ 255

namespace MockProvider

/-- `_states` after the loop of `__init__`: the last entry with the AIN. -/
def fixtureStates (entries : List (DeviceInfo × DeviceState)) (ain : String) : DeviceState :=
  ((entries.reverse.find? (·.1.ain = ain)).map Prod.snd).getD { ain }

/-- The provider after reading the fixture. -/
def loadFixture (entries : List (DeviceInfo × DeviceState)) : MockProvider :=
  load (entries.map Prod.fst) (fixtureStates entries)

/-- The setter of the call. -/
def setter (m : MockProvider) (call : SetterCall) : Except PyError Unit × MockProvider :=
  provider.send (.str call.ain) call.command m

/-- The provider after the call. -/
def step (m : MockProvider) (call : SetterCall) : Option MockProvider := some (m.setter call).2

/-- The state of every known device is typed. -/
def Typed (m : MockProvider) : Prop :=
  ∀ ain info, m.device? ain = some info → TypedState info.capabilities (m.states ain)

/-- Every state that `get_device_state` returns is typed. -/
def ReturnsTyped (m : MockProvider) : Prop :=
  ∀ ain s t, getDeviceState (.str ain) m = (.ok s, t) →
    ∃ info, m.device? ain = some info ∧ TypedState info.capabilities s

/-- A call that succeeds changes the device it names and no other, and one that raises changes nothing. -/
def Framed (m : MockProvider) (call : SetterCall) : Prop :=
  (∀ e, (m.setter call).1 = .error e → (m.setter call).2 = m) ∧
    ((m.setter call).1 = .ok () →
      (m.setter call).2.devices = m.devices ∧ ∀ ain, ain ≠ call.ain → (m.setter call).2.states ain = m.states ain)

/-! ## One call -/

section Call
variable {m m' : MockProvider} {call : SetterCall} {ain : String} {info : DeviceInfo}

theorem device?_ain (h : m.device? ain = some info) : info.ain = ain := by
  have hfound := List.find?_some h
  simpa using hfound

/-- A setter writes, on a known device with the capability and with an argument in its range; or it raises. -/
theorem setter_cases (m : MockProvider) (call : SetterCall) :
    (∃ info, m.device? call.ain = some info ∧ call.command.capability ∈ info.capabilities ∧
      call.command.legal = true ∧ m.setter call = (.ok (), setState call.ain call.command.write m)) ∨
    (¬ ∃ info, m.device? call.ain = some info ∧ call.command.capability ∈ info.capabilities ∧
      call.command.legal = true) ∧ ∃ e, m.setter call = (.error e, m) := by
  obtain ⟨text, hsend⟩ := send_eq call.ain call.command
  unfold setter
  rw [hsend, Eff.bind_run, requireDevice_eq]
  cases hdevice : m.device? call.ain with
  | none =>
    refine .inr ⟨?_, _, rfl⟩
    rintro ⟨info, hinfo, -⟩
    cases hinfo
  | some info =>
    rw [← device?_ain hdevice]
    by_cases hcapability : call.command.capability ∈ info.capabilities
    · cases hlegal : call.command.legal with
      | true =>
        refine .inl ⟨info, rfl, hcapability, rfl, ?_⟩
        simp [requireCapability, hcapability]
      | false =>
        refine .inr ⟨?_, .app (.deviceCommand text), ?_⟩
        · rintro ⟨_, -, -, hlegal⟩
          cases hlegal
        · simp [requireCapability, hcapability]
    · have hrefused : ∃ e, requireCapability info call.command.capability m = (.error e, m) := by
        rw [requireCapability, if_neg hcapability]
        exact ⟨_, rfl⟩
      obtain ⟨e, he⟩ := hrefused
      refine .inr ⟨?_, e, Eff.bind_of_error he⟩
      rintro ⟨other, hother, hcapable, -⟩
      cases hother
      exact hcapability hcapable

theorem framed (m : MockProvider) (call : SetterCall) : m.Framed call := by
  rcases setter_cases m call with ⟨info, -, -, -, hrun⟩ | ⟨-, e, hrun⟩
  · unfold Framed
    rw [hrun]
    refine ⟨fun e he => (by cases he), fun _ => ⟨rfl, fun ain hain => ?_⟩⟩
    exact Function.update_of_ne hain _ _
  · unfold Framed
    rw [hrun]
    exact ⟨fun _ _ => rfl, fun hok => (by cases hok)⟩

theorem setter_devices (m : MockProvider) (call : SetterCall) : (m.setter call).2.devices = m.devices := by
  rcases setter_cases m call with ⟨info, -, -, -, hrun⟩ | ⟨-, e, hrun⟩
  · rw [hrun]
    rfl
  · rw [hrun]

/-- A write on a typed state leaves it typed, but for a level that brings a switch. -/
theorem typed_write {capabilities : List DeviceCapability} {s : DeviceState} {command : Command}
    (hs : TypedState capabilities s) (hcapability : command.capability ∈ capabilities) (hlegal : command.legal = true) :
    TypedState capabilities (command.write s) ↔ ∀ level, command = .setDimmer level → .switch ∈ capabilities := by
  cases command with
  | setSwitch on =>
    constructor
    · intro _ level hlevel
      cases hlevel
    · intro _
      exact ⟨fun _ => hcapability, hs.thermostat, hs.dimmer⟩
  | setTemperature celsius =>
    constructor
    · intro _ level hlevel
      cases hlevel
    · intro _
      exact ⟨hs.switch, fun _ => hcapability, hs.dimmer⟩
  | setDimmer level =>
    constructor
    · intro htyped _ _
      exact htyped.switch (Option.some_ne_none _)
    · intro hswitch
      refine ⟨fun _ => hswitch level rfl, hs.thermostat, fun other hother => ?_⟩
      obtain rfl := Option.some.inj hother
      exact ⟨hcapability, of_decide_eq_true hlegal⟩

theorem typed_setState {write : DeviceState → DeviceState} (h : m.Typed) (hdevice : m.device? ain = some info) :
    (setState ain write m).Typed ↔ TypedState info.capabilities (write (m.states ain)) := by
  have hsame : (setState ain write m).states ain = write (m.states ain) := Function.update_self ..
  constructor
  · intro htyped
    rw [← hsame]
    exact htyped ain info hdevice
  · intro hwrite other otherInfo hother
    by_cases hne : other = ain
    · obtain rfl := hne
      obtain rfl := Option.some.inj (hdevice.symm.trans hother)
      rw [hsame]
      exact hwrite
    · have hkept : (setState ain write m).states other = m.states other := Function.update_of_ne hne _ _
      rw [hkept]
      exact h other otherInfo hother

theorem typed_setter_iff {infos : List DeviceInfo} (hdevices : ∀ ain, m.device? ain = deviceWith infos ain)
    (h : m.Typed) : (m.setter call).2.Typed ↔ ¬ Misplaced infos call := by
  rcases setter_cases m call with ⟨info, hdevice, hcapability, hlegal, hrun⟩ | ⟨hrefused, e, hrun⟩
  · rw [hrun, typed_setState h hdevice, typed_write (h call.ain info hdevice) hcapability hlegal]
    rw [hdevices] at hdevice
    constructor
    · rintro hswitch ⟨other, level, hother, hcommand, -, hmissing, -⟩
      obtain rfl := Option.some.inj (hdevice.symm.trans hother)
      exact hmissing (hswitch level hcommand)
    · intro hplaced level hcommand
      rw [hcommand] at hcapability hlegal
      by_contra hmissing
      exact hplaced ⟨info, level, hdevice, hcommand, hcapability, hmissing, of_decide_eq_true hlegal⟩
  · rw [hrun]
    refine iff_of_true h ?_
    rintro ⟨info, level, hdevice, hcommand, hcapability, -, hrange⟩
    rw [← hdevices] at hdevice
    refine hrefused ⟨info, hdevice, ?_, ?_⟩ <;> rw [hcommand]
    · exact hcapability
    · exact decide_eq_true hrange

/-- What is returned is the state of the table, under the AIN of its device. -/
theorem returnsTyped_iff : m.ReturnsTyped ↔ m.Typed := by
  have hget : ∀ {ain info}, m.device? ain = some info →
      getDeviceState (.str ain) m = (.ok { m.states ain with ain }, m) := by
    intro ain info hdevice
    rw [getDeviceState, Eff.bind_run, requireDevice_eq, hdevice]
    show (Except.ok { m.states info.ain with ain := info.ain }, m) = _
    rw [device?_ain hdevice]
  constructor
  · intro h ain info hdevice
    obtain ⟨other, hother, htyped⟩ := h ain _ _ (hget hdevice)
    obtain rfl := Option.some.inj (hdevice.symm.trans hother)
    exact ⟨htyped.switch, htyped.thermostat, htyped.dimmer⟩
  · intro h ain s t hreturned
    cases hdevice : m.device? ain with
    | none =>
      rw [getDeviceState, Eff.bind_run, requireDevice_eq, hdevice] at hreturned
      cases hreturned
    | some info =>
      rw [hget hdevice] at hreturned
      cases hreturned
      have htyped := h ain info hdevice
      exact ⟨info, rfl, htyped.switch, htyped.thermostat, htyped.dimmer⟩

end Call

/-! ## Runs -/

section Runs
variable {entries : List (DeviceInfo × DeviceState)} {calls : List SetterCall}

theorem loadFixture_device? (entries : List (DeviceInfo × DeviceState)) (ain : String) :
    (loadFixture entries).device? ain = deviceWith (entries.map Prod.fst) ain := load_device? _ _ _

theorem typed_loadFixture (h : ∀ entry ∈ entries, TypedState entry.1.capabilities entry.2) :
    (loadFixture entries).Typed := by
  intro ain info hdevice
  rw [loadFixture_device?, deviceWith, ← List.map_reverse, List.find?_map] at hdevice
  obtain ⟨entry, hentry, rfl⟩ := Option.map_eq_some_iff.mp hdevice
  have hfound : entries.reverse.find? (fun entry => entry.1.ain = ain) = some entry := hentry
  have hstate : (loadFixture entries).states ain = entry.2 := by
    show fixtureStates entries ain = entry.2
    rw [fixtureStates, hfound]
    rfl
  rw [hstate]
  exact h entry (List.mem_reverse.mp (List.mem_of_find?_eq_some hentry))

theorem typed_along_iff (h : ∀ entry ∈ entries, TypedState entry.1.capabilities entry.2) :
    (∀ m, Run.Visits step (loadFixture entries) calls m → m.Typed) ↔
      ∀ call ∈ calls, ¬ Misplaced (entries.map Prod.fst) call := by
  have htotal : ∀ (m : MockProvider) (call : SetterCall), ∃ m', step m call = some m' := fun m call => ⟨_, rfl⟩
  -- The devices stay as they were loaded.
  have hstep : ∀ {m call m'}, m.devices = (loadFixture entries).devices ∧ m.Typed → step m call = some m' →
      (m'.devices = (loadFixture entries).devices ∧ m'.Typed ↔ ¬ Misplaced (entries.map Prod.fst) call) := by
    rintro m call m' ⟨hdevices, htyped⟩ hm'
    obtain rfl := Option.some.inj hm'
    have hknown : ∀ ain, m.device? ain = deviceWith (entries.map Prod.fst) ain := by
      intro ain
      rw [← loadFixture_device?, device?, device?, hdevices]
    rw [setter_devices, and_iff_right hdevices, typed_setter_iff hknown htyped]
  rw [← Run.meets_iff_forall htotal, ← Run.invariant_iff_meets htotal hstep ⟨rfl, typed_loadFixture h⟩]
  constructor
  · intro htyped m hvisit
    refine ⟨?_, htyped m hvisit⟩
    refine Run.invariant_of_steps (I := fun m => m.devices = (loadFixture entries).devices) ?_ rfl hvisit
    intro m call m' hdevices hm'
    obtain rfl := Option.some.inj hm'
    rw [setter_devices, hdevices]
  · exact fun htyped m hvisit => (htyped m hvisit).2

/-- The states stay typed, and the calls within their devices, exactly in the runs without a level for a lamp that
    has no switch. -/
theorem states_typed_iff (h : ∀ entry ∈ entries, TypedState entry.1.capabilities entry.2) :
    (∀ m, Run.Visits step (loadFixture entries) calls m → m.ReturnsTyped ∧ ∀ call, m.Framed call) ↔
      ∀ call ∈ calls, ¬ Misplaced (entries.map Prod.fst) call := by
  rw [← typed_along_iff h]
  constructor
  · exact fun hrun m hvisit => returnsTyped_iff.mp (hrun m hvisit).1
  · exact fun hrun m hvisit => ⟨returnsTyped_iff.mpr (hrun m hvisit), framed m⟩

/-- The bedside lamp of the bundled fixture. -/
def bedsideLamp : DeviceInfo × DeviceState :=
  ({ ain := "09995 0123456", name := "Schlafzimmer Lampe", deviceType := .light, capabilities := [.switch, .dimmer],
     isPresent := true, firmwareVersion := some "06.01" },
    { ain := "09995 0123456", isOn := some false, brightnessLevel := some 128 })

theorem states_typed_bedside :
    (∀ m, Run.Visits step (loadFixture [bedsideLamp]) [⟨"09995 0123456", .setDimmer 200⟩] m →
      m.ReturnsTyped ∧ ∀ call, m.Framed call) ↔
      ∀ call ∈ [(⟨"09995 0123456", .setDimmer 200⟩ : SetterCall)], ¬ Misplaced ([bedsideLamp].map Prod.fst) call :=
  states_typed_iff fun entry hentry => by
    obtain rfl := List.mem_singleton.mp hentry
    refine ⟨fun _ => by decide, fun h => absurd rfl h, fun level hlevel => ?_⟩
    obtain rfl := Option.some.inj hlevel
    decide

/-- A lamp that can be dimmed and not switched. -/
def dimmerOnly : DeviceInfo × DeviceState :=
  ({ ain := "09995 0123456", name := "Lampe", deviceType := .light, capabilities := [.dimmer], isPresent := true },
    { ain := "09995 0123456", brightnessLevel := some 128 })

/-- Dimming a lamp without a switch gives it a switch state. -/
theorem dimmed_lamp_switched :
    (∀ entry ∈ [dimmerOnly], TypedState entry.1.capabilities entry.2) ∧
      ¬ ∀ m, Run.Visits step (loadFixture [dimmerOnly]) [⟨"09995 0123456", .setDimmer 200⟩] m → m.ReturnsTyped := by
  constructor
  · intro entry hentry
    obtain rfl := List.mem_singleton.mp hentry
    refine ⟨fun h => absurd rfl h, fun h => absurd rfl h, fun level hlevel => ?_⟩
    obtain rfl := Option.some.inj hlevel
    decide
  · intro h
    obtain ⟨info, hinfo, htyped⟩ := h _ ⟨_, List.prefix_refl _, rfl⟩ "09995 0123456" _ _ rfl
    cases hinfo
    exact absurd (htyped.switch (Option.some_ne_none true)) (by decide)

end Runs

end MockProvider
end SmartHome
