import SmartHome.Providers.Contract

/-! # What a state is read from

`get_state` of the FRITZ!Box adapter asks for each reading of a device by a command of its own. The theorem
compares the state it returns with the replies. -/

namespace SmartHome
open Fritz

namespace Fritz.AhaCommand

/-- The command is a reading of a capability of the device. -/
def Reads (capabilities : List DeviceCapability) : AhaCommand → Prop
  | getswitchstate => .switch ∈ capabilities
  | gettemperature | gethkrtsoll => .thermostat ∈ capabilities
  | getswitchpower | getswitchenergy => .powerMeter ∈ capabilities
  | getlevel => .dimmer ∈ capabilities
  | _ => False

end Fritz.AhaCommand

namespace FritzProvider
variable {σ α β : Type} {box : FritzBox σ} {ain : String} {capabilities : List DeviceCapability} {raw : AhaCommand → String}

/-- The box answers every command for the device; `raw` is the answer without the blanks around it. -/
def Replies (box : FritzBox σ) (ain : String) (raw : AhaCommand → String) : Prop :=
  ∀ (command : AhaCommand) w, ∃ content w',
    box.callHttp command.text (.str ain) [] w = (.ok content, w') ∧ stripText (content.getD "") = raw command

/-- The program has the given result, and hands only allowed commands to the library. -/
def Yields (allowed : AhaCommand → Prop) (m : Eff (FritzProvider σ) FritzError α) (result : Except FritzError α) : Prop :=
  ∀ s, (m s).1 = result ∧ ∃ calls, (m s).2.sent = s.sent ++ calls ∧ ∀ call ∈ calls, allowed call.command

section
variable {allowed : AhaCommand → Prop}

theorem yields_pure (a : α) : Yields allowed (pure a : Eff (FritzProvider σ) FritzError α) (.ok a) :=
  fun s => ⟨rfl, [], by simp, by simp⟩

theorem yields_bind {m : Eff (FritzProvider σ) FritzError α} {result : Except FritzError α}
    {f : α → Eff (FritzProvider σ) FritzError β} {next : α → Except FritzError β} (hm : Yields allowed m result)
    (hf : ∀ a, Yields allowed (f a) (next a)) : Yields allowed (m >>= f) (result >>= next) := by
  intro s
  obtain ⟨hresult, calls, hsent, hallowed⟩ := hm s
  rcases hrun : m s with ⟨e | a, t⟩ <;> rw [hrun] at hresult hsent <;> obtain rfl := hresult
  · rw [Eff.bind_of_error hrun]
    exact ⟨rfl, calls, hsent, hallowed⟩
  · rw [Eff.bind_of_ok hrun]
    obtain ⟨hnext, more, hsent', hallowed'⟩ := hf a t
    refine ⟨hnext, calls ++ more, by rw [hsent', hsent, List.append_assoc], fun call hcall => ?_⟩
    rcases List.mem_append.mp hcall with hcall | hcall
    · exact hallowed call hcall
    · exact hallowed' call hcall

theorem guarded_yields {m : Eff (FritzProvider σ) FritzError α} {result : Except FritzError α}
    (hm : Yields allowed m result) (s : FritzProvider σ) :
    (guarded ain m s).1 = result.mapError (fun exc => .app (mapFritzError ain exc)) ∧
      ∃ calls, (guarded ain m s).2.sent = s.sent ++ calls ∧ ∀ call ∈ calls, allowed call.command := by
  obtain ⟨hresult, hcalls⟩ := hm s
  exact ⟨by rw [← hresult]; rfl, hcalls⟩

/-- What a reading yields: nothing is sent and nothing read without the capability. -/
def field (supported : Bool) (parse : String → Except FritzError (Option α)) (reply : String) :
    Except FritzError (Option α) :=
  if supported then parse reply else .ok none

theorem reading_yields (h : Replies box ain raw) (supported : Bool) {command : AhaCommand}
    (parse : String → Except FritzError (Option α)) (hallowed : supported = true → allowed command) :
    Yields allowed (reading box ain supported command parse) (field supported parse (raw command)) := by
  intro s
  unfold reading field
  cases supported with
  | false => exact ⟨rfl, [], by simp, by simp⟩
  | true =>
    obtain ⟨content, w, hhttp, hraw⟩ := h command s.world
    have hcall := callHttp_run box command (.str ain) [] s
    simp only [List.map_nil, hhttp, Except.map, hraw] at hcall
    simp only [if_true]
    rw [Eff.bind_of_ok hcall]
    refine ⟨?_, [{ command, ain := .str ain }], ?_, ?_⟩
    · cases parse (raw command) <;> rfl
    · cases parse (raw command) <;> rfl
    · simp [hallowed]

end

/-- The state as it follows from the replies. -/
def readState (ain : String) (capabilities : List DeviceCapability) (raw : AhaCommand → String) :
    Except FritzError DeviceState := do
  let isOn ← field (.switch ∈ capabilities) (fun reply => .ok (some (decide (reply = "1")))) (raw .getswitchstate)
  let temperatureCelsius ← field (.thermostat ∈ capabilities)
    (unlessEmpty fun reply => (floatOf reply).map (PyFloat.div 10)) (raw .gettemperature)
  let targetTemperature ← field (.thermostat ∈ capabilities) (unlessEmpty targetOf) (raw .gethkrtsoll)
  let powerWatts ← field (.powerMeter ∈ capabilities)
    (unlessEmpty fun reply => (floatOf reply).map (PyFloat.div 1000)) (raw .getswitchpower)
  let energyWh ← field (.powerMeter ∈ capabilities) (unlessEmpty floatOf) (raw .getswitchenergy)
  let brightnessLevel ← field (.dimmer ∈ capabilities) (unlessEmpty intOf) (raw .getlevel)
  pure { ain, isOn, temperatureCelsius, targetTemperature, powerWatts, energyWh, brightnessLevel }

theorem getState_reads (h : Replies box ain raw) (capabilities : List DeviceCapability) (s : FritzProvider σ) :
    (getState box ain capabilities s).1 =
        (readState ain capabilities raw).mapError (fun exc => .app (mapFritzError ain exc)) ∧
      ∃ calls, (getState box ain capabilities s).2.sent = s.sent ++ calls ∧
        ∀ call ∈ calls, call.command.Reads capabilities := by
  refine guarded_yields ?_ s
  refine yields_bind (reading_yields h _ _ of_decide_eq_true) fun isOn => ?_
  refine yields_bind (reading_yields h _ _ of_decide_eq_true) fun temperatureCelsius => ?_
  refine yields_bind (reading_yields h _ _ of_decide_eq_true) fun targetTemperature => ?_
  refine yields_bind (reading_yields h _ _ of_decide_eq_true) fun powerWatts => ?_
  refine yields_bind (reading_yields h _ _ of_decide_eq_true) fun energyWh => ?_
  refine yields_bind (reading_yields h _ _ of_decide_eq_true) fun brightnessLevel => ?_
  exact yields_pure _

/-! ### The fields of a state -/

theorem readState_eq_ok_iff {state : DeviceState} :
    readState ain capabilities raw = .ok state ↔
      field (.switch ∈ capabilities) (fun reply => .ok (some (decide (reply = "1")))) (raw .getswitchstate) =
          .ok state.isOn ∧
        field (.thermostat ∈ capabilities) (unlessEmpty fun reply => (floatOf reply).map (PyFloat.div 10))
          (raw .gettemperature) = .ok state.temperatureCelsius ∧
        field (.thermostat ∈ capabilities) (unlessEmpty targetOf) (raw .gethkrtsoll) = .ok state.targetTemperature ∧
        field (.powerMeter ∈ capabilities) (unlessEmpty fun reply => (floatOf reply).map (PyFloat.div 1000))
          (raw .getswitchpower) = .ok state.powerWatts ∧
        field (.powerMeter ∈ capabilities) (unlessEmpty floatOf) (raw .getswitchenergy) = .ok state.energyWh ∧
        field (.dimmer ∈ capabilities) (unlessEmpty intOf) (raw .getlevel) = .ok state.brightnessLevel ∧
        state.ain = ain := by
  simp only [readState, except_bind_eq_ok]
  constructor
  · rintro ⟨isOn, hon, temperature, htemperature, target, htarget, power, hpower, energy, henergy, level, hlevel, h⟩
    obtain rfl := Except.ok.inj h
    exact ⟨hon, htemperature, htarget, hpower, henergy, hlevel, rfl⟩
  · rintro ⟨hon, htemperature, htarget, hpower, henergy, hlevel, hain⟩
    refine ⟨_, hon, _, htemperature, _, htarget, _, hpower, _, henergy, _, hlevel, ?_⟩
    rw [← hain]
    rfl

section
variable {supported : Bool} {parse : String → Except FritzError α} {reply : String} {v : Option α} {x : α}

theorem field_none {parse : String → Except FritzError (Option α)} (h : field supported parse reply = .ok v)
    (hsupported : supported = false) : v = none := by
  rw [hsupported] at h
  exact (Except.ok.inj h).symm

/-- A value is read from a reply that is not empty. -/
theorem field_some (h : field supported (unlessEmpty parse) reply = .ok (some x)) :
    supported = true ∧ reply ≠ "" ∧ parse reply = .ok x := by
  cases supported with
  | false => cases h
  | true =>
    rw [field, if_pos rfl, unlessEmpty] at h
    split at h
    · cases h
    · next hempty =>
      refine ⟨rfl, hempty, ?_⟩
      rcases hparse : parse reply with e | y <;> rw [hparse] at h <;> cases h
      rfl

theorem field_of_parse (h : field supported (unlessEmpty parse) reply = .ok v) (hsupported : supported = true)
    (hempty : reply ≠ "") (hparse : parse reply = .ok x) : v = some x := by
  rw [field, if_pos hsupported, unlessEmpty, if_neg hempty, hparse] at h
  exact (Except.ok.inj h).symm

theorem field_ok_iff :
    (∃ v, field supported (unlessEmpty parse) reply = .ok v) ↔
      (supported = true → reply = "" ∨ ∃ x, parse reply = .ok x) := by
  cases supported with
  | false => exact ⟨fun _ h => (by cases h), fun _ => ⟨none, rfl⟩⟩
  | true =>
    refine ⟨fun ⟨v, hv⟩ _ => ?_, fun h => unlessEmpty_eq_ok (h rfl)⟩
    by_cases hempty : reply = ""
    · exact Or.inl hempty
    · rw [field, if_pos rfl, unlessEmpty, if_neg hempty] at hv
      rcases hparse : parse reply with e | y
      · rw [hparse] at hv
        cases hv
      · exact Or.inr ⟨y, rfl⟩

theorem map_eq_ok_iff {f : α → β} {e : Except FritzError α} : (∃ y, e.map f = .ok y) ↔ ∃ x, e = .ok x := by
  cases e with
  | error e => exact ⟨fun ⟨_, h⟩ => (by cases h), fun ⟨_, h⟩ => (by cases h)⟩
  | ok a => exact ⟨fun _ => ⟨a, rfl⟩, fun _ => ⟨f a, rfl⟩⟩

end

/-- The whole call raises exactly when the reply to a command that is sent is not understood. -/
theorem readState_ok_iff :
    (∃ state, readState ain capabilities raw = .ok state) ↔
      ∀ command, AhaCommand.Reads capabilities command → command.Understands (raw command) := by
  constructor
  · rintro ⟨state, hstate⟩ command hreads
    obtain ⟨-, htemperature, htarget, hpower, henergy, hlevel, -⟩ := readState_eq_ok_iff.mp hstate
    cases command with
    | gettemperature =>
      exact (field_ok_iff.mp ⟨_, htemperature⟩ (decide_eq_true hreads)).imp_right map_eq_ok_iff.mp
    | gethkrtsoll => exact field_ok_iff.mp ⟨_, htarget⟩ (decide_eq_true hreads)
    | getswitchpower => exact (field_ok_iff.mp ⟨_, hpower⟩ (decide_eq_true hreads)).imp_right map_eq_ok_iff.mp
    | getswitchenergy => exact field_ok_iff.mp ⟨_, henergy⟩ (decide_eq_true hreads)
    | getlevel => exact field_ok_iff.mp ⟨_, hlevel⟩ (decide_eq_true hreads)
    | _ => trivial
  · intro h
    have hon : ∃ v, field (.switch ∈ capabilities) (fun reply => .ok (some (decide (reply = "1")))) (raw .getswitchstate) =
        .ok v := by
      unfold field
      split
      · exact ⟨_, rfl⟩
      · exact ⟨_, rfl⟩
    obtain ⟨isOn, hon⟩ := hon
    have hscaled : ∀ (k : ℕ) (supported : Bool) (reply : String),
        (supported = true → reply = "" ∨ ∃ x, floatOf reply = .ok x) →
        ∃ v, field supported (unlessEmpty fun reply => (floatOf reply).map (PyFloat.div k)) reply = .ok v :=
      fun k supported reply hfloat => field_ok_iff.mpr fun hsupported => (hfloat hsupported).imp_right map_eq_ok_iff.mpr
    obtain ⟨temperature, htemperature⟩ := hscaled 10 (.thermostat ∈ capabilities) (raw .gettemperature)
      fun hsupported => h .gettemperature (of_decide_eq_true (p := .thermostat ∈ capabilities) hsupported)
    obtain ⟨target, htarget⟩ : ∃ v, field (.thermostat ∈ capabilities) (unlessEmpty targetOf) (raw .gethkrtsoll) = .ok v :=
      field_ok_iff.mpr fun hsupported => h .gethkrtsoll (of_decide_eq_true (p := .thermostat ∈ capabilities) hsupported)
    obtain ⟨power, hpower⟩ := hscaled 1000 (.powerMeter ∈ capabilities) (raw .getswitchpower)
      fun hsupported => h .getswitchpower (of_decide_eq_true (p := .powerMeter ∈ capabilities) hsupported)
    obtain ⟨energy, henergy⟩ : ∃ v, field (.powerMeter ∈ capabilities) (unlessEmpty floatOf) (raw .getswitchenergy) =
        .ok v :=
      field_ok_iff.mpr fun hsupported => h .getswitchenergy (of_decide_eq_true (p := .powerMeter ∈ capabilities) hsupported)
    obtain ⟨level, hlevel⟩ : ∃ v, field (.dimmer ∈ capabilities) (unlessEmpty intOf) (raw .getlevel) = .ok v :=
      field_ok_iff.mpr fun hsupported => h .getlevel (of_decide_eq_true (p := .dimmer ∈ capabilities) hsupported)
    exact ⟨{ ain, isOn, temperatureCelsius := temperature, targetTemperature := target, powerWatts := power
             energyWh := energy, brightnessLevel := level },
      readState_eq_ok_iff.mpr ⟨hon, htemperature, htarget, hpower, henergy, hlevel, rfl⟩⟩

/-! ### Numbers in replies -/

/-- The exact number that a reply is the text of. -/
def numberOf (reply : String) : Option ℚ := Numeral.decimal reply

/-- The integer that the reply stands for. -/
def integerOf (reply : String) : Option Int := Numeral.parseInt reply.toList

/-- The double nearest to the `k`-th part of the double nearest to `q`. -/
def part (k : ℕ) (q : ℚ) : ℚ := Binary64.nearest (Binary64.nearest q / k)

/-- Of a whole number, it is the double nearest to the exact part. -/
theorem part_intCast (k : ℕ) {z : ℤ} (h : |z| < 2 ^ 53) : part k z = Binary64.nearest (z / k) := by
  rw [part, Binary64.nearest_intCast h]

/-- The temperature that a parameter of `sethkrtsoll` stands for. -/
def setPointOf (z : Int) : ℚ := if z = 253 then 0 else if z = 254 then 32 else part 2 z

theorem ofRat_eq_finite_iff {p q : ℚ} :
    PyFloat.ofRat p = .finite q ↔ |p| < PyFloat.overflowBound ∧ q = Binary64.nearest p := by
  rw [abs_lt, PyFloat.ofRat]
  split
  · next habove => exact ⟨fun h => (by cases h), fun h => absurd h.1.2 (not_lt.mpr habove)⟩
  split
  · next hbelow => exact ⟨fun h => (by cases h), fun h => absurd h.1.1 (not_lt.mpr hbelow)⟩
  · next habove hbelow =>
    refine ⟨fun h => ⟨⟨not_le.mp hbelow, not_le.mp habove⟩, (PyFloat.finite.inj h).symm⟩, fun h => ?_⟩
    rw [h.2]

/-- A float that is read from a text is the double nearest to its number. -/
theorem floatOf_eq_finite {reply : String} {p : ℚ} (h : floatOf reply = .ok (.finite p)) :
    ∃ q, numberOf reply = some q ∧ |q| < PyFloat.overflowBound ∧ p = Binary64.nearest q := by
  have hparse : Numeral.parseFloat reply = some (.finite p) := by
    unfold floatOf at h
    split at h <;> cases h
    assumption
  unfold Numeral.parseFloat at hparse
  dsimp only at hparse
  split at hparse
  · cases hparse
  split at hparse
  · cases hparse
  obtain ⟨q, hq, hround⟩ := Option.map_eq_some_iff.mp hparse
  exact ⟨q, hq, ofRat_eq_finite_iff.mp hround⟩

/-- Dividing a double by two or more does not overflow. -/
theorem div_nearest {q : ℚ} (hq : |q| < PyFloat.overflowBound) {k : ℕ} (hk : 2 ≤ k) :
    (PyFloat.finite (Binary64.nearest q)).div k = .finite (part k q) := by
  have hlarge := PyFloat.overflowBound_large
  have hpos : (0 : ℚ) < k := by exact_mod_cast (by omega : 0 < k)
  have hk' : (2 : ℚ) ≤ k := by exact_mod_cast hk
  refine ofRat_eq_finite_iff.mpr ⟨?_, rfl⟩
  rw [abs_div, abs_of_pos hpos, div_lt_iff₀ hpos]
  have hmul : PyFloat.overflowBound * 2 ≤ PyFloat.overflowBound * k :=
    mul_le_mul_of_nonneg_left hk' (by linarith)
  linarith [Binary64.abs_nearest_le q]

theorem div_eq_finite {x : PyFloat} {k : ℕ} {q : ℚ} (h : x.div k = .finite q) : ∃ p, x = .finite p := by
  cases x with
  | finite p => exact ⟨p, rfl⟩
  | inf negative => cases h
  | nan => cases h

theorem intOf_eq_ok_iff {reply : String} {z : Int} : intOf reply = .ok z ↔ integerOf reply = some z := by
  unfold intOf integerOf
  rcases Numeral.parseInt reply.toList with _ | y <;> simp

theorem targetOf_eq_ok {reply : String} {x : PyFloat} (h : targetOf reply = .ok x) :
    ∃ z, integerOf reply = some z ∧ x = .finite (setPointOf z) := by
  obtain ⟨z, hz, h⟩ := except_bind_eq_ok.mp h
  refine ⟨z, intOf_eq_ok_iff.mp hz, ?_⟩
  unfold setPointOf
  split at h
  · next hoff => rw [if_pos hoff, Except.ok.inj h]
  next hoff =>
  rw [if_neg hoff]
  split at h
  · next hboost => rw [if_pos hboost, Except.ok.inj h]
  next hboost =>
  rw [if_neg hboost]
  split at h
  · cases h
  next hsmall =>
  rw [← Except.ok.inj h]
  have hz : |(z : ℚ)| < PyFloat.overflowBound := not_le.mp hsmall
  rw [ofRat_eq_finite_iff.mpr ⟨hz, rfl⟩, div_nearest hz le_rfl]

/-! ### Honest states -/

/-- A valid value of the reading. -/
def Means : AhaCommand → String → Prop
  | .getswitchstate, reply => reply = "0" ∨ reply = "1"
  | .gettemperature, reply | .getswitchpower, reply | .getswitchenergy, reply => ∃ q, numberOf reply = some q
  | .gethkrtsoll, reply | .getlevel, reply => ∃ z, integerOf reply = some z
  | _, _ => False

/-- Every field of the state is read from a reply that says it. -/
structure ReadsReplies (capabilities : List DeviceCapability) (raw : AhaCommand → String) (state : DeviceState) : Prop where
  on : state.isOn = some true → raw .getswitchstate = "1"
  off : state.isOn = some false → raw .getswitchstate = "0"
  temperature : ∀ x, state.temperatureCelsius = some x → ∃ q, numberOf (raw .gettemperature) = some q ∧ x = .finite (part 10 q)
  target : ∀ x, state.targetTemperature = some x → ∃ z, integerOf (raw .gethkrtsoll) = some z ∧ x = .finite (setPointOf z)
  power : ∀ x, state.powerWatts = some x → ∃ q, numberOf (raw .getswitchpower) = some q ∧ x = .finite (part 1000 q)
  energy : ∀ x, state.energyWh = some x →
    ∃ q, numberOf (raw .getswitchenergy) = some q ∧ x = .finite (Binary64.nearest q)
  level : ∀ z, state.brightnessLevel = some z → integerOf (raw .getlevel) = some z
  noSwitch : .switch ∉ capabilities → state.isOn = none
  noThermostat : .thermostat ∉ capabilities → state.temperatureCelsius = none ∧ state.targetTemperature = none
  noMeter : .powerMeter ∉ capabilities → state.powerWatts = none ∧ state.energyWh = none
  noDimmer : .dimmer ∉ capabilities → state.brightnessLevel = none

/-- Only readings of the device's capabilities are sent, a returned state is read from the replies, and the call raises
    when a reply is neither valid nor empty. -/
structure HonestState (box : FritzBox σ) (ain : String) (capabilities : List DeviceCapability) (raw : AhaCommand → String)
    (s : FritzProvider σ) : Prop where
  sent : ∃ calls, (getState box ain capabilities s).2.sent = s.sent ++ calls ∧
    ∀ call ∈ calls, call.command.Reads capabilities
  fields : ∀ state, (getState box ain capabilities s).1 = .ok state → ReadsReplies capabilities raw state
  refused : ∀ command, AhaCommand.Reads capabilities command → raw command ≠ "" → ¬ Means command (raw command) →
    ∃ e, (getState box ain capabilities s).1 = .error e

/-- The replies that are read as floats. -/
def IsFloat (command : AhaCommand) : Prop :=
  command = .gettemperature ∨ command = .getswitchpower ∨ command = .getswitchenergy

/-- The switch answers 0 or 1, and no float is infinite or not a number. -/
def PlainReplies (capabilities : List DeviceCapability) (raw : AhaCommand → String) : Prop :=
  (.switch ∈ capabilities → raw .getswitchstate = "0" ∨ raw .getswitchstate = "1") ∧
    ∀ command, AhaCommand.Reads capabilities command → IsFloat command → raw command ≠ "" →
      ∀ x, floatOf (raw command) = .ok x → ∃ q, x = .finite q

theorem means_of_plain (hplain : PlainReplies capabilities raw) {command : AhaCommand}
    (hreads : AhaCommand.Reads capabilities command) (hempty : raw command ≠ "")
    (hunderstands : command.Understands (raw command)) : Means command (raw command) := by
  have hfloat : IsFloat command → (raw command = "" ∨ ∃ x, floatOf (raw command) = .ok x) →
      ∃ q, numberOf (raw command) = some q := by
    intro hkind hparse
    obtain ⟨x, hx⟩ := hparse.resolve_left hempty
    obtain ⟨q, rfl⟩ := hplain.2 command hreads hkind hempty x hx
    obtain ⟨p, hp, -⟩ := floatOf_eq_finite hx
    exact ⟨p, hp⟩
  cases command with
  | getswitchstate => exact hplain.1 hreads
  | gettemperature => exact hfloat (Or.inl rfl) hunderstands
  | getswitchpower => exact hfloat (Or.inr (Or.inl rfl)) hunderstands
  | getswitchenergy => exact hfloat (Or.inr (Or.inr rfl)) hunderstands
  | gethkrtsoll =>
    obtain ⟨x, hx⟩ := hunderstands.resolve_left hempty
    obtain ⟨z, hz, -⟩ := targetOf_eq_ok hx
    exact ⟨z, hz⟩
  | getlevel =>
    obtain ⟨z, hz⟩ := hunderstands.resolve_left hempty
    exact ⟨z, intOf_eq_ok_iff.mp hz⟩
  | _ => exact hreads.elim

/-- A scaled float that is read from plain replies. -/
theorem scaled_of_plain (hplain : PlainReplies capabilities raw) (command : AhaCommand)
    (hreads : AhaCommand.Reads capabilities command) (hkind : IsFloat command) {supported : Bool} {k : ℕ} (hk : 2 ≤ k)
    {x : PyFloat}
    (h : field supported (unlessEmpty fun reply => (floatOf reply).map (PyFloat.div k)) (raw command) = .ok (some x)) :
    ∃ q, numberOf (raw command) = some q ∧ x = .finite (part k q) := by
  obtain ⟨-, hempty, hparse⟩ := field_some h
  rcases hfloat : floatOf (raw command) with e | y <;> rw [hfloat] at hparse <;> cases hparse
  obtain ⟨p, rfl⟩ := hplain.2 command hreads hkind hempty y hfloat
  obtain ⟨q, hq, hsmall, rfl⟩ := floatOf_eq_finite hfloat
  exact ⟨q, hq, div_nearest hsmall hk⟩

theorem readsReplies_of_plain {state : DeviceState} (hstate : readState ain capabilities raw = .ok state)
    (hplain : PlainReplies capabilities raw) : ReadsReplies capabilities raw state := by
  obtain ⟨hon, htemperature, htarget, hpower, henergy, hlevel, -⟩ := readState_eq_ok_iff.mp hstate
  have hswitch : ∀ b, state.isOn = some b → .switch ∈ capabilities ∧ decide (raw .getswitchstate = "1") = b := by
    intro b hb
    rw [hb] at hon
    by_cases hmem : .switch ∈ capabilities
    · rw [field, if_pos (decide_eq_true hmem)] at hon
      exact ⟨hmem, Option.some.inj (Except.ok.inj hon)⟩
    · rw [field, if_neg (by simpa using hmem)] at hon
      cases hon
  have hsupported : ∀ {α : Type} {parse : String → Except FritzError α} {reply : String} {x : α} {c : DeviceCapability},
      field (c ∈ capabilities) (unlessEmpty parse) reply = .ok (some x) → c ∈ capabilities :=
    fun h => of_decide_eq_true (field_some h).1
  constructor
  · intro hb
    exact of_decide_eq_true (hswitch true hb).2
  · intro hb
    obtain ⟨hmem, hne⟩ := hswitch false hb
    exact (hplain.1 hmem).resolve_right (of_decide_eq_false hne)
  · intro x hx
    rw [hx] at htemperature
    exact scaled_of_plain hplain .gettemperature (hsupported htemperature) (Or.inl rfl) (by norm_num) htemperature
  · intro x hx
    rw [hx] at htarget
    exact targetOf_eq_ok (field_some htarget).2.2
  · intro x hx
    rw [hx] at hpower
    exact scaled_of_plain hplain .getswitchpower (hsupported hpower) (Or.inr (Or.inl rfl)) (by norm_num) hpower
  · intro x hx
    rw [hx] at henergy
    obtain ⟨-, hempty, hfloat⟩ := field_some henergy
    obtain ⟨p, rfl⟩ := hplain.2 .getswitchenergy (hsupported henergy) (Or.inr (Or.inr rfl)) hempty x hfloat
    obtain ⟨q, hq, -, hp⟩ := floatOf_eq_finite hfloat
    exact ⟨q, hq, by rw [hp]⟩
  · intro z hz
    rw [hz] at hlevel
    exact intOf_eq_ok_iff.mp (field_some hlevel).2.2
  · exact fun hmem => field_none hon (decide_eq_false hmem)
  · exact fun hmem => ⟨field_none htemperature (decide_eq_false hmem), field_none htarget (decide_eq_false hmem)⟩
  · exact fun hmem => ⟨field_none hpower (decide_eq_false hmem), field_none henergy (decide_eq_false hmem)⟩
  · exact fun hmem => field_none hlevel (decide_eq_false hmem)

theorem plain_of_readsReplies {state : DeviceState} (hstate : readState ain capabilities raw = .ok state)
    (h : ReadsReplies capabilities raw state) : PlainReplies capabilities raw := by
  obtain ⟨hon, htemperature, -, hpower, henergy, -, -⟩ := readState_eq_ok_iff.mp hstate
  refine ⟨fun hmem => ?_, fun command hreads hkind hempty x hx => ?_⟩
  · rw [field, if_pos (decide_eq_true hmem)] at hon
    have hvalue := (Except.ok.inj hon).symm
    by_cases hone : raw .getswitchstate = "1"
    · exact Or.inr hone
    · exact Or.inl (h.off (by rw [hvalue, decide_eq_false hone]))
  · rcases hkind with rfl | rfl | rfl
    · obtain ⟨q, -, hq⟩ := h.temperature _
        (field_of_parse htemperature (decide_eq_true hreads) hempty (x := x.div 10) (by rw [hx]; rfl))
      exact div_eq_finite hq
    · obtain ⟨q, -, hq⟩ := h.power _
        (field_of_parse hpower (decide_eq_true hreads) hempty (x := x.div 1000) (by rw [hx]; rfl))
      exact div_eq_finite hq
    · obtain ⟨q, -, hq⟩ := h.energy _ (field_of_parse henergy (decide_eq_true hreads) hempty hx)
      exact ⟨_, hq⟩

/-- The state is honest exactly when the whole call raises over a reply, or the switch answers 0 or 1 and no float is
    infinite or not a number. -/
theorem state_honest_iff (box : FritzBox σ) (ain : String) (capabilities : List DeviceCapability)
    (raw : AhaCommand → String) (h : Replies box ain raw) (s : FritzProvider σ) :
    HonestState box ain capabilities raw s ↔
      (∃ command, AhaCommand.Reads capabilities command ∧ ¬ command.Understands (raw command)) ∨
        PlainReplies capabilities raw := by
  obtain ⟨hresult, hsent⟩ := getState_reads h capabilities s
  by_cases hunderstood : ∀ command, AhaCommand.Reads capabilities command → command.Understands (raw command)
  · obtain ⟨state, hstate⟩ := readState_ok_iff.mpr hunderstood
    have hreturned : (getState box ain capabilities s).1 = .ok state := by
      rw [hresult, hstate]
      rfl
    constructor
    · intro honest
      exact Or.inr (plain_of_readsReplies hstate (honest.fields state hreturned))
    · rintro (⟨command, hreads, hnot⟩ | hplain)
      · exact absurd (hunderstood command hreads) hnot
      refine ⟨hsent, fun other hother => ?_, fun command hreads hempty hmeans => ?_⟩
      · obtain rfl := Except.ok.inj (hreturned.symm.trans hother)
        exact readsReplies_of_plain hstate hplain
      · exact absurd (means_of_plain hplain hreads hempty (hunderstood command hreads)) hmeans
  · have hraises : ∃ e, (getState box ain capabilities s).1 = .error e := by
      rcases hstate : readState ain capabilities raw with exc | state
      · exact ⟨_, by rw [hresult, hstate]; rfl⟩
      · exact absurd (readState_ok_iff.mp ⟨state, hstate⟩) hunderstood
    obtain ⟨e, he⟩ := hraises
    constructor
    · intro _
      push Not at hunderstood
      exact Or.inl hunderstood
    · intro _
      refine ⟨hsent, fun state hstate => ?_, fun _ _ _ _ => ⟨e, he⟩⟩
      rw [he] at hstate
      cases hstate

/-! ### An unreachable plug -/

/-- A box that answers `inval` to every command. -/
def invalBox : FritzBox Unit where
  connect := pure ()
  getHomeautomationDevices := pure []
  callHttp _ _ _ := pure (some "inval\n")

theorem invalBox_replies : Replies invalBox "08761 0374811" fun _ => "inval" :=
  fun _ w => ⟨some "inval\n", w, rfl, (by decide : stripText "inval\n" = "inval")⟩

/-- The plug that the box cannot reach is read as switched off. -/
theorem unreachable_plug_is_off :
    (∃ state, (getState invalBox "08761 0374811" [.switch] { world := () }).1 = .ok state ∧ state.isOn = some false) ∧
      ¬ HonestState invalBox "08761 0374811" [.switch] (fun _ => "inval") { world := () } := by
  obtain ⟨hresult, -⟩ := getState_reads invalBox_replies [.switch] { world := () }
  refine ⟨⟨{ ain := "08761 0374811", isOn := some false }, by rw [hresult]; rfl, rfl⟩, fun honest => ?_⟩
  have hoff := (honest.fields { ain := "08761 0374811", isOn := some false } (by rw [hresult]; rfl)).off rfl
  exact absurd hoff (by decide)

theorem unreachable_plug_honest_iff :
    HonestState invalBox "08761 0374811" [.switch] (fun _ => "inval") { world := () } ↔
      (∃ command, AhaCommand.Reads [.switch] command ∧ ¬ command.Understands "inval") ∨
        PlainReplies [.switch] fun _ => "inval" :=
  state_honest_iff invalBox "08761 0374811" [.switch] (fun _ => "inval") invalBox_replies { world := () }

end FritzProvider
end SmartHome
