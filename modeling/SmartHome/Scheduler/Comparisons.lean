import SmartHome.Ui.Triggers

/-! # Comparison triggers

The `device_state` and `weather` branches of `_evaluate_rule` and `_compare` against the comparison that a
trigger in the documented format stands for. -/

namespace SmartHome

/-- `x operator v`, false for an operator that there is not. -/
def comparison (operator : String) (x v : PyFloat) : Bool :=
  if operator = "lt" then x.lt v
  else if operator = "lte" then x.lt v || x.eq v
  else if operator = "gt" then v.lt x
  else if operator = "gte" then v.lt x || x.eq v
  else if operator = "eq" then x.eq v
  else false

/-- The operators that order their operands. -/
def orderings : List String := ["lt", "lte", "gt", "gte"]

/-! ### `_compare` -/

theorem str_eq_str (s t : String) : (PyValue.str s).eq (.str t) = decide (s = t) := by
  show (s == t) = decide (s = t)
  rw [Bool.beq_eq_decide_eq]

theorem lt_of_number {v w : PyValue} {x y : PyFloat} (hv : v.number? = some x) (hw : w.number? = some y) :
    v.lt w = .ok (x.lt y) := by
  simp only [PyValue.lt, hv, hw]

theorem eq_of_number {v w : PyValue} {x y : PyFloat} (hv : v.number? = some x) (hw : w.number? = some y) :
    v.eq w = x.eq y := by
  simp only [PyValue.eq, hv, hw]

/-- A text or another object has no order with a number, and equals none. -/
theorem lt_of_no_number {v w : PyValue} {y : PyFloat} (hv : v.number? = none) (hw : w.number? = some y) :
    v.lt w = .error .typeError ∧ w.lt v = .error .typeError ∧ v.eq w = false := by
  cases w with
  | bool | int | float =>
    cases v with
    | bool | int | float => cases hv
    | none | str | list | dict | object => exact ⟨rfl, rfl, rfl⟩
  | none | str | list | dict | object => cases hw

theorem compare_numbers {v w : PyValue} {x y : PyFloat} (operator : String) (hv : v.number? = some x)
    (hw : w.number? = some y) : compare v (.str operator) w = .ok (comparison operator x y) := by
  simp only [compare, comparison, str_eq_str, decide_eq_true_eq, lt_of_number hv hw, lt_of_number hw hv,
    eq_of_number hv hw]
  split_ifs <;> rfl

theorem compare_of_no_number {v w : PyValue} {y : PyFloat} (operator : String) (hv : v.number? = none)
    (hw : w.number? = some y) :
    compare v (.str operator) w = if operator ∈ orderings then .error .typeError else .ok false := by
  obtain ⟨hlt, hgt, heq⟩ := lt_of_no_number hv hw
  simp only [compare, str_eq_str, decide_eq_true_eq, hlt, hgt, heq, orderings, List.mem_cons, List.not_mem_nil, or_false]
  by_cases h₁ : operator = "lt"
  · simp [h₁]
  by_cases h₂ : operator = "lte"
  · simp [h₂, Except.map]
  by_cases h₃ : operator = "gt"
  · simp [h₃]
  by_cases h₄ : operator = "gte"
  · simp [h₄, Except.map]
  · simp [h₁, h₂, h₃, h₄]

section
variable {σ R : Type} [DeviceReading R]

/-! ### Devices -/

theorem ne_empty_of_field {name : String} (h : name ∈ DeviceState.fields) : name ≠ "" :=
  fun hempty => absurd (hempty ▸ h) (by decide)

/-- `field operator v`, false when the field is None or holds no number. -/
def deviceVerdict (state : DeviceState) (property operator : String) (v : PyFloat) : Bool :=
  match (state.getattr property).number? with
  | some x => comparison operator x v
  | none => false

theorem evaluateDeviceState_of_missing (env : Env σ R) {config : PyDict}
    (h : (config.get "ain").truthy = false ∨ (config.get "property").truthy = false) :
    evaluateDeviceState env config = pure false := by
  rcases h with h | h <;> simp [evaluateDeviceState, h]

theorem evaluateDeviceState_run (env : Env σ R) {config : PyDict} {property operator : String} {v : PyFloat} {r : R}
    {s t : σ} (hain : (config.get "ain").truthy = true) (hproperty : config.get "property" = .str property)
    (hname : property ≠ "") (hoperator : config.getD "operator" (.str "eq") = .str operator)
    (hvalue : (config.get "value").number? = some v) (hread : env.provider.getDeviceState (config.get "ain") s = (.ok r, t)) :
    (evaluateDeviceState env config s).1 =
      if ((DeviceReading.state r).getattr property).number? = none ∧
          ((DeviceReading.state r).getattr property).isNone = false ∧ operator ∈ orderings then
        .error (.builtin .typeError)
      else .ok (deviceVerdict (DeviceReading.state r) property operator v) := by
  have hthreshold : (config.get "value").isNone = false := by
    cases hget : config.get "value" with
    | none => rw [hget] at hvalue; cases hvalue
    | _ => rfl
  have hproptrue : (PyValue.str property).truthy = true := by simpa [PyValue.truthy] using hname
  have hrun : evaluateDeviceState env config s =
      (if ((DeviceReading.state r).getattr property).isNone || (config.get "value").isNone then pure false
        else Py.ofExcept (compare ((DeviceReading.state r).getattr property) (.str operator) (config.get "value"))) t := by
    simp only [evaluateDeviceState, hain, hproperty, hproptrue, hoperator, Bool.not_true, Bool.or_self,
      Bool.false_eq_true, if_false]
    rw [Eff.bind_of_ok hread]
    rfl
  rw [hrun, hthreshold, Bool.or_false, deviceVerdict]
  generalize (DeviceReading.state r).getattr property = w
  cases hnumber : w.number? with
  | some x =>
    have hnone : w.isNone = false := by
      cases w with
      | none => cases hnumber
      | _ => rfl
    rw [hnone, if_neg Bool.false_ne_true, compare_numbers operator hnumber hvalue, if_neg (fun h => by cases h.1)]
    rfl
  | none =>
    rw [compare_of_no_number operator hnumber hvalue]
    by_cases hnone : w.isNone = true
    · simp [hnone]
    · by_cases hordering : operator ∈ orderings <;> simp [hnone, hordering, Py.ofExcept]

/-! ### The weather -/

/-- What the documented format compares of the weather. -/
inductive WeatherQuantity where
  | temperature
  | humidity
  deriving DecidableEq, Repr

namespace WeatherQuantity

/-- The name of the quantity in the documented format. -/
def property : WeatherQuantity → String
  | temperature => "temperature"
  | humidity => "humidity"

/-- The quantity in the weather. -/
def reading : WeatherQuantity → WeatherRead → Option PyFloat
  | temperature, w => w.temperatureCelsius
  | humidity, w => w.humidityPercent.map fun z => .finite z

/-- `WeatherRead` has no field of the name. -/
theorem getattr_property (quantity : WeatherQuantity) (w : WeatherRead) : w.getattr quantity.property = .none := by
  cases quantity <;> rfl

end WeatherQuantity

/-- `t operator v` or `h operator v`, false without data. -/
def weatherVerdict (cached : Option WeatherRead) (quantity : WeatherQuantity) (operator : String) (v : PyFloat) : Bool :=
  match cached.bind quantity.reading with
  | some x => comparison operator x v
  | none => false

omit [DeviceReading R] in
theorem evaluateWeather_run (env : Env σ R) {config : PyDict} (quantity : WeatherQuantity) {cached : Option WeatherRead}
    {s t : σ} (hproperty : config.get "property" = .str quantity.property)
    (hread : env.getCurrent s = (.ok cached, t)) : (evaluateWeather env config s).1 = .ok false := by
  have htrue : (PyValue.str quantity.property).truthy = true := by cases quantity <;> rfl
  simp only [evaluateWeather, hproperty, htrue, Bool.not_true, Bool.false_or]
  split
  · rfl
  · rw [Eff.bind_of_ok hread]
    cases cached with
    | none => rfl
    | some w =>
      simp only [getattrNamed, quantity.getattr_property w]
      rfl

/-! ### Both sources -/

/-- A trigger in the documented format, with a number to compare with. -/
structure ComparisonTrigger (config : PyDict) (default operator : String) (v : PyFloat) : Prop where
  operator : config.getD "operator" (.str default) = .str operator
  value : (config.get "value").number? = some v

/-- A weather trigger is honoured exactly when its comparison does not hold. A device trigger that names a field is
    honoured exactly when the field is a number or None, or the operator is no ordering; without an AIN or a property
    it is false. -/
theorem comparisons_honoured_iff (env : Env σ R) (rule : AutomationRule) (operator : String) (v : PyFloat) (s : σ) :
    (∀ quantity cached t, rule.triggerType = "weather" → ComparisonTrigger rule.triggerConfig "lt" operator v →
        rule.triggerConfig.get "property" = .str quantity.property → env.getCurrent s = (.ok cached, t) →
        ((evaluateRule env rule s).1 = .ok (weatherVerdict cached quantity operator v) ↔
          ∀ w x, cached = some w → quantity.reading w = some x → comparison operator x v = false)) ∧
      (∀ property r t, rule.triggerType = "device_state" → ComparisonTrigger rule.triggerConfig "eq" operator v →
        (rule.triggerConfig.get "ain").truthy = true → rule.triggerConfig.get "property" = .str property →
        property ∈ DeviceState.fields → env.provider.getDeviceState (rule.triggerConfig.get "ain") s = (.ok r, t) →
        ((evaluateRule env rule s).1 = .ok (deviceVerdict (DeviceReading.state r) property operator v) ↔
          ((DeviceReading.state r).getattr property).number? ≠ none ∨
            ((DeviceReading.state r).getattr property).isNone = true ∨ operator ∉ orderings)) ∧
      (rule.triggerType = "device_state" →
        (rule.triggerConfig.get "ain").truthy = false ∨ (rule.triggerConfig.get "property").truthy = false →
        evaluateRule env rule s = (.ok false, s)) := by
  refine ⟨fun quantity cached t htype htrigger hproperty hread => ?_,
    fun property r t htype htrigger hain hproperty hfield hread => ?_, fun htype hmissing => ?_⟩
  · rw [evaluateRule_of_weather env htype, evaluateWeather_run env quantity hproperty hread]
    unfold weatherVerdict
    constructor
    · rintro hfalse w x rfl hx
      rw [Option.bind_some, hx] at hfalse
      exact (Except.ok.inj hfalse).symm
    · intro hfails
      cases hx : cached.bind quantity.reading with
      | none => rfl
      | some x =>
        obtain ⟨w, hw, hreading⟩ := Option.bind_eq_some_iff.mp hx
        exact congrArg Except.ok (hfails w x hw hreading).symm
  · rw [evaluateRule_of_deviceState env htype,
      evaluateDeviceState_run env hain hproperty (ne_empty_of_field hfield) htrigger.operator htrigger.value hread]
    split
    · next herror =>
      refine ⟨fun h => (by cases h), fun h => ?_⟩
      rcases h with h | h | h
      · exact absurd herror.1 h
      · exact absurd (herror.2.1.symm.trans h) (by decide)
      · exact absurd herror.2.2 h
    · next hok =>
      refine ⟨fun _ => ?_, fun _ => rfl⟩
      by_contra hnot
      push Not at hnot
      exact hok ⟨hnot.1, by simpa using hnot.2.1, hnot.2.2⟩
  · rw [evaluateRule_of_deviceState env htype, evaluateDeviceState_of_missing env hmissing]
    rfl

end

/-! ### A cold day -/

/-- 3 degrees, at 80 percent humidity. -/
def frost : WeatherRead where
  locationKey := "home"
  temperatureCelsius := some (.finite 3)
  feelsLikeCelsius := none
  humidityPercent := some 80
  condition := some "Clear"
  description := none
  windSpeedMs := none
  iconCode := none

/-- At midnight the weather is frosty. -/
def frostyDay : Env MockProvider DeviceState := { Ui.midnight with getCurrent := pure (some frost) }

/-- A thermostat. -/
def thermostat : DeviceInfo where
  ain := "11630 0206488"
  name := "Heizung"
  deviceType := .thermostat
  capabilities := [.thermostat]
  isPresent := true

/-- It has 17 degrees. -/
def coolRoom : DeviceState where
  ain := "11630 0206488"
  temperatureCelsius := some (.finite 17)

/-- The only device is the thermostat. -/
def heatedHome : MockProvider := MockProvider.load [thermostat] fun ain => { coolRoom with ain }

/-- The documented weather trigger: below 5 degrees. -/
def frostRule : AutomationRule where
  id := 1
  name := "Frostschutz"
  triggerType := "weather"
  triggerConfig := [("property", .str "temperature"), ("operator", .str "lt"), ("value", .int 5)]
  conditionConfig := none
  actionType := "device_control"
  actionConfig := [("ain", .str "11630 0206488"), ("action", .str "on")]
  isEnabled := true

/-- The documented device trigger: below 18 degrees. -/
def coolRoomRule : AutomationRule :=
  { frostRule with
    triggerType := "device_state"
    triggerConfig := [("ain", .str "11630 0206488"), ("property", .str "temperature_celsius"), ("operator", .str "lt"),
      ("value", .int 18)] }

theorem frostRule_trigger : ComparisonTrigger frostRule.triggerConfig "lt" "lt" (.finite 5) := ⟨rfl, rfl⟩

theorem coolRoomRule_trigger : ComparisonTrigger coolRoomRule.triggerConfig "eq" "lt" (.finite 18) := ⟨rfl, rfl⟩

/-- At 3 degrees the rule for less than 5 degrees evaluates to false. -/
theorem frost_rule_never_holds :
    weatherVerdict (some frost) .temperature "lt" (.finite 5) = true ∧
      (evaluateRule frostyDay frostRule heatedHome).1 = .ok false := by
  refine ⟨by decide, ?_⟩
  rw [evaluateRule_of_weather frostyDay rfl]
  exact evaluateWeather_run frostyDay .temperature rfl rfl

theorem cold_day_comparisons :
    ((evaluateRule frostyDay frostRule heatedHome).1 = .ok (weatherVerdict (some frost) .temperature "lt" (.finite 5)) ↔
        ∀ w x, some frost = some w → WeatherQuantity.temperature.reading w = some x →
          comparison "lt" x (.finite 5) = false) ∧
      (evaluateRule frostyDay coolRoomRule heatedHome).1 =
        .ok (deviceVerdict coolRoom "temperature_celsius" "lt" (.finite 18)) ∧
      evaluateRule frostyDay { coolRoomRule with triggerConfig := [] } heatedHome = (.ok false, heatedHome) := by
  refine ⟨(comparisons_honoured_iff frostyDay frostRule "lt" (.finite 5) heatedHome).1 .temperature (some frost) heatedHome
    rfl frostRule_trigger rfl rfl, ?_, ?_⟩
  · refine ((comparisons_honoured_iff frostyDay coolRoomRule "lt" (.finite 18) heatedHome).2.1 "temperature_celsius"
      coolRoom heatedHome rfl coolRoomRule_trigger rfl rfl (by decide) rfl).mpr (Or.inl ?_)
    intro h
    cases h
  · exact (comparisons_honoured_iff frostyDay { coolRoomRule with triggerConfig := [] } "lt" (.finite 18)
      heatedHome).2.2 rfl (Or.inl rfl)

end SmartHome
