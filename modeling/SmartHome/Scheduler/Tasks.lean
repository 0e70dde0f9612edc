import SmartHome.Lib.DateTime
import SmartHome.Providers.Base

/-! # The background tasks

`_execute_action`, `_compare`, `_evaluate_rule` and the pass over the rules (`app/scheduler/tasks.py`). What
the tasks use of the rest of the application, and of the world outside it, is given by `Env`. -/

namespace SmartHome

/-- The schema of the weather. -/
structure WeatherRead where
  locationKey : String
  temperatureCelsius : Option PyFloat
  feelsLikeCelsius : Option PyFloat
  humidityPercent : Option Int
  condition : Option String
  description : Option String
  windSpeedMs : Option PyFloat
  iconCode : Option String

namespace WeatherRead

/-- `getattr(cached, name, None)` of the fields; what every class has besides (`__doc__`) is left out. -/
def getattr (w : WeatherRead) (name : String) : PyValue :=
  if name = "location_key" then .str w.locationKey
  else if name = "temperature_celsius" then DeviceState.optional .float w.temperatureCelsius
  else if name = "feels_like_celsius" then DeviceState.optional .float w.feelsLikeCelsius
  else if name = "humidity_percent" then DeviceState.optional .int w.humidityPercent
  else if name = "condition" then DeviceState.optional .str w.condition
  else if name = "description" then DeviceState.optional .str w.description
  else if name = "wind_speed_ms" then DeviceState.optional .float w.windSpeedMs
  else if name = "icon_code" then DeviceState.optional .str w.iconCode
  else if name = "fetched_at" ∨ name = "expires_at" then .object
  else .none

end WeatherRead

/-- What the tasks use of a row of `automation_rules`. -/
structure AutomationRule where
  id : Uuid
  name : String
  triggerType : String
  triggerConfig : PyDict
  conditionConfig : Option PyDict
  actionType : String
  actionConfig : PyDict
  isEnabled : Bool

/-- What the tasks call: the active provider, `WeatherService.get_current` in a session of its own, the
    clock, and the database. -/
structure Env (σ R : Type) where
  provider : Provider σ R
  getCurrent : Py σ (Option WeatherRead)
  utcnow : σ → DateTime
  enabledRules : Py σ (List AutomationRule)
  commitTriggered : List (Uuid × DateTime) → Py σ Unit
  /-- Sets `last_triggered` of a schedule, in a session of its own. -/
  stampSchedule : Uuid → Py σ Unit

section
variable {σ R : Type}

/-! ## Actions -/

/-- `_execute_action`. -/
def executeAction (actionConfig : PyDict) (provider : Provider σ R) : Py σ Unit :=
  let ain := actionConfig.get "ain"
  let action := actionConfig.get "action"
  let value := actionConfig.get "value"
  if !ain.truthy || !action.truthy then pure ()
  else if action.eq (.str "on") then provider.setSwitch ain true
  else if action.eq (.str "off") then provider.setSwitch ain false
  else if action.eq (.str "temperature") && !value.isNone then do
    let celsius ← Py.ofExcept value.toFloat
    provider.setTemperature ain celsius
  else if action.eq (.str "brightness") && !value.isNone then do
    let level ← Py.ofExcept value.toInt
    provider.setDimmer ain level
  else pure ()

/-- The command that an action configuration stands for, if any, or the exception that its value raises. -/
def decodeAction (actionConfig : PyDict) : Except BuiltinError (Option Command) :=
  let action := actionConfig.get "action"
  let value := actionConfig.get "value"
  if !(actionConfig.get "ain").truthy || !action.truthy then .ok none
  else if action.eq (.str "on") then .ok (some (.setSwitch true))
  else if action.eq (.str "off") then .ok (some (.setSwitch false))
  else if action.eq (.str "temperature") && !value.isNone then value.toFloat.map fun c => some (.setTemperature c)
  else if action.eq (.str "brightness") && !value.isNone then value.toInt.map fun l => some (.setDimmer l)
  else .ok none

/-- An action sends the command that its configuration stands for, or nothing at all. -/
theorem executeAction_eq (actionConfig : PyDict) (provider : Provider σ R) :
    executeAction actionConfig provider =
      match decodeAction actionConfig with
      | .ok (some command) => provider.send (actionConfig.get "ain") command
      | .ok none => pure ()
      | .error e => Eff.raise (.builtin e) := by
  unfold executeAction decodeAction
  simp only
  split
  · rfl
  split
  · rfl
  split
  · rfl
  split
  · cases (actionConfig.get "value").toFloat <;> rfl
  split
  · cases (actionConfig.get "value").toInt <;> rfl
  · rfl

/-! ## Rules -/

/-- `_compare`. -/
def compare (value operator threshold : PyValue) : Except BuiltinError Bool :=
  if operator.eq (.str "lt") then value.lt threshold
  else if operator.eq (.str "lte") then (value.lt threshold).map (· || value.eq threshold)
  else if operator.eq (.str "gt") then threshold.lt value
  else if operator.eq (.str "gte") then (threshold.lt value).map (· || value.eq threshold)
  else if operator.eq (.str "eq") then .ok (value.eq threshold)
  else .ok false

/-- `map(int, text.split(":"))`, as two numbers. -/
def parseTime : PyValue → Except BuiltinError (Int × Int)
  | .str text =>
    match Numeral.split ':' text.toList with
    | [h, m] =>
      match Numeral.parseInt h, Numeral.parseInt m with
      | some h, some m => .ok (h, m)
      | _, _ => .error .valueError
    | _ => .error .valueError
  | _ => .error .attributeError

/-- `getattr(obj, name, None)`, where `name` comes from stored JSON. -/
def getattrNamed (getattr : String → PyValue) : PyValue → Except BuiltinError PyValue
  | .str name => .ok (getattr name)
  | _ => .error .typeError

/-- The branch `time` of `_evaluate_rule`. -/
def evaluateTime (env : Env σ R) (config : PyDict) : Py σ Bool := do
  let now ← Eff.gets env.utcnow
  let (startH, startM) ← Py.ofExcept (parseTime (config.getD "start_time" (.str "00:00")))
  let (endH, endM) ← Py.ofExcept (parseTime (config.getD "end_time" (.str "23:59")))
  pure (startH * 60 + startM ≤ now.minuteOfDay && now.minuteOfDay ≤ endH * 60 + endM)

/-- The branch `device_state` of `_evaluate_rule`. -/
def evaluateDeviceState [DeviceReading R] (env : Env σ R) (config : PyDict) : Py σ Bool :=
  let ain := config.get "ain"
  let propertyName := config.get "property"
  let operator := config.getD "operator" (.str "eq")
  let threshold := config.get "value"
  if !ain.truthy || !propertyName.truthy then pure false
  else do
    let state ← env.provider.getDeviceState ain
    let currentValue ← Py.ofExcept (getattrNamed (DeviceReading.state state).getattr propertyName)
    if currentValue.isNone || threshold.isNone then pure false
    else Py.ofExcept (compare currentValue operator threshold)

/-- The branch `weather` of `_evaluate_rule`. -/
def evaluateWeather (env : Env σ R) (config : PyDict) : Py σ Bool :=
  let propertyName := config.get "property"
  let operator := config.getD "operator" (.str "lt")
  let threshold := config.get "value"
  if !propertyName.truthy || threshold.isNone then pure false
  else do
    match ← env.getCurrent with
    | none => pure false
    | some cached =>
      let currentValue ← Py.ofExcept (getattrNamed cached.getattr propertyName)
      if currentValue.isNone then pure false
      else do
        let value ← Py.ofExcept currentValue.toFloat
        let bound ← Py.ofExcept threshold.toFloat
        Py.ofExcept (compare (.float value) operator (.float bound))

/-- `_evaluate_rule`. -/
def evaluateRule [DeviceReading R] (env : Env σ R) (rule : AutomationRule) : Py σ Bool :=
  if rule.triggerType = "time" then evaluateTime env rule.triggerConfig
  else if rule.triggerType = "device_state" then evaluateDeviceState env rule.triggerConfig
  else if rule.triggerType = "weather" then evaluateWeather env rule.triggerConfig
  else pure false

section
variable [DeviceReading R] (env : Env σ R) {rule : AutomationRule}

theorem evaluateRule_of_time (h : rule.triggerType = "time") :
    evaluateRule env rule = evaluateTime env rule.triggerConfig := if_pos h

theorem evaluateRule_of_deviceState (h : rule.triggerType = "device_state") :
    evaluateRule env rule = evaluateDeviceState env rule.triggerConfig := by
  rw [evaluateRule, if_neg (by rw [h]; decide), if_pos h]

theorem evaluateRule_of_weather (h : rule.triggerType = "weather") :
    evaluateRule env rule = evaluateWeather env rule.triggerConfig := by
  rw [evaluateRule, if_neg (by rw [h]; decide), if_neg (by rw [h]; decide), if_pos h]

end

/-- The body of the loop over the rules: the new `last_triggered`, if the rule fires. -/
def fireRule [DeviceReading R] (env : Env σ R) (rule : AutomationRule) : Py σ (Option (Uuid × DateTime)) := do
  let shouldFire ← evaluateRule env rule
  if shouldFire then
    executeAction rule.actionConfig env.provider
    let now ← Eff.gets env.utcnow
    pure (some (rule.id, now))
  else pure none

/-- The loop of `evaluate_all_rules`; an exception of one rule is logged and the loop goes on. -/
def evaluateRules [DeviceReading R] (env : Env σ R) : List AutomationRule → Py σ (List (Uuid × DateTime))
  | [] => pure []
  | rule :: rules => do
    let stamp ← (fireRule env rule).attempt fun _ => pure none
    let stamps ← evaluateRules env rules
    pure (stamp.toList ++ stamps)

/-- `evaluate_all_rules`, which logs what it catches. -/
def evaluateAllRules [DeviceReading R] (env : Env σ R) : Py σ Unit :=
  Eff.attempt (do
    let rules ← env.enabledRules
    let stamps ← evaluateRules env rules
    env.commitTriggered stamps) fun _ => pure ()

/-! ## What the tasks keep -/

/-- `Q` holds over whatever the tasks call. -/
structure Env.Keeps (Q : σ → σ → Prop) (env : Env σ R) : Prop where
  getDeviceState : ∀ ain, Eff.Keeps Q (env.provider.getDeviceState ain)
  send : ∀ ain command, Eff.Keeps Q (env.provider.send ain command)
  getCurrent : Eff.Keeps Q env.getCurrent
  enabledRules : Eff.Keeps Q env.enabledRules
  commitTriggered : ∀ stamps, Eff.Keeps Q (env.commitTriggered stamps)
  stampSchedule : ∀ id, Eff.Keeps Q (env.stampSchedule id)

namespace Env.Keeps
variable {Q : σ → σ → Prop} {env : Env σ R} (refl : ∀ s, Q s s) (trans : ∀ s t u, Q s t → Q t u → Q s u)

include refl in
theorem ofExcept {α : Type} (e : Except BuiltinError α) : Eff.Keeps Q (Py.ofExcept e : Py σ α) := by
  cases e with
  | ok a => exact Eff.Keeps.pure refl a
  | error e => exact Eff.Keeps.raise refl _

include trans in
theorem seq {α β : Type} {m : Py σ α} {f : α → Py σ β} (hm : Eff.Keeps Q m) (hf : ∀ a, Eff.Keeps Q (f a)) :
    Eff.Keeps Q (m >>= f) :=
  Eff.Keeps.bind (R := Q) (fun {s t u} => trans s t u) hm hf

include refl

theorem executeAction (h : env.Keeps Q) (config : PyDict) : Eff.Keeps Q (executeAction config env.provider) := by
  rw [executeAction_eq]
  split
  · exact h.send _ _
  · exact Eff.Keeps.pure refl ()
  · exact Eff.Keeps.raise refl _

include trans

/-- The evaluation of a rule only reads. -/
theorem evaluateRule_of_reads [DeviceReading R] (hstate : ∀ ain, Eff.Keeps Q (env.provider.getDeviceState ain))
    (hweather : Eff.Keeps Q env.getCurrent) (rule : AutomationRule) : Eff.Keeps Q (evaluateRule env rule) := by
  unfold SmartHome.evaluateRule
  split
  · refine seq trans (Eff.Keeps.gets refl _) fun now => seq trans (ofExcept refl _) fun start => ?_
    exact seq trans (ofExcept refl _) fun stop => Eff.Keeps.pure refl _
  split
  · unfold evaluateDeviceState
    simp only
    split
    · exact Eff.Keeps.pure refl _
    · refine seq trans (hstate _) fun state => seq trans (ofExcept refl _) fun value => ?_
      split
      · exact Eff.Keeps.pure refl _
      · exact ofExcept refl _
  split
  · unfold evaluateWeather
    simp only
    split
    · exact Eff.Keeps.pure refl _
    · refine seq trans hweather fun cached => ?_
      split
      · exact Eff.Keeps.pure refl _
      · refine seq trans (ofExcept refl _) fun current => ?_
        split
        · exact Eff.Keeps.pure refl _
        · exact seq trans (ofExcept refl _) fun value => seq trans (ofExcept refl _) fun bound => ofExcept refl _
  · exact Eff.Keeps.pure refl _

theorem evaluateRule [DeviceReading R] (h : env.Keeps Q) (rule : AutomationRule) :
    Eff.Keeps Q (evaluateRule env rule) :=
  evaluateRule_of_reads refl trans h.getDeviceState h.getCurrent rule

theorem fireRule [DeviceReading R] (h : env.Keeps Q) (rule : AutomationRule) : Eff.Keeps Q (fireRule env rule) := by
  unfold SmartHome.fireRule
  refine seq trans (evaluateRule refl trans h rule) fun shouldFire => ?_
  split
  · exact seq trans (executeAction refl h _) fun _ => seq trans (Eff.Keeps.gets refl _) fun _ => Eff.Keeps.pure refl _
  · exact Eff.Keeps.pure refl _

theorem evaluateRules [DeviceReading R] (h : env.Keeps Q) (rules : List AutomationRule) :
    Eff.Keeps Q (evaluateRules env rules) := by
  induction rules with
  | nil => exact Eff.Keeps.pure refl _
  | cons rule rules ih =>
    have hfire : Eff.Keeps Q ((SmartHome.fireRule env rule).attempt fun _ => pure none) :=
      Eff.Keeps.attempt (R := Q) (fun {s t u} => trans s t u) (fireRule refl trans h rule) fun _ => Eff.Keeps.pure refl _
    exact seq trans hfire fun stamp => seq trans ih fun stamps => Eff.Keeps.pure refl _

theorem evaluateAllRules [DeviceReading R] (h : env.Keeps Q) : Eff.Keeps Q (evaluateAllRules env) := by
  refine Eff.Keeps.attempt (R := Q) (fun {s t u} => trans s t u) ?_ fun _ => Eff.Keeps.pure refl ()
  exact seq trans h.enabledRules fun rules => seq trans (evaluateRules refl trans h rules) fun stamps =>
    h.commitTriggered stamps

end Env.Keeps

end
end SmartHome
