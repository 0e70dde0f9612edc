import SmartHome.Providers.Mock
import SmartHome.Scheduler.Tasks
import SmartHome.Ui.Forms

/-! # The trigger encoder of the forms and the rule evaluator

The forms store `hour` and `minute`, `state`, or `condition`; `_evaluate_rule` reads `start_time` and
`end_time`, or `property`. A stored time trigger therefore holds at every instant, by the defaults of the
missing keys, and a stored device or weather trigger at none. -/

namespace SmartHome.Ui

variable {σ R : Type}

/-- A filled form that stores a trigger. -/
inductive TriggerForm where
  | rule (f : RuleForm)
  | builder (f : BuilderForm)

namespace TriggerForm

/-- The trigger type that was chosen. -/
def triggerType : TriggerForm → TriggerType
  | rule f => f.triggerType
  | builder f => f.triggerType

/-- The time that was chosen. -/
def triggerTime : TriggerForm → String
  | rule f => f.triggerTime
  | builder f => f.triggerTime

/-- The device that was chosen. -/
def triggerAin : TriggerForm → String
  | rule f => f.triggerDeviceId
  | builder f => f.triggerDeviceAin

/-- The state that was chosen. -/
def triggerState : TriggerForm → SwitchState
  | rule f => f.triggerState
  | builder f => f.triggerState

/-- The chosen weather condition; the rule form offers none. -/
def weatherCondition : TriggerForm → Option WeatherCondition
  | rule _ => none
  | builder f => some f.weatherCondition

/-- The body that the form sends, if it sends one. -/
def payload : TriggerForm → Option RulePayload
  | rule f => some (createRule f)
  | builder f => save f

end TriggerForm

/-- The row that the body becomes. -/
def RulePayload.row (id : Uuid) (p : RulePayload) : AutomationRule :=
  { p with id }

/-- The time of day as the forms write it. -/
def clockText (t : DateTime) : String :=
  let pad (n : Int) : String := if n < 10 then "0" ++ toString n else toString n
  pad t.hour ++ ":" ++ pad t.minute

/-- The displayed condition holds in the world `s`: the clock shows the chosen time, the chosen device is in
    the chosen state, or the cached weather is the chosen one. -/
def Displayed [DeviceReading R] (env : Env σ R) (form : TriggerForm) (s : σ) : Prop :=
  match form.triggerType with
  | .time => clockText (env.utcnow s) = form.triggerTime
  | .deviceState => ∃ r t, env.provider.getDeviceState (.str form.triggerAin) s = (.ok r, t) ∧
      (DeviceReading.state r).isOn = some (decide (form.triggerState = .on))
  | .weather => ∃ w t c, env.getCurrent s = (.ok (some w), t) ∧ form.weatherCondition = some c ∧
      w.condition = some c.value

/-- The evaluator answers, with the truth of the displayed condition. -/
def TriggerAgrees [DeviceReading R] (env : Env σ R) (form : TriggerForm) (rule : AutomationRule) (s : σ) : Prop :=
  ∃ b, (evaluateRule env rule s).1 = .ok b ∧ (b = true ↔ Displayed env form s)

/-- The passes of a run at which the evaluator lets the rule fire on a given day. -/
def firings [DeviceReading R] (env : Env σ R) (rule : AutomationRule) (day : Int) (passes : List σ) : List σ :=
  passes.filter fun s => (env.utcnow s).day == day && match (evaluateRule env rule s).1 with
    | .ok b => b
    | .error _ => false

/-! ### What the evaluator makes of a stored trigger -/

theorem hourMinute_lookup {text key : String} (hh : key ≠ "hour") (hm : key ≠ "minute") :
    (hourMinute text).lookup key = none := by
  unfold hourMinute
  split <;> simp [List.lookup_cons, beq_eq_false_iff_ne.mpr hh, beq_eq_false_iff_ne.mpr hm]

theorem minuteOfDay_bounds (t : DateTime) : 0 ≤ t.minuteOfDay ∧ t.minuteOfDay ≤ 1439 := by
  unfold DateTime.minuteOfDay DateTime.hour DateTime.minute
  omega

theorem parseTime_start : parseTime (.str "00:00") = .ok (0, 0) := by decide

theorem parseTime_end : parseTime (.str "23:59") = .ok (23, 59) := by decide

theorem evaluateTime_hourMinute (env : Env σ R) (text : String) (s : σ) :
    evaluateTime env (hourMinute text) s = (.ok true, s) := by
  obtain ⟨hlow, hhigh⟩ := minuteOfDay_bounds (env.utcnow s)
  have hstart : (hourMinute text).getD "start_time" (.str "00:00") = .str "00:00" := by
    rw [PyDict.getD, hourMinute_lookup (by decide) (by decide)]
    rfl
  have hend : (hourMinute text).getD "end_time" (.str "23:59") = .str "23:59" := by
    rw [PyDict.getD, hourMinute_lookup (by decide) (by decide)]
    rfl
  simp [evaluateTime, hstart, hend, parseTime_start, parseTime_end, Py.ofExcept, hlow, hhigh]

theorem evaluateDeviceState_of_no_property [DeviceReading R] (env : Env σ R) {config : PyDict}
    (h : config.get "property" = .none) : evaluateDeviceState env config = pure false := by
  simp [evaluateDeviceState, h]

theorem evaluateWeather_of_no_property (env : Env σ R) {config : PyDict} (h : config.get "property" = .none) :
    evaluateWeather env config = pure false := by
  simp [evaluateWeather, h]

theorem triggerConfig_property {form : TriggerForm} {p : RulePayload} (h : form.payload = some p) :
    p.triggerConfig.get "property" = .none := by
  cases form with
  | rule f =>
    cases h
    show (ruleTriggerConfig f).get "property" = .none
    unfold ruleTriggerConfig PyDict.get
    split
    · rw [hourMinute_lookup (by decide) (by decide)]
      rfl
    · rfl
    · rfl
  | builder f =>
    simp only [TriggerForm.payload, save] at h
    split at h
    · cases h
    cases h
    show (buildTriggerConfig f).get "property" = .none
    unfold buildTriggerConfig PyDict.get
    split
    · rw [hourMinute_lookup (by decide) (by decide)]
      rfl
    · rfl
    · rfl

theorem payload_triggerType {form : TriggerForm} {p : RulePayload} (h : form.payload = some p) :
    p.triggerType = form.triggerType.value := by
  cases form with
  | rule f =>
    cases h
    rfl
  | builder f =>
    simp only [TriggerForm.payload, save] at h
    split at h
    · cases h
    · cases h
      rfl

theorem triggerConfig_time {form : TriggerForm} {p : RulePayload} (h : form.payload = some p)
    (ht : form.triggerType = .time) : ∃ text, p.triggerConfig = hourMinute text := by
  cases form with
  | rule f =>
    cases h
    simp only [TriggerForm.triggerType] at ht
    exact ⟨_, by simp only [createRule, ruleTriggerConfig, ht]; rfl⟩
  | builder f =>
    simp only [TriggerForm.payload, save] at h
    split at h
    · cases h
    cases h
    simp only [TriggerForm.triggerType] at ht
    exact ⟨_, by simp only [buildTriggerConfig, ht]; rfl⟩

/-- The evaluator holds a stored time trigger for true and any other stored trigger for false, whatever the
    world, and changes nothing. -/
theorem evaluateRule_stored [DeviceReading R] (env : Env σ R) (form : TriggerForm) {p : RulePayload} {id : Uuid}
    (h : form.payload = some p) (s : σ) :
    evaluateRule env (p.row id) s = (.ok (decide (form.triggerType = .time)), s) := by
  have htype : (p.row id).triggerType = form.triggerType.value := payload_triggerType h
  have hprop : (p.row id).triggerConfig.get "property" = .none := triggerConfig_property h
  cases ht : form.triggerType with
  | time =>
    obtain ⟨text, hconfig⟩ := triggerConfig_time h ht
    have hrow : (p.row id).triggerConfig = hourMinute text := hconfig
    rw [ht] at htype
    rw [evaluateRule_of_time env htype, hrow, evaluateTime_hourMinute]
    rfl
  | deviceState =>
    rw [ht] at htype
    rw [evaluateRule_of_deviceState env htype, evaluateDeviceState_of_no_property env hprop]
    rfl
  | weather =>
    rw [ht] at htype
    rw [evaluateRule_of_weather env htype, evaluateWeather_of_no_property env hprop]
    rfl

theorem firings_time [DeviceReading R] (env : Env σ R) {form : TriggerForm} {p : RulePayload} {id : Uuid}
    (h : form.payload = some p) (ht : form.triggerType = .time) (day : Int) (passes : List σ) :
    firings env (p.row id) day passes = passes.filter fun s => (env.utcnow s).day == day := by
  unfold firings
  apply List.filter_congr
  intro s _
  simp [evaluateRule_stored env form h, ht]

/-- The evaluator agrees with the displayed condition of a time trigger exactly at the instants of the chosen
    minute, and with that of a device or weather trigger exactly in the worlds where it does not hold; and a time
    rule fires at most once on a day exactly when at most one pass falls on that day. -/
theorem stored_trigger_agrees_iff [DeviceReading R] (env : Env σ R) (form : TriggerForm) (p : RulePayload) (id : Uuid)
    (h : form.payload = some p) :
    (∀ s, TriggerAgrees env form (p.row id) s ↔
        (form.triggerType = .time ∧ Displayed env form s) ∨ (form.triggerType ≠ .time ∧ ¬ Displayed env form s)) ∧
      (form.triggerType = .time → ∀ passes day, (firings env (p.row id) day passes).length ≤ 1 ↔
        (passes.filter fun s => (env.utcnow s).day == day).length ≤ 1) := by
  refine ⟨fun s => ?_, fun ht passes day => by rw [firings_time env h ht]⟩
  unfold TriggerAgrees
  rw [evaluateRule_stored env form h]
  constructor
  · rintro ⟨b, hb, hiff⟩
    obtain rfl := Except.ok.inj hb
    rw [decide_eq_true_iff] at hiff
    by_cases ht : form.triggerType = .time
    · exact Or.inl ⟨ht, hiff.mp ht⟩
    · exact Or.inr ⟨ht, fun hd => ht (hiff.mpr hd)⟩
  · intro hcases
    refine ⟨_, rfl, ?_⟩
    rw [decide_eq_true_iff]
    rcases hcases with ⟨ht, hd⟩ | ⟨ht, hd⟩
    · exact ⟨fun _ => hd, fun _ => ht⟩
    · exact ⟨fun h => absurd h ht, fun h => absurd h hd⟩

/-! ### A run -/

/-- It is midnight, and there is no weather. -/
def midnight : Env MockProvider DeviceState where
  provider := MockProvider.provider
  getCurrent := pure none
  utcnow _ := 0
  enabledRules := pure []
  commitTriggered _ := pure ()
  stampSchedule _ := pure ()

/-- There is no device. -/
def emptyHome : MockProvider where
  devices := []
  states ain := { ain }

/-- The rule form for eight in the evening. -/
def eveningRule : RuleForm where
  name := "Abends an"
  triggerType := .time
  triggerTime := "20:00"
  triggerDeviceId := ""
  triggerState := .on
  deviceId := "08761 0374811"
  deviceAction := .turnOn

/-- The same as a trigger form. -/
def eveningForm : TriggerForm := .rule eveningRule

/-- The rule for 20:00 fires at midnight. -/
theorem evening_rule_fires_at_midnight :
    ∃ p, eveningForm.payload = some p ∧ (evaluateRule midnight (p.row 1) emptyHome).1 = .ok true ∧
      ¬ TriggerAgrees midnight eveningForm (p.row 1) emptyHome := by
  refine ⟨_, rfl, ?_, ?_⟩
  · rw [evaluateRule_stored midnight eveningForm rfl]
    rfl
  · rintro ⟨b, hb, hiff⟩
    rw [evaluateRule_stored midnight eveningForm rfl] at hb
    obtain rfl := Except.ok.inj hb
    have hd : clockText 0 = "20:00" := hiff.mp rfl
    exact absurd hd (by decide)

theorem evening_form_agrees_iff :
    (∀ s, TriggerAgrees midnight eveningForm ((createRule eveningRule).row 1) s ↔
        (eveningForm.triggerType = .time ∧ Displayed midnight eveningForm s) ∨
          (eveningForm.triggerType ≠ .time ∧ ¬ Displayed midnight eveningForm s)) ∧
      (eveningForm.triggerType = .time → ∀ passes day,
        (firings midnight ((createRule eveningRule).row 1) day passes).length ≤ 1 ↔
          (passes.filter fun s => (midnight.utcnow s).day == day).length ≤ 1) :=
  stored_trigger_agrees_iff midnight eveningForm _ 1 rfl

end SmartHome.Ui
