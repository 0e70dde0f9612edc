import SmartHome.Lib.PyValue

/-! # The forms of the web interface

The form builders of `schedules/index.html` and `automations/builder.html`: what a user can choose, and the
request bodies that the forms send. The service stores `trigger_config`, `condition_config` and
`action_config` of a body as they are. -/

namespace SmartHome.Ui

/-! ## JavaScript -/

/-- `a || b` on strings. -/
def orElse (a b : String) : String := if a ≠ "" then a else b

/-- What `trim` takes for white space. -/
def isWhiteSpace (c : Char) : Bool := Numeral.isSeparator c || [9, 10, 11, 12, 13, 65279].contains c.toNat

/-- `parseInt(text)` of a decimal text as it is sent: `NaN` becomes `null`. -/
def parseInt (cs : List Char) : PyValue :=
  let (negative, cs) := Numeral.scanSign (cs.dropWhile isWhiteSpace)
  match cs.takeWhile Char.isDigit with
  | [] => .none
  | digits =>
    let value := digits.foldl (fun n c => 10 * n + (Numeral.digit c : Int)) 0
    .int (if negative then -value else value)

/-- `text.split(":")`, as the configuration of a time. -/
def hourMinute (text : String) : PyDict :=
  match Numeral.split ':' text.toList with
  | h :: m :: _ => [("hour", parseInt h), ("minute", parseInt m)]
  | [h] => [("hour", parseInt h), ("minute", .none)]
  | [] => [("hour", .none), ("minute", .none)]

/-! ## Choices -/

/-- The actions of the forms. -/
inductive DeviceAction where
  | turnOn
  | turnOff
  | toggle
  deriving DecidableEq, Repr

namespace DeviceAction

/-- The value of the option. -/
def value : DeviceAction → String
  | turnOn => "turn_on"
  | turnOff => "turn_off"
  | toggle => "toggle"

/-- The text of the option. -/
def label : DeviceAction → String
  | turnOn => "Einschalten"
  | turnOff => "Ausschalten"
  | toggle => "Umschalten"

/-- The switch state that the label announces, from the one before. -/
def announced : DeviceAction → Option Bool → Option Bool
  | turnOn, _ => some true
  | turnOff, _ => some false
  | toggle, before => before.map not

end DeviceAction

/-- The trigger types of the rule forms. -/
inductive TriggerType where
  | time
  | deviceState
  | weather
  deriving DecidableEq, Repr

/-- The value of the option. -/
def TriggerType.value : TriggerType → String
  | time => "time"
  | deviceState => "device_state"
  | weather => "weather"

/-- The states of the rule forms. -/
inductive SwitchState where
  | on
  | off
  deriving DecidableEq, Repr

/-- The value of the option. -/
def SwitchState.value : SwitchState → String
  | on => "on"
  | off => "off"

/-- The weather of the rule forms. -/
inductive WeatherCondition where
  | rain
  | snow
  | clear
  | clouds
  deriving DecidableEq, Repr

/-- The value of the option. -/
def WeatherCondition.value : WeatherCondition → String
  | rain => "Rain"
  | snow => "Snow"
  | clear => "Clear"
  | clouds => "Clouds"

/-- The conditions of the rule builder. -/
inductive ConditionType where
  | none
  | timeRange
  | weekday
  deriving DecidableEq, Repr

/-! ## Requests -/

/-- The body of `POST /api/v1/schedules`. -/
structure SchedulePayload where
  name : String
  triggerType : String
  triggerConfig : PyDict
  actionType : String
  actionConfig : PyDict
  isEnabled : Bool

/-- The body of `POST /api/v1/automations`; a missing key is its default in the schema. -/
structure RulePayload where
  name : String
  description : Option String := none
  triggerType : String
  triggerConfig : PyDict
  conditionConfig : Option PyDict := none
  actionType : String
  actionConfig : PyDict
  isEnabled : Bool

/-- The action that the forms store. -/
def actionConfig (ain : String) (action : DeviceAction) : PyDict := [("ain", .str ain), ("action", .str action.value)]

/-! ## The schedule form -/

/-- The trigger types of the schedule form. -/
inductive ScheduleTrigger where
  | cron
  | interval
  deriving DecidableEq, Repr

/-- The value of the option. -/
def ScheduleTrigger.value : ScheduleTrigger → String
  | cron => "cron"
  | interval => "interval"

/-- `newSchedule`; an empty number field is the empty string. -/
structure ScheduleForm where
  name : String
  triggerType : ScheduleTrigger
  triggerTime : String
  intervalMinutes : PyValue
  deviceId : String
  deviceAction : DeviceAction

/-- The trigger branches of `createSchedule` and `saveSchedule`. -/
def scheduleTriggerConfig (s : ScheduleForm) : PyDict :=
  match s.triggerType with
  | .cron => hourMinute (orElse s.triggerTime "07:00")
  | .interval => [("minutes", if s.intervalMinutes.truthy then s.intervalMinutes else .int 30)]

/-- `createSchedule`. -/
def createSchedule (s : ScheduleForm) : SchedulePayload where
  name := s.name
  triggerType := s.triggerType.value
  triggerConfig := scheduleTriggerConfig s
  actionType := "device_control"
  actionConfig := actionConfig s.deviceId s.deviceAction
  isEnabled := true

/-- The body of `PUT /api/v1/schedules/..` and of `PUT /api/v1/automations/..`. -/
structure UpdatePayload where
  name : String
  triggerConfig : PyDict
  actionConfig : PyDict

/-- `saveSchedule`, over `editScheduleForm`. -/
def saveSchedule (s : ScheduleForm) : UpdatePayload where
  name := s.name
  triggerConfig := scheduleTriggerConfig s
  actionConfig := actionConfig s.deviceId s.deviceAction

/-! ## The rule form -/

/-- The form of a rule. -/
structure RuleForm where
  name : String
  triggerType : TriggerType
  triggerTime : String
  triggerDeviceId : String
  triggerState : SwitchState
  deviceId : String
  deviceAction : DeviceAction

/-- The trigger branches of `createRule` and `saveRule`. -/
def ruleTriggerConfig (rule : RuleForm) : PyDict :=
  match rule.triggerType with
  | .time => hourMinute (orElse rule.triggerTime "20:00")
  | .deviceState => [("ain", .str rule.triggerDeviceId), ("state", .str rule.triggerState.value)]
  | .weather => []

/-- `createRule`. -/
def createRule (rule : RuleForm) : RulePayload where
  name := rule.name
  triggerType := rule.triggerType.value
  triggerConfig := ruleTriggerConfig rule
  actionType := "device_control"
  actionConfig := actionConfig rule.deviceId rule.deviceAction
  isEnabled := true

/-- `saveRule`, over `editRuleForm`. -/
def saveRule (rule : RuleForm) : UpdatePayload where
  name := rule.name
  triggerConfig := ruleTriggerConfig rule
  actionConfig := actionConfig rule.deviceId rule.deviceAction

/-! ## The automation builder -/

/-- The rule builder. -/
structure BuilderForm where
  name : String
  description : String
  triggerType : TriggerType
  triggerTime : String
  triggerDeviceAin : String
  triggerState : SwitchState
  weatherCondition : WeatherCondition
  conditionType : ConditionType
  condTimeFrom : String
  condTimeTo : String
  condWeekdays : List Nat
  actionDeviceAin : String
  actionType : DeviceAction

/-- `buildTriggerConfig`. -/
def buildTriggerConfig (f : BuilderForm) : PyDict :=
  match f.triggerType with
  | .time => hourMinute (orElse f.triggerTime "20:00")
  | .deviceState => [("ain", .str f.triggerDeviceAin), ("state", .str f.triggerState.value)]
  | .weather => [("condition", .str f.weatherCondition.value)]

/-- `buildConditionConfig`. -/
def buildConditionConfig (f : BuilderForm) : Option PyDict :=
  match f.conditionType with
  | .none => none
  | .timeRange => some [("type", .str "time_range"), ("from", .str f.condTimeFrom), ("to", .str f.condTimeTo)]
  | .weekday => some [("type", .str "weekday"), ("days", .list (f.condWeekdays.map fun d : Nat => .int d))]

/-- `text.trim()`. -/
def trim (text : String) : String := String.ofList (Numeral.strip isWhiteSpace text.toList)

/-- `save`; nothing is sent without a name. -/
def save (f : BuilderForm) : Option RulePayload :=
  if trim f.name = "" then none
  else some {
    name := trim f.name
    description := if trim f.description = "" then none else some (trim f.description)
    triggerType := f.triggerType.value
    triggerConfig := buildTriggerConfig f
    conditionConfig := buildConditionConfig f
    actionType := "device_control"
    actionConfig := actionConfig f.actionDeviceAin f.actionType
    isEnabled := true }

end SmartHome.Ui
