import SmartHome.Lib.Tables
import SmartHome.Scheduler.Stamps

/-! # The rule requests

`AutomationRuleRepository`, the rule part of `SchedulerService` and the handlers that write
(`app/scheduler/repository.py`, `app/scheduler/service.py`, `app/api/v1/automations.py`). -/

namespace SmartHome
open Tables

/-- All columns of a rule. -/
structure RuleRecord extends RuleRow where
  description : Option String := none
  createdBy : Option Uuid := none

/-- The body that creates a rule. -/
structure AutomationRuleCreate where
  name : String
  description : Option String := none
  triggerType : String
  triggerConfig : PyDict
  conditionConfig : Option PyDict := none
  actionType : String := "device_control"
  actionConfig : PyDict
  isEnabled : Bool := true

/-- `none` leaves the column alone. -/
structure AutomationRuleUpdate where
  name : Option String := none
  description : Option String := none
  triggerConfig : Option PyDict := none
  conditionConfig : Option PyDict := none
  actionConfig : Option PyDict := none
  isEnabled : Option Bool := none

/-- The columns can hold the rule. -/
def RuleRecord.fits (rule : RuleRecord) : Bool :=
  rule.name.length ≤ 255 && (rule.description.all fun description => description.length ≤ 1000) &&
    rule.triggerType.length ≤ 32 && rule.actionType.length ≤ 32

namespace AutomationRuleUpdate

/-- The rule after the update; what is not given stays. -/
def apply (data : AutomationRuleUpdate) (rule : RuleRecord) : RuleRecord :=
  { rule with
    name := data.name.getD rule.name
    description := data.description.or rule.description
    triggerConfig := data.triggerConfig.getD rule.triggerConfig
    conditionConfig := data.conditionConfig.or rule.conditionConfig
    actionConfig := data.actionConfig.getD rule.actionConfig
    isEnabled := data.isEnabled.getD rule.isEnabled }

/-- Some column gets another value. -/
def changes (data : AutomationRuleUpdate) (rule : RuleRecord) : Bool :=
  (data.name.any fun name => name != rule.name) ||
    (data.description.any fun description => some description != rule.description) ||
    (data.triggerConfig.any fun config => !config.same rule.triggerConfig) ||
    (data.conditionConfig.any fun config => !rule.conditionConfig.any config.same) ||
    (data.actionConfig.any fun config => !config.same rule.actionConfig) ||
    data.isEnabled.any fun enabled => enabled != rule.isEnabled

end AutomationRuleUpdate

variable (fails : DbCall → Option PyError)

/-! ## `AutomationRuleRepository` -/

namespace AutomationRuleRepository

/-- `AutomationRuleRepository.get_by_id`. -/
def getById (ruleId : Uuid) : Py (List RuleRecord) (Option RuleRecord) := do
  call fails .select
  Eff.gets fun rows => rows.find? fun row => row.id == ruleId

/-- `session.refresh`. -/
def refresh (ruleId : Uuid) : Py (List RuleRecord) RuleRecord := do
  call fails .refresh
  match ← Eff.gets fun rows : List RuleRecord => rows.find? fun row => row.id == ruleId with
  | some row => pure row
  | none => Eff.raise .invalidRequest

/-- `AutomationRuleRepository.create`. -/
def create (rule : RuleRecord) : Py (List RuleRecord) RuleRecord := do
  call fails .flush
  let taken ← Eff.gets fun rows : List RuleRecord => rows.any fun row => row.id == rule.id
  (if !rule.fits then Eff.raise .external
  else if taken then Eff.raise .integrityError
  else Eff.modify fun rows => rows ++ [rule])
  refresh fails rule.id

/-- The UPDATE of a loaded rule; nothing is sent when no column changes. -/
def update (rule : RuleRecord) (data : AutomationRuleUpdate) : Py (List RuleRecord) RuleRecord := do
  (if !data.changes rule then pure ()
  else do
    call fails .flush
    let found ← Eff.gets fun rows : List RuleRecord => rows.any fun row => row.id == rule.id
    if !(data.apply rule).fits then Eff.raise .external
    else if !found then Eff.raise .staleData
    else Eff.modify fun rows => rows.map fun row => if row.id == rule.id then data.apply row else row)
  refresh fails rule.id

/-- `AutomationRuleRepository.delete`. -/
def delete (rule : RuleRecord) : Py (List RuleRecord) Unit := do
  call fails .flush
  Eff.modify fun rows => rows.filter fun row => row.id != rule.id

end AutomationRuleRepository

/-! ## `SchedulerService` -/

namespace RuleService

/-- `id` is the new `uuid4()`. -/
def createRule (id : Uuid) (data : AutomationRuleCreate) (createdBy : Option Uuid) :
    Py (List RuleRecord) RuleRecord :=
  AutomationRuleRepository.create fails
    { id, name := data.name, description := data.description, triggerType := data.triggerType,
      triggerConfig := data.triggerConfig, conditionConfig := data.conditionConfig, actionType := data.actionType,
      actionConfig := data.actionConfig, isEnabled := data.isEnabled, createdBy }

/-- `SchedulerService.get_rule`. -/
def getRule (ruleId : Uuid) : Py (List RuleRecord) RuleRecord := do
  match ← AutomationRuleRepository.getById fails ruleId with
  | some rule => pure rule
  | none => Eff.raise (.app (.notFound s!"Automation rule {Uuid.text ruleId} not found."))

/-- `SchedulerService.update_rule`. -/
def updateRule (ruleId : Uuid) (data : AutomationRuleUpdate) : Py (List RuleRecord) RuleRecord := do
  let rule ← getRule fails ruleId
  AutomationRuleRepository.update fails rule data

/-- `SchedulerService.delete_rule`. -/
def deleteRule (ruleId : Uuid) : Py (List RuleRecord) Unit := do
  let rule ← getRule fails ruleId
  AutomationRuleRepository.delete fails rule

end RuleService

/-! ## Requests -/

/-- The requests on the rules. -/
inductive RuleRequest where
  | create (id : Uuid) (data : AutomationRuleCreate)
  | update (ruleId : Uuid) (data : AutomationRuleUpdate)
  | delete (ruleId : Uuid)

namespace RuleRequest

/-- The handler in its session; `currentUser` has sent the request. -/
def handle (currentUser : Uuid) : RuleRequest → Py (List RuleRecord) (Option RuleRecord)
  | create id data => transaction fails do
    let rule ← RuleService.createRule fails id data (some currentUser)
    pure (some rule)
  | update ruleId data => transaction fails do
    let rule ← RuleService.updateRule fails ruleId data
    pure (some rule)
  | delete ruleId => transaction fails do
    RuleService.deleteRule fails ruleId
    pure none

variable {fails}

/-- A request that raises leaves the rules as they were. -/
theorem handle_of_error {currentUser : Uuid} {r : RuleRequest} {s t : List RuleRecord} {e : PyError}
    (h : r.handle fails currentUser s = (.error e, t)) : t = s := by
  cases r <;> exact transaction_of_error h

end RuleRequest
end SmartHome
