import SmartHome.Scheduler.Tasks
import SmartHome.Providers.Mock
import SmartHome.Ui.Forms

/-! # The action encoder of the forms and the action interpreter of the tasks

The forms store the actions `turn_on`, `turn_off` and `toggle`; `_execute_action` knows `on`, `off`,
`temperature` and `brightness`, and does nothing for any other action. -/

namespace SmartHome

namespace Ui

/-- A filled form that stores an action. -/
inductive ActionForm where
  | newSchedule (f : ScheduleForm)
  | editSchedule (f : ScheduleForm)
  | newRule (f : RuleForm)
  | editRule (f : RuleForm)
  | builder (f : BuilderForm)

namespace ActionForm

/-- The device that was chosen. -/
def ain : ActionForm → String
  | newSchedule f | editSchedule f => f.deviceId
  | newRule f | editRule f => f.deviceId
  | builder f => f.actionDeviceAin

/-- The action that was chosen. -/
def action : ActionForm → DeviceAction
  | newSchedule f | editSchedule f => f.deviceAction
  | newRule f | editRule f => f.deviceAction
  | builder f => f.actionType

/-- The `action_config` that the form stores, if it is sent. -/
def stored : ActionForm → Option PyDict
  | newSchedule f => some (createSchedule f).actionConfig
  | editSchedule f => some (saveSchedule f).actionConfig
  | newRule f => some (createRule f).actionConfig
  | editRule f => some (saveRule f).actionConfig
  | builder f => (save f).map (·.actionConfig)

theorem stored_eq {form : ActionForm} {config : PyDict} (h : form.stored = some config) :
    config = actionConfig form.ain form.action := by
  cases form with
  | newSchedule f => exact (Option.some.inj h).symm
  | editSchedule f => exact (Option.some.inj h).symm
  | newRule f => exact (Option.some.inj h).symm
  | editRule f => exact (Option.some.inj h).symm
  | builder f =>
    obtain ⟨payload, hsave, rfl⟩ := Option.map_eq_some_iff.mp h
    unfold save at hsave
    split at hsave
    · cases hsave
    · cases hsave
      rfl

end ActionForm

/-- Running the stored action from `s` sends exactly one command, a switch command to the chosen device, and
    leaves the device in the state that the form announces. -/
def ActionAgrees {σ R : Type} (provider : Provider σ R) (isOn : σ → String → Option Bool) (form : ActionForm)
    (config : PyDict) (s : σ) : Prop :=
  ∃ s' on, executeAction config provider.recording (s, []) = (.ok (), s', [(.str form.ain, .setSwitch on)]) ∧
    isOn s' form.ain = form.action.announced (isOn s form.ain)

theorem decodeAction_actionConfig (ain : String) (action : DeviceAction) :
    decodeAction (actionConfig ain action) = .ok none := by
  unfold decodeAction
  cases action <;> simp [actionConfig, PyDict.get, List.lookup_cons, DeviceAction.value, PyValue.eq, PyValue.number?]

theorem executeAction_stored {σ R : Type} (provider : Provider σ R) (form : ActionForm) {config : PyDict}
    (h : form.stored = some config) : executeAction config provider = pure () := by
  rw [executeAction_eq, form.stored_eq h, decodeAction_actionConfig]

/-- No stored action agrees with its form: whatever the device and its state, no command is sent. -/
theorem stored_action_never_agrees {σ R : Type} (provider : Provider σ R) (isOn : σ → String → Option Bool)
    (form : ActionForm) (config : PyDict) (s : σ) (h : form.stored = some config) :
    ¬ ActionAgrees provider isOn form config s := by
  rintro ⟨s', on, hrun, -⟩
  rw [executeAction_stored _ form h] at hrun
  simp at hrun

/-! ### A run -/

/-- A plug that is off. -/
def plugHome : MockProvider where
  devices := [{ ain := "08761 0374811", name := "Küche Steckdose", deviceType := .switch, capabilities := [.switch],
                isPresent := true }]
  states ain := { ain, isOn := some false }

/-- The plug is on. -/
def plugSwitch (m : MockProvider) (ain : String) : Option Bool := (m.states ain).isOn

/-- The plug is to be switched on in the morning. -/
def plugForm : ActionForm :=
  .newSchedule { name := "Morgens an", triggerType := .cron, triggerTime := "07:00", intervalMinutes := .int 30,
                 deviceId := "08761 0374811", deviceAction := .turnOn }

theorem plug_stays_off :
    (∃ info, plugHome.device? "08761 0374811" = some info ∧ .switch ∈ info.capabilities) ∧
      ∃ config, plugForm.stored = some config ∧
        ¬ ActionAgrees MockProvider.provider plugSwitch plugForm config plugHome := by
  refine ⟨⟨_, rfl, by decide⟩, _, rfl, ?_⟩
  rintro ⟨s', on, hrun, -⟩
  rw [executeAction_stored _ plugForm rfl] at hrun
  simp at hrun

theorem plug_form_never_agrees :
    ¬ ActionAgrees MockProvider.provider plugSwitch plugForm (actionConfig "08761 0374811" .turnOn) plugHome :=
  stored_action_never_agrees MockProvider.provider plugSwitch plugForm _ plugHome rfl

end Ui
end SmartHome
