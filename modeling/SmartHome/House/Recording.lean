import SmartHome.House.Trail
import SmartHome.Lib.Watched
import SmartHome.Scheduler.Passes

/-! # The commands of an operation

The house with a provider that writes down each command it gets, also one that fails. Everything else goes on there as
in the house itself, and what is written down is what the operation stands for. -/

namespace SmartHome
open Orm Run

/-- A command for the device with this AIN, as the provider gets it. -/
abbrev Order := PyValue × Command

/-- The order that the action gives. -/
def StandsFor (actionConfig : PyDict) (order : Order) : Prop :=
  decodeAction actionConfig = .ok (some order.2) ∧ order.1 = actionConfig.get "ain"

section
variable {σ τ R T : Type}

/-- The same application, with a log of the commands beside the world. -/
def DeviceEnv.recording (env : DeviceEnv σ R) : DeviceEnv (σ × List Order) R where
  toEnv := env.toEnv.recording
  monotonic s := env.monotonic s.1
  activeDevices := Provider.unrecorded env.activeDevices
  saveSnapshot snapshot := Provider.unrecorded (env.saveSnapshot snapshot)
  commitSnapshots := Provider.unrecorded env.commitSnapshots

/-- The same setup, with that log. -/
def Setup.recording (a : Setup σ R T) : Setup (σ × List Order) R T where
  jwt := a.jwt
  passwords := a.passwords
  aps := a.aps
  collate := a.collate
  env := a.env.recording

/-- The same house in another world. -/
def House.mapWorld (f : σ → τ) (h : House σ T) : House τ T where
  world := f h.world
  devices := h.devices
  users := h.users
  schedules := h.schedules
  rules := h.rules
  groups := h.groups
  audit := h.audit
  changes := h.changes

/-- The operation over another world. -/
def Operation.mapWorld (f : σ → τ) : Operation σ → Operation τ
  | turnOn token ain => turnOn token ain
  | turnOff token ain => turnOff token ain
  | setTemperature token ain celsius => setTemperature token ain celsius
  | setBrightness token ain level => setBrightness token ain level
  | discover token draws => discover token draws
  | updateDevice token deviceId data flushed => updateDevice token deviceId data flushed
  | group token request => group token request
  | schedule token body now => schedule token body now
  | rule token request => rule token request
  | user token request => user token request
  | job scheduleId => job scheduleId
  | evaluateAllRules => evaluateAllRules
  | writeEvent i now => writeEvent i now
  | elapse world => elapse (f world)

/-- The state with an empty log. -/
def Cached.recording (s : Cached (House σ T) R) : Cached (House (σ × List Order) T) R where
  world := s.world.mapWorld fun world => (world, [])
  cache := s.cache

/-- The state without its log. -/
def Cached.plain (s : Cached (House (σ × List Order) T) R) : Cached (House σ T) R where
  world := s.world.mapWorld Prod.fst
  cache := s.cache

/-- The state after the step, with what the provider has written down in it. -/
def Setup.recorded [DeviceReading R] (a : Setup σ R T) (s : Cached (House σ T) R) (e : AuditStep σ) :
    Cached (House (σ × List Order) T) R :=
  (a.recording.program e.fails (e.op.mapWorld fun world => (world, []))
    (Cached.recording { s with world := s.world.failing e.fails })).2

/-- The commands that the provider gets in this step. -/
def Setup.commands [DeviceReading R] (a : Setup σ R T) (s : Cached (House σ T) R) (e : AuditStep σ) : List Order :=
  (a.recorded s e).world.world.2

/-- What the operation has the devices do, as it is asked or as it stands in the tables. -/
def House.Sends (h : House σ T) : Operation σ → Order → Prop
  | .job scheduleId, order => ∃ job id actionConfig, h.schedules.job scheduleId = some job ∧
      job.task = .jobFunc id actionConfig ∧ StandsFor actionConfig order
  | .evaluateAllRules, order => ∃ rule ∈ h.rules, rule.isEnabled = true ∧ StandsFor rule.actionConfig order
  | op, order => ∃ token ain command payload, op.command = some (token, ain, command, payload) ∧
      order = (.str ain, command)

end

/-! ## Programs on the house with a log -/

namespace House
variable {σ R T α : Type} {ok : Order → Prop} {t : House (σ × List Order) T}

/-- The program with the log does what the one without it does, and logs allowed commands only. -/
abbrev Watched (ok : Order → Prop) (watched : Py (House (σ × List Order) T) α) (plain : Py (House σ T) α)
    (t : House (σ × List Order) T) : Prop :=
  Eff.Watched (mapWorld Prod.fst) (fun h => h.world.2) ok watched plain t

theorem watched_onUsers (m : Py Users.World α) : Watched ok (onUsers m) (onUsers m) t :=
  .zoom_same rfl (fun _ => rfl) fun _ => rfl

theorem watched_onDevices (m : Py Devices.World α) : Watched ok (onDevices m) (onDevices m) t :=
  .zoom_same rfl (fun _ => rfl) fun _ => rfl

theorem watched_onSchedules (m : Py (Stores T) α) : Watched ok (onSchedules m) (onSchedules m) t :=
  .zoom_same rfl (fun _ => rfl) fun _ => rfl

theorem watched_onRules (m : Py (List RuleRecord) α) : Watched ok (onRules m) (onRules m) t :=
  .zoom_same rfl (fun _ => rfl) fun _ => rfl

theorem watched_onGroups (m : Py Groups.GroupTables α) : Watched ok (onGroups m) (onGroups m) t :=
  .zoom_same rfl (fun _ => rfl) fun _ => rfl

theorem watched_onWorld {watched : Py (σ × List Order) α} {plain : Py σ α}
    (h : Eff.Watched Prod.fst Prod.snd ok watched plain t.world) : Watched ok (onWorld watched) (onWorld plain) t :=
  .zoom rfl (fun _ => rfl) rfl (fun _ => rfl) h

theorem watched_unrecorded (m : Py σ α) : Watched ok (onWorld (Provider.unrecorded m)) (onWorld m) t :=
  watched_onWorld (.of_silent rfl rfl rfl)

theorem watched_noted (change : Change) {watched : Py (House (σ × List Order) T) α} {plain : Py (House σ T) α}
    (h : Watched ok watched plain t) : Watched ok (noted change watched) (noted change plain) t :=
  h.bind fun a _ _ => .bind (.modify rfl rfl) fun _ _ _ => .pure a

theorem watched_void {watched : Py (House (σ × List Order) T) α} {plain : Py (House σ T) α}
    (h : Watched ok watched plain t) : Watched ok (watched >>= fun _ => Pure.pure ()) (plain >>= fun _ => Pure.pure ()) t :=
  h.bind fun _ _ _ => .pure ()

/-- The part of the house with a log that is the house. -/
theorem isPart_plain : Eff.IsPart (mapWorld Prod.fst : House (σ × List Order) T → House σ T)
    (fun s t => s.mapWorld fun world => (world, t.world.2)) where
  view_put _ _ := rfl
  put_put _ _ _ := rfl
  put_view _ := rfl

end House

namespace Setup
variable {σ R T : Type} {a : Setup σ R T} {fails : DbCall → Option PyError} {ok : Order → Prop}
  {t : House (σ × List Order) T}

theorem watched_send {ain : PyValue} {command : Command} (hok : ok (ain, command)) :
    House.Watched ok ((a.recording.houseEnv fails).provider.send ain command)
      ((a.houseEnv fails).provider.send ain command) t := by
  have hplain := House.send_noted (T := T) a.env.provider ain command
  have hwatched := House.send_noted (T := T) a.recording.env.provider ain command
  rw [show (a.houseEnv fails).provider.send ain command = _ from hplain,
    show (a.recording.houseEnv fails).provider.send ain command = _ from hwatched]
  refine House.watched_noted _ (House.watched_onWorld ?_)
  have hsend := recording_send a.env.provider ain command t.world
  refine ⟨?_, ?_, [(ain, command)], ?_, List.forall_mem_singleton.mpr hok⟩
  · exact congrArg Prod.fst hsend
  · exact congrArg (fun run => run.2.1) hsend
  · exact congrArg (fun run => run.2.2) hsend

theorem watched_executeAction {actionConfig : PyDict} (hok : ∀ order, StandsFor actionConfig order → ok order) :
    House.Watched ok (executeAction actionConfig (a.recording.houseEnv fails).provider)
      (executeAction actionConfig (a.houseEnv fails).provider) t := by
  rw [executeAction_eq, executeAction_eq]
  rcases hdecode : decodeAction actionConfig with e | _ | command
  · exact .raise _
  · exact .pure ()
  · exact watched_send (hok _ ⟨hdecode, rfl⟩)

/-! ### The pass over the rules -/

section
variable [DeviceReading R]

omit [DeviceReading R] in
theorem readsIn_houseEnv : (a.houseEnv (T := T) fails).toEnv.ReadsIn (House.mapWorld Prod.fst)
    (fun s t => s.mapWorld fun world => (world, t.world.2)) (a.recording.houseEnv fails).toEnv where
  part := House.isPart_plain
  getDeviceState _ := rfl
  getCurrent := rfl
  utcnow _ := rfl

/-- The evaluation of a rule only reads. -/
theorem watched_evaluateRule (rule : AutomationRule) :
    House.Watched ok (evaluateRule (a.recording.houseEnv fails).toEnv rule)
      (evaluateRule (a.houseEnv fails).toEnv rule) t := by
  rw [readsIn_houseEnv.evaluateRule]
  exact .of_silent rfl rfl rfl

theorem watched_fireRule {rule : AutomationRule} (hok : ∀ order, StandsFor rule.actionConfig order → ok order) :
    House.Watched ok (fireRule (a.recording.houseEnv fails).toEnv rule) (fireRule (a.houseEnv fails).toEnv rule) t := by
  unfold fireRule
  refine (watched_evaluateRule rule).bind fun shouldFire u _ => ?_
  cases shouldFire with
  | false => exact .pure none
  | true =>
    rw [if_pos rfl, if_pos rfl]
    exact (watched_executeAction hok).bind fun _ v _ => .bind (.gets rfl) fun now _ _ => .pure _

theorem watched_evaluateRules {rules : List AutomationRule}
    (hok : ∀ rule ∈ rules, ∀ order, StandsFor rule.actionConfig order → ok order) :
    House.Watched ok (evaluateRules (a.recording.houseEnv fails).toEnv rules)
      (evaluateRules (a.houseEnv fails).toEnv rules) t := by
  induction rules generalizing t with
  | nil => exact .pure []
  | cons rule rules ih =>
    obtain ⟨hrule, hrules⟩ := List.forall_mem_cons.mp hok
    refine Eff.Watched.bind (.attempt_pure none (watched_fireRule hrule)) fun stamp u _ => ?_
    exact (ih hrules).bind fun stamps v _ => .pure _

end

end Setup

/-- The rules of a pass are the enabled ones of the table. -/
theorem House.enabledRules_ok {fails : DbCall → Option PyError} {collate : String → String → Bool}
    {rows t : List RuleRecord} {rules : List AutomationRule}
    (h : House.enabledRules fails collate rows = (.ok rules, t)) :
    ∀ rule ∈ rules, ∃ row ∈ rows, row.isEnabled = true ∧ rule = row.toAutomationRule := by
  obtain ⟨_, u, hcall, hrest⟩ := Eff.bind_eq_ok.mp h
  obtain rfl := Tables.call_ok hcall
  cases hrest
  intro rule hrule
  obtain ⟨row, hrow, rfl⟩ := List.mem_map.mp hrule
  obtain ⟨hmem, henabled⟩ := List.mem_filter.mp (List.mem_mergeSort.mp hrow)
  exact ⟨row, hmem, henabled, rfl⟩

namespace Setup
variable {σ R T : Type} {a : Setup σ R T} {fails : DbCall → Option PyError} {ok : Order → Prop}
  {t : House (σ × List Order) T}

theorem watched_evaluateAllRules [DeviceReading R]
    (hok : ∀ rule ∈ t.rules, rule.isEnabled = true → ∀ order, StandsFor rule.actionConfig order → ok order) :
    House.Watched ok (evaluateAllRules (a.recording.houseEnv fails).toEnv)
      (evaluateAllRules (a.houseEnv fails).toEnv) t := by
  refine .attempt_pure () ((House.watched_onRules _).bind fun rules u hrun => ?_)
  obtain ⟨rows, hrules, rfl⟩ := Eff.zoom_eq_ok hrun
  refine (watched_evaluateRules fun rule hrule => ?_).bind fun stamps v _ => House.watched_onRules _
  obtain ⟨row, hrow, henabled, rfl⟩ := House.enabledRules_ok hrules rule hrule
  exact hok row hrow henabled

theorem watched_fireJob {scheduleId : Uuid} (hok : ∀ job id actionConfig, t.schedules.job scheduleId = some job →
      job.task = .jobFunc id actionConfig → ∀ order, StandsFor actionConfig order → ok order) :
    House.Watched ok (a.recording.fireJob fails scheduleId) (a.fireJob fails scheduleId) t := by
  refine .bind (.gets rfl) fun job u hrun => ?_
  obtain ⟨hjob, rfl⟩ := Prod.mk.inj hrun
  have hfound : t.schedules.job scheduleId = job := Except.ok.inj hjob
  rcases job with _ | ⟨trigger, task⟩
  · exact .pure ()
  cases task with
  | pollAllDevices | evaluateAllRules | refreshWeatherCache => exact .pure ()
  | jobFunc id actionConfig =>
    refine (watched_executeAction (hok _ id actionConfig hfound rfl)).bind fun _ u _ => ?_
    exact .bind (.gets rfl) fun now v _ => House.watched_onSchedules _

/-! ### Requests -/

theorem watched_currentUser (token : String) (role : Role) :
    House.Watched ok (House.currentUser a.recording.jwt token role) (House.currentUser a.jwt token role) t :=
  House.watched_onUsers _

theorem watched_discoverDevices (token : String) (draws : Devices.Draws) :
    House.Watched ok (House.discoverDevices a.recording.jwt token (a.recording.houseEnv fails) draws)
      (House.discoverDevices a.jwt token (a.houseEnv fails) draws) t := by
  refine (watched_currentUser token .admin).bind fun _ u _ => House.watched_noted _ ?_
  exact (House.watched_unrecorded _).bind fun devicesInfo v _ => House.watched_void (House.watched_onDevices _)

theorem watched_groupRequest (token : String) (request : Groups.GroupRequest) :
    House.Watched ok (a.recording.groupRequest fails token request) (a.groupRequest fails token request) t := by
  refine (watched_currentUser token _).bind fun user u _ => .bind (.gets rfl) fun devices v _ => ?_
  exact House.watched_noted _ (House.watched_void (House.watched_onGroups _))

theorem watched_userRequest (token : String) (request : UserRequest) :
    House.Watched ok (a.recording.userRequest token request) (a.userRequest token request) t := by
  cases request with
  | changePassword | deleteUser => exact House.watched_noted _ (House.watched_onUsers _)
  | updateMe | createUser | updateUserRole =>
    exact House.watched_noted _ (House.watched_void (House.watched_onUsers _))

/-! ### The operations -/

/-- The same of programs over the cache. -/
abbrev Watched (ok : Order → Prop) (watched : Py (Cached (House (σ × List Order) T) R) Unit)
    (plain : Py (Cached (House σ T) R) Unit) (t : Cached (House (σ × List Order) T) R) : Prop :=
  Eff.Watched Cached.plain (fun s => s.world.world.2) ok watched plain t

theorem watched_outside {α : Type} {watched : Py (House (σ × List Order) T) α} {plain : Py (House σ T) α}
    {t : Cached (House (σ × List Order) T) R} (h : House.Watched ok watched plain t.world) :
    Eff.Watched Cached.plain (fun s => s.world.world.2) ok (Cached.outside (V := R) watched) (Cached.outside plain) t :=
  .zoom rfl (fun _ => rfl) rfl (fun _ => rfl) h

theorem watched_deviceControl {token ain : String} {command : Command} {payload : PyDict}
    {t : Cached (House (σ × List Order) T) R} (hok : ok (.str ain, command)) :
    Watched ok (a.recording.deviceControl token ain (DeviceService.control (a.recording.houseEnv fails) ain command) payload)
      (a.deviceControl token ain (DeviceService.control (a.houseEnv fails) ain command) payload) t := by
  refine (watched_outside (watched_currentUser token .user)).bind fun user u _ => ?_
  refine Eff.Watched.bind ?_ fun _ v _ => watched_outside (.modify rfl rfl)
  exact (watched_outside (watched_send hok)).bind fun _ w _ => .modify rfl rfl

/-- A recorded operation is the operation, and its provider gets the commands that the operation sends. -/
theorem watched_program [DeviceReading R] (op : Operation σ) (s : Cached (House σ T) R) :
    Watched (s.world.Sends op) (a.recording.program fails (op.mapWorld fun world => (world, []))) (a.program fails op)
      s.recording := by
  cases op with
  | turnOn token ain | turnOff token ain | setTemperature token ain celsius | setBrightness token ain level =>
    exact watched_deviceControl ⟨token, ain, _, _, rfl, rfl⟩
  | discover token draws => exact watched_outside (watched_discoverDevices token draws)
  | updateDevice token deviceId data flushed =>
    exact watched_outside ((watched_currentUser token .user).bind fun _ u _ =>
      House.watched_noted _ (House.watched_onDevices _))
  | group token request => exact watched_outside (watched_groupRequest token request)
  | schedule token body now =>
    exact watched_outside ((watched_currentUser token .user).bind fun user u _ =>
      House.watched_noted _ (House.watched_void (House.watched_onSchedules _)))
  | rule token request =>
    exact watched_outside ((watched_currentUser token .user).bind fun user u _ =>
      House.watched_noted _ (House.watched_void (House.watched_onRules _)))
  | user token request => exact watched_outside (watched_userRequest token request)
  | job scheduleId =>
    refine watched_outside (watched_fireJob fun job id actionConfig hjob htask order hstands => ?_)
    exact ⟨job, id, actionConfig, hjob, htask, hstands⟩
  | evaluateAllRules =>
    refine watched_outside (watched_evaluateAllRules fun rule hrule henabled order hstands => ?_)
    exact ⟨rule, hrule, henabled, hstands⟩
  | writeEvent i now => exact watched_outside (.modify rfl rfl)
  | elapse world => exact watched_outside (.modify rfl rfl)

/-- The recording changes nothing. -/
theorem recorded_plain [DeviceReading R] (a : Setup σ R T) (s : Cached (House σ T) R) (e : AuditStep σ) :
    (a.recorded s e).plain = a.after s e :=
  (watched_program e.op _).state

theorem commands_sent [DeviceReading R] {s : Cached (House σ T) R} {e : AuditStep σ} {order : Order}
    (hsent : order ∈ a.commands s e) : s.world.Sends e.op order := by
  obtain ⟨-, -, more, hlog, hsends⟩ :=
    @watched_program σ R T a e.fails _ e.op { s with world := s.world.failing e.fails }
  have hmore : a.commands s e = more := hlog
  have hsends : (s.world.failing e.fails).Sends e.op order := hsends order (hmore ▸ hsent)
  revert hsends
  cases e.op <;> exact id

end Setup
end SmartHome
