import SmartHome.Audit.Operations
import SmartHome.Lib.Run

/-! # What the audit log covers

Runs of requests, schedule jobs and passes over the rules, with the events that they emit. -/

namespace SmartHome
open Run

/-- An operation, and the calls to the database that fail in it. -/
structure AuditStep (σ : Type) where
  op : Operation σ
  fails : DbCall → Option PyError := fun _ => none

/-- The four endpoints that command a device. -/
def Operation.isControl {σ : Type} : Operation σ → Bool
  | turnOn .. | turnOff .. | setTemperature .. | setBrightness .. => true
  | _ => false

namespace House
variable {σ R T : Type}

/-- The house while these calls to the database fail. -/
def failing (fails : DbCall → Option PyError) (h : House σ T) : House σ T :=
  { h with devices := { h.devices with fails }, users := { h.users with fails } }

/-- The events that have been emitted are those of the operations that succeeded, one each, and name what they changed. -/
def Audited (h : House σ T) : Prop :=
  List.Perm (h.audit.emitted.map fun e => (e.resourceType, e.resourceId)) (h.changes.map Change.resource)

/-- Nothing has been emitted, and nothing has changed yet. -/
def started (h : House σ T) : House σ T := { h with audit := {}, changes := [] }

/-- When all events are written, there are as many as there were successful operations. -/
theorem Audited.length_events {h : House σ T} (haudited : h.Audited) (htasks : h.audit.tasks = []) :
    h.audit.events.length = h.changes.length := by
  have hlength := haudited.length_eq
  rwa [List.length_map, List.length_map, Audit.AuditLog.emitted, htasks, List.append_nil, List.length_map] at hlength

end House

namespace Setup
variable {σ R T : Type} [DeviceReading R] (a : Setup σ R T)

/-- The house after an operation among these failures. -/
def after (s : Cached (House σ T) R) (e : AuditStep σ) : Cached (House σ T) R :=
  (a.program e.fails e.op { s with world := s.world.failing e.fails }).2

/-- Operations are served one after the other: the guard of a request and its handler are one step. -/
def step (s : Cached (House σ T) R) (e : AuditStep σ) : Option (Cached (House σ T) R) := some (a.after s e)

/-- An operation other than the four device commands of the API does not succeed. -/
def Covered (s : Cached (House σ T) R) (e : AuditStep σ) : Prop :=
  e.op.isControl = false → (a.after s e).world.changes = s.world.changes

end Setup

/-! ## Operations that emit nothing -/

/-- Nothing is emitted; successes are noted. -/
structure House.Quiet {σ T : Type} (h h' : House σ T) : Prop where
  audit : h'.audit = h.audit
  changes : ∃ more, h'.changes = h.changes ++ more

namespace House
variable {σ R T α : Type}

theorem Quiet.same {h h' : House σ T} (haudit : h'.audit = h.audit) (hchanges : h'.changes = h.changes) : h.Quiet h' :=
  ⟨haudit, [], by rw [hchanges, List.append_nil]⟩

theorem Quiet.refl (h : House σ T) : h.Quiet h := .same rfl rfl

theorem Quiet.trans {h₁ h₂ h₃ : House σ T} (h : h₁.Quiet h₂) (h' : h₂.Quiet h₃) : h₁.Quiet h₃ := by
  obtain ⟨haudit, more, hchanges⟩ := h
  obtain ⟨haudit', more', hchanges'⟩ := h'
  exact ⟨haudit'.trans haudit, more ++ more', by rw [hchanges', hchanges, List.append_assoc]⟩

section
variable {m : Py (House σ T) α}

theorem quiet_onWorld (m : Py σ α) : Eff.Keeps (Quiet (T := T)) (onWorld m) := fun _ => .same rfl rfl

theorem quiet_onDevices (m : Py Devices.World α) : Eff.Keeps (Quiet (σ := σ) (T := T)) (onDevices m) :=
  fun _ => .same rfl rfl

theorem quiet_onUsers (m : Py Users.World α) : Eff.Keeps (Quiet (σ := σ) (T := T)) (onUsers m) := fun _ => .same rfl rfl

theorem quiet_onSchedules (m : Py (Stores T) α) : Eff.Keeps (Quiet (σ := σ)) (onSchedules m) := fun _ => .same rfl rfl

theorem quiet_onRules (m : Py (List RuleRecord) α) : Eff.Keeps (Quiet (σ := σ) (T := T)) (onRules m) :=
  fun _ => .same rfl rfl

theorem quiet_onGroups (m : Py Groups.GroupTables α) : Eff.Keeps (Quiet (σ := σ) (T := T)) (onGroups m) :=
  fun _ => .same rfl rfl

theorem quiet_bind {β : Type} {f : α → Py (House σ T) β} (hm : Eff.Keeps Quiet m) (hf : ∀ a, Eff.Keeps Quiet (f a)) :
    Eff.Keeps Quiet (m >>= f) :=
  .bind (R := Quiet) Quiet.trans hm hf

theorem quiet_pure (a : α) : Eff.Keeps Quiet (pure a : Py (House σ T) α) := .pure Quiet.refl a

theorem quiet_void (hm : Eff.Keeps Quiet m) : Eff.Keeps Quiet (m >>= fun _ => (pure () : Py (House σ T) Unit)) :=
  quiet_bind hm fun _ => quiet_pure ()

theorem quiet_noted (change : Change) (hm : Eff.Keeps Quiet m) : Eff.Keeps Quiet (noted change m) := by
  refine quiet_bind hm fun a => quiet_bind ?_ fun _ => quiet_pure a
  exact fun _ => ⟨rfl, [change], rfl⟩

end

theorem quiet_currentUser (jwt : Jwt) (token : String) (role : Role) :
    Eff.Keeps (Quiet (σ := σ) (T := T)) (currentUser jwt token role) :=
  quiet_onUsers _

/-- A command through any path is noted when it succeeds. -/
theorem send_noted (provider : Provider σ R) (ain : PyValue) (command : Command) :
    (House.provider (T := T) provider).send ain command = noted (.device ain) (onWorld (provider.send ain command)) := by
  cases command <;> rfl

theorem quiet_env (fails : DbCall → Option PyError) (collate : String → String → Bool) (env : DeviceEnv σ R) :
    (House.env (T := T) fails collate env).toEnv.Keeps Quiet where
  getDeviceState _ := quiet_onWorld _
  send ain command := by
    have hsend := send_noted (T := T) env.provider ain command
    rw [show (House.env fails collate env).provider.send ain command = _ from hsend]
    exact quiet_noted _ (quiet_onWorld _)
  getCurrent := quiet_onWorld _
  enabledRules := quiet_onRules _
  commitTriggered _ := quiet_onRules _
  stampSchedule _ := quiet_bind (.gets Quiet.refl _) fun _ => quiet_onSchedules _

end House

namespace Setup
variable {σ R T : Type} {a : Setup σ R T} {fails : DbCall → Option PyError}

theorem quiet_discoverDevices (token : String) (draws : Devices.Draws) :
    Eff.Keeps House.Quiet (House.discoverDevices a.jwt token (a.houseEnv (T := T) fails) draws) := by
  refine House.quiet_bind (House.quiet_currentUser _ _ _) fun _ => House.quiet_noted _ ?_
  exact House.quiet_bind (House.quiet_onWorld _) fun devicesInfo => House.quiet_void (House.quiet_onDevices _)

theorem quiet_groupRequest (token : String) (request : Groups.GroupRequest) :
    Eff.Keeps House.Quiet (a.groupRequest fails token request) := by
  refine House.quiet_bind (House.quiet_currentUser _ _ _) fun user => ?_
  refine House.quiet_bind (.gets House.Quiet.refl _) fun devices => House.quiet_noted _ ?_
  exact House.quiet_void (House.quiet_onGroups _)

theorem quiet_scheduleRequest (token : String) (body : RequestBody) (now : DateTime) :
    Eff.Keeps House.Quiet (a.scheduleRequest fails token body now) := by
  refine House.quiet_bind (House.quiet_currentUser _ _ _) fun user => House.quiet_noted _ ?_
  exact House.quiet_void (House.quiet_onSchedules _)

theorem quiet_ruleRequest (token : String) (request : RuleRequest) :
    Eff.Keeps House.Quiet (a.ruleRequest fails token request) := by
  refine House.quiet_bind (House.quiet_currentUser _ _ _) fun user => House.quiet_noted _ ?_
  exact House.quiet_void (House.quiet_onRules _)

theorem quiet_userRequest (token : String) (request : UserRequest) :
    Eff.Keeps House.Quiet (a.userRequest token request) := by
  cases request with
  | changePassword | deleteUser => exact House.quiet_noted _ (House.quiet_onUsers _)
  | updateMe | createUser | updateUserRole =>
    exact House.quiet_noted _ (House.quiet_void (House.quiet_onUsers _))

theorem quiet_fireJob (scheduleId : Uuid) : Eff.Keeps House.Quiet (a.fireJob fails scheduleId) := by
  have hkeeps := House.quiet_env (T := T) fails a.collate a.env
  refine House.quiet_bind (.gets House.Quiet.refl _) fun job => ?_
  split
  · exact House.quiet_bind (hkeeps.executeAction House.Quiet.refl _) fun _ => hkeeps.stampSchedule _
  · exact House.quiet_pure ()

theorem quiet_evaluateAllRules [DeviceReading R] :
    Eff.Keeps House.Quiet (SmartHome.evaluateAllRules (a.houseEnv (T := T) fails).toEnv) :=
  (House.quiet_env fails a.collate a.env).evaluateAllRules House.Quiet.refl fun _ _ _ => House.Quiet.trans

theorem quiet_program [DeviceReading R] {op : Operation σ} (hcontrol : op.isControl = false)
    (hwrite : ∀ i now, op ≠ .writeEvent i now) (s : Cached (House σ T) R) :
    s.world.Quiet (a.program fails op s).2.world := by
  cases op with
  | turnOn | turnOff | setTemperature | setBrightness => cases hcontrol
  | discover token draws => exact quiet_discoverDevices token draws s.world
  | updateDevice token deviceId data flushed =>
    exact House.quiet_bind (House.quiet_currentUser _ _ _) (fun _ => House.quiet_noted _ (House.quiet_onDevices _)) s.world
  | group token request => exact quiet_groupRequest token request s.world
  | schedule token body now => exact quiet_scheduleRequest token body now s.world
  | rule token request => exact quiet_ruleRequest token request s.world
  | user token request => exact quiet_userRequest token request s.world
  | job scheduleId => exact quiet_fireJob scheduleId s.world
  | evaluateAllRules => exact quiet_evaluateAllRules s.world
  | writeEvent i now => exact absurd rfl (hwrite i now)
  | elapse world => exact .same rfl rfl

end Setup

/-! ## Device commands of the API -/

namespace House
variable {σ R T α : Type} {h t : House σ T}

theorem noted_of_ok {change : Change} {m : Py (House σ T) α} {x : α} (hrun : m h = (.ok x, t)) :
    noted change m h = (.ok x, { t with changes := t.changes ++ [change] }) := by
  rw [noted, Eff.bind_of_ok hrun]
  rfl

theorem noted_of_error {change : Change} {m : Py (House σ T) α} {e : PyError} (hrun : m h = (.error e, t)) :
    noted change m h = (.error e, t) :=
  Eff.bind_of_error hrun

theorem onWorld_of_run {m : Py σ α} {r : Except PyError α} {world : σ} (hrun : m h.world = (r, world)) :
    onWorld m h = (r, { h with world := world }) := by
  rw [onWorld, Eff.zoom, hrun]

theorem Audited.congr (haudited : h.Audited) (haudit : t.audit = h.audit) (hchanges : t.changes = h.changes) :
    t.Audited := by
  unfold Audited
  rw [haudit, hchanges]
  exact haudited

theorem Audited.onUsers {m : Py Users.World α} {r : Except PyError α} (haudited : h.Audited)
    (hrun : House.onUsers m h = (r, t)) : t.Audited := by
  obtain ⟨-, rfl⟩ := Prod.mk.inj hrun
  exact haudited.congr rfl rfl

theorem Audited.onWorld {m : Py σ α} {r : Except PyError α} (haudited : h.Audited)
    (hrun : House.onWorld m h = (r, t)) : t.Audited := by
  obtain ⟨-, rfl⟩ := Prod.mk.inj hrun
  exact haudited.congr rfl rfl

/-- An event for what has changed. -/
theorem Audited.emit (haudited : h.Audited) {e : Audit.Emitted} {change : Change}
    (hnames : (e.resourceType, e.resourceId) = change.resource) (haudit : t.audit = Audit.emitEvent e h.audit)
    (hchanges : t.changes = h.changes ++ [change]) : t.Audited := by
  unfold Audited
  rw [haudit, hchanges, Audit.emitted_emitEvent, List.map_append, List.map_append, List.map_singleton,
    List.map_singleton, hnames]
  exact haudited.append_right _

theorem Audited.writeEvent (haudited : h.Audited) {i : ℕ} {now : DateTime}
    (haudit : t.audit = Audit.writeEvent i now h.audit) (hchanges : t.changes = h.changes) : t.Audited := by
  unfold Audited
  rw [haudit, hchanges]
  exact ((Audit.emitted_writeEvent i now h.audit).map _).trans haudited

/-- Where nothing is emitted, the log still covers everything exactly if nothing has changed. -/
theorem Quiet.audited_iff (hquiet : h.Quiet t) (haudited : h.Audited) : t.Audited ↔ t.changes = h.changes := by
  constructor
  · intro ht
    obtain ⟨haudit, more, hchanges⟩ := hquiet
    have hbefore := haudited.length_eq
    have hafter := ht.length_eq
    rw [haudit, hchanges] at hafter
    simp only [List.length_map, List.length_append] at hbefore hafter
    have hmore : more = [] := List.eq_nil_of_length_eq_zero (by omega)
    rw [hchanges, hmore, List.append_nil]
  · intro hchanges
    exact haudited.congr hquiet.audit hchanges

end House

namespace Setup
variable {σ R T : Type} {a : Setup σ R T} {fails : DbCall → Option PyError}

theorem outside_of_run {V α : Type} {m : Py (House σ T) α} {s : Cached (House σ T) V} {r : Except PyError α} {h : House σ T}
    (hrun : m s.world = (r, h)) : Cached.outside m s = (r, { s with world := h }) := by
  rw [Cached.outside_run, hrun]

section Control
variable {s : Cached (House σ T) R} {ain : String} {command : Command} {h : House σ T}

/-- A command that fails leaves the cache as it was. -/
theorem control_of_error {e : PyError}
    (hsend : House.onWorld (a.env.provider.send (.str ain) command) s.world = (.error e, h)) :
    DeviceService.control (a.houseEnv fails) ain command s = (.error e, { s with world := h }) := by
  have hnoted : (House.provider a.env.provider).send (.str ain) command s.world = (.error e, h) := by
    rw [House.send_noted]
    exact House.noted_of_error hsend
  exact Eff.bind_of_error (outside_of_run hnoted)

/-- A command that succeeds is noted, and the state of its device is no longer cached. -/
theorem control_of_ok (hsend : House.onWorld (a.env.provider.send (.str ain) command) s.world = (.ok (), h)) :
    DeviceService.control (a.houseEnv fails) ain command s =
      (.ok (), { world := { h with changes := h.changes ++ [.device (.str ain)] }
                 cache := s.cache.invalidate (stateKey ain) }) := by
  have hnoted : (House.provider a.env.provider).send (.str ain) command s.world =
      (.ok (), { h with changes := h.changes ++ [.device (.str ain)] }) := by
    rw [House.send_noted]
    exact House.noted_of_ok hsend
  exact Eff.bind_of_ok (outside_of_run hnoted)

end Control

/-- A device command that succeeds emits its event, and one that fails emits none. -/
theorem audited_deviceControl (token ain : String) (command : Command) (payload : PyDict) {s : Cached (House σ T) R}
    (haudited : s.world.Audited) :
    (a.deviceControl token ain (DeviceService.control (a.houseEnv fails) ain command) payload s).2.world.Audited := by
  unfold deviceControl
  rcases huser : House.currentUser a.jwt token .user s.world with ⟨err | user, h₁⟩
  · rw [Eff.bind_of_error (outside_of_run huser)]
    exact haudited.onUsers huser
  · rw [Eff.bind_of_ok (outside_of_run huser)]
    have haudited₁ : h₁.Audited := haudited.onUsers huser
    rcases hsend : House.onWorld (a.env.provider.send (.str ain) command) h₁ with ⟨err | done, h₂⟩
    · -- The command failed: the handler stops before it emits.
      rw [Eff.bind_of_error (control_of_error (s := { s with world := h₁ }) hsend)]
      exact haudited₁.onWorld hsend
    · rw [Eff.bind_of_ok (control_of_ok (s := { s with world := h₁ }) hsend)]
      have haudited₂ : h₂.Audited := haudited₁.onWorld hsend
      have hnames : (some "device", some ain) = Change.resource (.device (.str ain)) := rfl
      exact haudited₂.emit hnames rfl rfl

theorem audited_control [DeviceReading R] (op : Operation σ) (hcontrol : op.isControl = true) {s : Cached (House σ T) R}
    (haudited : s.world.Audited) : (a.program fails op s).2.world.Audited := by
  cases op with
  | turnOn token ain => exact audited_deviceControl token ain (.setSwitch true) _ haudited
  | turnOff token ain => exact audited_deviceControl token ain (.setSwitch false) _ haudited
  | setTemperature token ain celsius => exact audited_deviceControl token ain (.setTemperature celsius) _ haudited
  | setBrightness token ain level => exact audited_deviceControl token ain (.setDimmer level) _ haudited
  | _ => cases hcontrol

/-- The log covers everything after an operation exactly if the operation is a command of the API or does not succeed. -/
theorem audited_after_iff [DeviceReading R] {s : Cached (House σ T) R} {e : AuditStep σ} (haudited : s.world.Audited) :
    (a.after s e).world.Audited ↔ a.Covered s e := by
  have hfailing : (s.world.failing e.fails).Audited := haudited.congr rfl rfl
  unfold Covered
  by_cases hcontrol : e.op.isControl = true
  · have hafter : (a.after s e).world.Audited := audited_control e.op hcontrol hfailing
    refine iff_of_true hafter fun hnot => ?_
    rw [hcontrol] at hnot
    cases hnot
  rw [Bool.not_eq_true] at hcontrol
  by_cases hwrite : ∃ i now, e.op = .writeEvent i now
  · obtain ⟨i, now, hop⟩ := hwrite
    have hrun : a.after s e = { s with world := { s.world.failing e.fails with
        audit := Audit.writeEvent i now s.world.audit } } := by
      unfold after
      rw [hop]
      rfl
    have hchanges : (a.after s e).world.changes = s.world.changes := by rw [hrun]; rfl
    have haudit : (a.after s e).world.audit = Audit.writeEvent i now s.world.audit := by rw [hrun]
    exact iff_of_true (haudited.writeEvent haudit hchanges) fun _ => hchanges
  · have hquiet : (s.world.failing e.fails).Quiet (a.after s e).world :=
      quiet_program hcontrol (fun i now h => hwrite ⟨i, now, h⟩) { s with world := s.world.failing e.fails }
    constructor
    · intro hafter _
      exact (hquiet.audited_iff hfailing).mp hafter
    · intro hsame
      exact (hquiet.audited_iff hfailing).mpr (hsame hcontrol)

/-- From a fresh start the events are those of the successful operations throughout a run exactly if no operation
    but the device commands of the API succeeds in it. -/
theorem runs_audited_iff [DeviceReading R] (h : House σ T) (cache : TtlCache R) (es : List (AuditStep σ)) :
    (∀ t, Visits a.step { world := h.started, cache } es t → t.world.Audited) ↔
      Meets a.step a.Covered { world := h.started, cache } es := by
  refine invariant_iff_meets (I := fun t : Cached (House σ T) R => t.world.Audited) (fun s e => ⟨a.after s e, rfl⟩) ?_ ?_
  · intro s e t hs hstep
    cases hstep
    exact audited_after_iff hs
  · exact List.Perm.refl _

/-! ### An example -/

/-- A box with one plug, which is off. -/
def kitchenPlug : MockProvider where
  devices := [{ ain := "08761 0374811", name := "Küche Steckdose", deviceType := .switch, capabilities := [.switch],
                isPresent := true }]
  states ain := { ain, isOn := some false }

/-- The application around that box; no token is valid. -/
def kitchen : Setup MockProvider DeviceState ClockTrigger where
  jwt _ := none
  passwords := Users.saltedPasswords
  aps := clockTriggers
  collate _ _ := true
  env :=
    { provider := MockProvider.provider
      getCurrent := pure none
      utcnow := fun _ => 0
      enabledRules := pure []
      commitTriggered := fun _ => pure ()
      stampSchedule := fun _ => pure ()
      monotonic := fun _ => 0
      activeDevices := pure []
      saveSnapshot := fun _ => pure ()
      commitSnapshots := pure () }

/-- Switches the plug on every half hour. -/
def charging : Schedule where
  id := 1
  name := "Laden"
  triggerType := "interval"
  triggerConfig := [("minutes", .int 30)]
  actionConfig := [("ain", .str "08761 0374811"), ("action", .str "on")]

/-- The house with the plug and its schedule. -/
def kitchenHouse : House MockProvider ClockTrigger where
  world := kitchenPlug
  devices := { rows := [] }
  users := { rows := [] }
  schedules := (Stores.empty.putRow charging).addJob (.schedule 1)
    { trigger := .every 0 1800, task := .jobFunc charging.id charging.actionConfig }
  rules := []
  groups := {}
  audit := {}
  changes := []

theorem scheduled_switch_is_not_audited :
    ¬ ∀ t, Visits kitchen.step { world := kitchenHouse.started, cache := .empty } [{ op := .job 1 }] t →
      t.world.Audited := by
  intro h
  have haudited := h _ ⟨[{ op := .job 1 }], List.prefix_rfl, rfl⟩
  have hlength := haudited.length_eq
  rw [List.length_map, List.length_map] at hlength
  revert hlength
  decide

end Setup
end SmartHome
