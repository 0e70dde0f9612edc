import SmartHome.Lib.History
import SmartHome.House.Authority

/-! # The audit trail

Not everything that changes is audited, but the trail says nothing that is not true: an event in it goes back to a
request that the device carried out, on behalf of the user whom the event names. -/

namespace SmartHome
open Orm Run

/-- The command of a request to a device: its token, the device, the command, and the payload of the event. -/
def Operation.command {σ : Type} : Operation σ → Option (String × String × Command × PyDict)
  | turnOn token ain => some (token, ain, .setSwitch true, [("action", .str "on")])
  | turnOff token ain => some (token, ain, .setSwitch false, [("action", .str "off")])
  | setTemperature token ain celsius =>
    some (token, ain, .setTemperature celsius, [("action", .str "set_temperature"), ("celsius", .float celsius)])
  | setBrightness token ain level =>
    some (token, ain, .setDimmer level, [("action", .str "set_brightness"), ("level", .int level)])
  | _ => none

/-- The event of a device command that this user gave. -/
def deviceEvent (userId : Uuid) (ain : String) (payload : PyDict) : Audit.Emitted where
  action := "device_control"
  actorId := some userId
  resourceType := some "device"
  resourceId := some ain
  payload := some payload

/-- The step is a request of the actor whom the event names, a user who may command devices, and the device carries
    out what the event says. -/
structure Setup.Tells {σ R T : Type} (a : Setup σ R T) (event : Audit.Emitted) (s : Cached (House σ T) R)
    (e : AuditStep σ) : Prop where
  request : ∃ token ain command payload user, e.op.command = some (token, ain, command, payload) ∧
    (∃ claims, decodeAccessToken a.jwt token = some claims ∧ claims.sub = some user.id) ∧
    user ∈ s.world.users.rows ∧ user.isActive = true ∧ (∃ role : Role, user.role = role.value ∧ .user ≤ role) ∧
    (∃ world, a.env.provider.send (.str ain) command s.world.world = (.ok (), world)) ∧
    event = deviceEvent user.id ain payload

namespace Setup
variable {σ R T : Type} {a : Setup σ R T} {fails : DbCall → Option PyError}

/-! ### Who is let in -/

theorem currentUser_ok {role : Role} {token : String} {h t : House σ T} {id : Uuid}
    (hdistinct : h.users.Distinct Users.mapper) (hrun : House.currentUser a.jwt token role h = (.ok id, t)) :
    t.world = h.world ∧ t.audit = h.audit ∧ ∃ user ∈ h.users.rows, user.id = id ∧
      (∃ claims, decodeAccessToken a.jwt token = some claims ∧ claims.sub = some user.id) ∧ user.isActive = true ∧
        ∃ actual : Role, user.role = actual.value ∧ role ≤ actual := by
  obtain ⟨hresult, rfl⟩ := Prod.mk.inj hrun
  refine ⟨rfl, rfl, ?_⟩
  have hbody : ∃ u, (do let user ← requireRole a.jwt role token; let row ← read Users.mapper user; pure row.id :
      Py Users.World Uuid) h.users = (.ok id, u) := ⟨_, Prod.ext hresult rfl⟩
  obtain ⟨u, hbody⟩ := hbody
  obtain ⟨r, w, hguard, hrest⟩ := Eff.bind_eq_ok.mp hbody
  have hselect := select_of_requireRole hguard
  obtain ⟨claims, user, hdecode, hsub, hmem, hactive, hrole⟩ := (enters_iff hdistinct hselect).mp ⟨r, w, hguard⟩
  refine ⟨user, hmem, ?_, ⟨claims, hdecode, hsub⟩, hactive, (hasRole_iff _ _).mp hrole⟩
  rw [requireRole_run hdecode hsub (Users.filter_id_eq hdistinct hmem) hactive hrole hselect] at hguard
  obtain ⟨hr, rfl⟩ := Prod.mk.inj hguard
  cases hr
  have hread : read Users.mapper h.users.refs ((h.users.openSession.attach h.users.sessions
      { value := user, loaded := some user }).putSession h.users.sessions {}) = (.ok user, _) :=
    read_run (o := { value := user, loaded := some user }) (by simp [World.attach])
  rw [Eff.bind_of_ok hread] at hrest
  cases hrest
  rfl

/-! ### What a step emits -/

/-- The event is emitted, when the device carries out the command, and nothing else. -/
theorem deviceControl_audit {token ain : String} {command : Command} {payload : PyDict} {s : Cached (House σ T) R}
    (hdistinct : s.world.users.Distinct Users.mapper) {t : Cached (House σ T) R}
    (hrun : (a.deviceControl token ain (DeviceService.control (a.houseEnv fails) ain command) payload s).2 = t) :
    t.world.audit = s.world.audit ∨
      ∃ user ∈ s.world.users.rows, (∃ claims, decodeAccessToken a.jwt token = some claims ∧ claims.sub = some user.id) ∧
        user.isActive = true ∧ (∃ role : Role, user.role = role.value ∧ .user ≤ role) ∧
        (∃ world, a.env.provider.send (.str ain) command s.world.world = (.ok (), world)) ∧
        t.world.audit = Audit.emitEvent (deviceEvent user.id ain payload) s.world.audit := by
  subst hrun
  unfold deviceControl
  rcases huser : House.currentUser a.jwt token .user s.world with ⟨err | id, h₁⟩
  · left
    rw [Eff.bind_of_error (outside_of_run huser)]
    obtain ⟨-, rfl⟩ := Prod.mk.inj huser
    rfl
  · obtain ⟨hworld₁, haudit₁, user, hmem, rfl, htoken, hactive, hrole⟩ := currentUser_ok hdistinct huser
    rw [Eff.bind_of_ok (outside_of_run huser)]
    rcases hsent : a.env.provider.send (.str ain) command h₁.world with ⟨err | done, world⟩
    · -- The command failed: the handler stops before it emits.
      left
      rw [Eff.bind_of_error (control_of_error (s := { s with world := h₁ }) (House.onWorld_of_run hsent))]
      exact haudit₁
    · right
      refine ⟨user, hmem, htoken, hactive, hrole, ⟨world, hworld₁ ▸ hsent⟩, ?_⟩
      rw [Eff.bind_of_ok (control_of_ok (s := { s with world := h₁ }) (House.onWorld_of_run hsent)), ← haudit₁]
      rfl

/-- A step emits an event that it tells, writes an event, or leaves the log alone. -/
theorem after_audit [DeviceReading R] {s : Cached (House σ T) R} (hdistinct : s.world.users.Distinct Users.mapper)
    (e : AuditStep σ) : (a.after s e).world.audit = s.world.audit ∨
      (∃ event, a.Tells event s e ∧ (a.after s e).world.audit = Audit.emitEvent event s.world.audit) ∨
      ∃ i now, (a.after s e).world.audit = Audit.writeEvent i now s.world.audit := by
  obtain ⟨op, fails⟩ := e
  have hfailing : (s.world.failing fails).users.Distinct Users.mapper := ⟨hdistinct.committed, hdistinct.seen⟩
  have hcommand : ∀ token ain command payload, op.command = some (token, ain, command, payload) →
      a.program fails op = a.deviceControl token ain (DeviceService.control (a.houseEnv fails) ain command) payload →
      (a.after s ⟨op, fails⟩).world.audit = s.world.audit ∨
        (∃ event, a.Tells event s ⟨op, fails⟩ ∧
          (a.after s ⟨op, fails⟩).world.audit = Audit.emitEvent event s.world.audit) ∨
        ∃ i now, (a.after s ⟨op, fails⟩).world.audit = Audit.writeEvent i now s.world.audit := by
    intro token ain command payload hcommand hprogram
    have hrun : (a.deviceControl token ain (DeviceService.control (a.houseEnv fails) ain command) payload
        { s with world := s.world.failing fails }).2 = a.after s ⟨op, fails⟩ := by
      rw [after, hprogram]
    rcases deviceControl_audit hfailing hrun with hsame | ⟨user, hmem, htoken, hactive, hrole, hsent, haudit⟩
    · exact Or.inl hsame
    · exact Or.inr (Or.inl ⟨_, ⟨token, ain, command, payload, user, hcommand, htoken, hmem, hactive, hrole, hsent, rfl⟩,
        haudit⟩)
  by_cases hwrite : ∃ i now, op = .writeEvent i now
  · obtain ⟨i, now, rfl⟩ := hwrite
    exact Or.inr (Or.inr ⟨i, now, rfl⟩)
  · cases op with
    | turnOn token ain => exact hcommand token ain (.setSwitch true) _ rfl rfl
    | turnOff token ain => exact hcommand token ain (.setSwitch false) _ rfl rfl
    | setTemperature token ain celsius => exact hcommand token ain (.setTemperature celsius) _ rfl rfl
    | setBrightness token ain level => exact hcommand token ain (.setDimmer level) _ rfl rfl
    | discover | updateDevice | group | schedule | rule | user | job | evaluateAllRules | writeEvent | elapse =>
      exact Or.inl (quiet_program rfl (fun i now h => hwrite ⟨i, now, h⟩)
        { s with world := s.world.failing fails }).audit

/-! ### Runs -/

section
variable [DeviceReading R]

/-- What was written stays, and the events since the beginning of the run each go back to a request of their own. -/
structure TrueTrail (a : Setup σ R T) (start t : Cached (House σ T) R) (es : List (AuditStep σ)) : Prop where
  written : start.world.audit.events <+: t.world.audit.events
  requests : ∃ (told : List Audit.Emitted) (requests : List (Cached (House σ T) R × AuditStep σ)),
    List.Perm t.world.audit.emitted (start.world.audit.emitted ++ told) ∧
    List.Forall₂ (fun event request => a.Tells event request.1 request.2) told requests ∧
    requests.Sublist (trace a.step start es)

/-- One more step before the run. -/
theorem TrueTrail.cons {s t : Cached (House σ T) R} {e : AuditStep σ} {es : List (AuditStep σ)}
    (hdistinct : s.world.users.Distinct Users.mapper) (h : TrueTrail a (a.after s e) t es) :
    TrueTrail a s t (e :: es) := by
  obtain ⟨hwritten, told, requests, hperm, htells, hsub⟩ := h
  have htrace : trace a.step s (e :: es) = (s, e) :: trace a.step (a.after s e) es := trace_cons rfl
  rcases after_audit hdistinct e with haudit | ⟨event, htold, haudit⟩ | ⟨i, now, haudit⟩ <;>
    rw [haudit] at hwritten hperm
  · exact ⟨hwritten, told, requests, hperm, htells, htrace ▸ hsub.cons _⟩
  · refine ⟨hwritten, event :: told, (s, e) :: requests, ?_, .cons htold htells, htrace ▸ hsub.cons_cons _⟩
    rwa [Audit.emitted_emitEvent, List.append_assoc, List.singleton_append] at hperm
  · have hkept := (Audit.emitted_writeEvent i now s.world.audit).append_right told
    exact ⟨(Audit.writeEvent_events i now _).trans hwritten, told, requests, hperm.trans hkept, htells, htrace ▸ hsub.cons _⟩

/-- In every run, whatever fails and whoever asks, the trail tells the truth. -/
theorem trail_is_true (a : Setup σ R T) {h : House σ T} (hintact : h.Intact) (cache : TtlCache R)
    {es : List (AuditStep σ)} {t : Cached (House σ T) R} (hrun : run a.step { world := h, cache } es = some t) :
    TrueTrail a { world := h, cache } t es := by
  induction es generalizing h cache with
  | nil =>
    cases hrun
    exact ⟨List.prefix_rfl, [], [], by rw [List.append_nil], .nil, List.nil_sublist _⟩
  | cons e es ih =>
    obtain ⟨s, hs, hrest⟩ := run_cons.mp hrun
    cases hs
    exact .cons hintact.users (ih (after_intact (s := { world := h, cache }) hintact e) _ hrest)

end

/-- Anna switches the charger on. -/
def charge : List (AuditStep MockProvider) := [{ op := .turnOn "anna's token" "08761 0374811" }]

theorem charge_is_told : ∃ t, run home.step { world := household, cache := .empty } charge = some t ∧
    t.world.audit.tasks.length = 1 ∧ TrueTrail home { world := household, cache := .empty } t charge :=
  ⟨_, rfl, by decide, trail_is_true home household_intact .empty rfl⟩

end Setup
end SmartHome
