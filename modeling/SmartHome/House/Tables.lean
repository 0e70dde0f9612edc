import SmartHome.Audit.Coverage
import SmartHome.Lib.Outcome
import SmartHome.Scheduler.Requests
import SmartHome.Users.Account

/-! # What operations do to the tables

The tables of the house as one state. What an operation keeps follows from what its one writing step keeps; an
operation that raises changes no table. -/

namespace SmartHome
open Orm

/-! ## A request on the table of users -/

/-- The table after a request, with the sessions that it opened. -/
def Setup.usersAfter {σ R T : Type} (a : Setup σ R T) (token : String) (request : UserRequest) (w : Users.World) :
    Users.World :=
  match request with
  | .updateMe data => (Api.updateMe a.jwt token data w).2
  | .changePassword salt data => (Api.changePassword a.passwords a.jwt token salt data w).2
  | .createUser id salt data => (Api.createUser a.passwords a.jwt token id salt data w).2
  | .updateUserRole userId data => (Api.updateUserRole a.jwt token userId data w).2
  | .deleteUser userId => (Api.deleteUser a.jwt token userId w).2

namespace Setup
variable {σ R T : Type} (a : Setup σ R T) (fails : DbCall → Option PyError)

/-! ## Relations between houses -/

/-- `Q` holds over what operations share: the world outside, and the guard. -/
structure Framed (Q : House σ T → House σ T → Prop) : Prop where
  refl : ∀ h, Q h h
  trans : ∀ {h₁ h₂ h₃}, Q h₁ h₂ → Q h₂ h₃ → Q h₁ h₃
  world : ∀ h world, Q h { h with world }
  changes : ∀ h changes, Q h { h with changes }
  guard : ∀ token role, Eff.Keeps Q (House.currentUser a.jwt token role)

/-- `Q` holds over the time stamps of rules and schedules. -/
structure Stamped (Q : House σ T → House σ T → Prop) : Prop where
  commitTriggered : ∀ stamps h, Q h { h with rules := (House.commitTriggered fails stamps h.rules).2 }
  stampSchedule : ∀ now id h, Q h { h with schedules := (House.stampSchedule fails now id h.schedules).2 }

/-- `Q` holds over the step in which the operation writes. -/
def Writes (Q : House σ T → House σ T → Prop) : Operation σ → Prop
  | .turnOn .. | .turnOff .. | .setTemperature .. | .setBrightness .. | .writeEvent .. =>
    ∀ h audit, h.audit.events <+: audit.events → Q h { h with audit }
  | .discover _ draws => ∀ devicesInfo h,
    Q h { h with devices := (Devices.discoverDevices (.ok devicesInfo) draws h.devices).2 }
  | .updateDevice _ deviceId data flushed => ∀ h,
    Q h { h with devices := (Devices.updateDevice deviceId data flushed h.devices).2 }
  | .group _ request => ∀ user h,
    Q h { h with groups :=
      (request.handle fails (fun id => h.devices.rows.any fun row => row.id == id) user h.groups).2 }
  | .schedule _ body now => ∀ user h,
    Q h { h with schedules := (Request.handle a.aps { body := body.sentBy user, now, fails } h.schedules).2 }
  | .rule _ request => ∀ user h, Q h { h with rules := (request.handle fails user h.rules).2 }
  | .user token request => ∀ h, Q h { h with users := a.usersAfter token request h.users }
  | .job .. | .evaluateAllRules => Stamped fails Q
  | .elapse .. => True

namespace Framed
variable {a} {fails} {Q : House σ T → House σ T → Prop} (hQ : a.Framed Q)
include hQ

theorem seq {α β : Type} {m : Py (House σ T) α} {f : α → Py (House σ T) β} (hm : Eff.Keeps Q m)
    (hf : ∀ x, Eff.Keeps Q (f x)) : Eff.Keeps Q (m >>= f) :=
  .bind (R := Q) hQ.trans hm hf

theorem onWorld {α : Type} (m : Py σ α) : Eff.Keeps Q (House.onWorld (T := T) m) := fun h => hQ.world h _

theorem noted {α : Type} {change : Change} {m : Py (House σ T) α} (hm : Eff.Keeps Q m) :
    Eff.Keeps Q (House.noted change m) := by
  refine hQ.seq hm fun x => hQ.seq ?_ fun _ => .pure hQ.refl x
  exact fun h => hQ.changes h _

theorem enabledRules (collate : String → String → Bool) :
    Eff.Keeps Q (House.onRules (σ := σ) (T := T) (House.enabledRules fails collate)) := by
  have hsame : Eff.Keeps Eq (House.enabledRules fails collate) := by
    refine .bind (R := Eq) Eq.trans ?_ fun _ => .bind (R := Eq) Eq.trans (.gets (fun _ => rfl) _) fun rows =>
      .pure (fun _ => rfl) _
    intro rows
    cases hfails : fails .select <;> simp [Tables.call, hfails]
  refine hsame.zoom fun h rules hrules => ?_
  rw [← hrules]
  exact hQ.refl h

theorem send (ain : PyValue) (command : Command) : Eff.Keeps Q ((a.houseEnv (T := T) fails).provider.send ain command) := by
  have hsend := House.send_noted (T := T) a.env.provider ain command
  have hnoted : Eff.Keeps Q ((House.provider a.env.provider).send ain command) := by
    rw [hsend]
    exact hQ.noted (hQ.onWorld _)
  exact hnoted

theorem executeAction (actionConfig : PyDict) :
    Eff.Keeps Q (SmartHome.executeAction actionConfig (a.houseEnv (T := T) fails).provider) := by
  rw [executeAction_eq]
  split
  · exact hQ.send _ _
  · exact .pure hQ.refl ()
  · exact .raise hQ.refl _

theorem env (hstamped : Stamped fails Q) : (a.houseEnv (T := T) fails).toEnv.Keeps Q where
  getDeviceState _ := hQ.onWorld _
  send := hQ.send
  getCurrent := hQ.onWorld _
  enabledRules := hQ.enabledRules a.collate
  commitTriggered stamps h := hstamped.commitTriggered stamps h
  stampSchedule id := hQ.seq (.gets hQ.refl _) fun now h => hstamped.stampSchedule now id h

theorem deviceControl (token ain : String) (command : Command) (payload : PyDict)
    (haudit : ∀ h audit, h.audit.events <+: audit.events → Q h { h with audit }) (s : Cached (House σ T) R) :
    Q s.world (a.deviceControl token ain (DeviceService.control (a.houseEnv fails) ain command) payload s).2.world := by
  let Q' : Cached (House σ T) R → Cached (House σ T) R → Prop := fun s t => Q s.world t.world
  have htrans : ∀ {s t u}, Q' s t → Q' t u → Q' s u := hQ.trans
  have houtside : ∀ {α : Type} {m : Py (House σ T) α}, Eff.Keeps Q m → Eff.Keeps Q' (Cached.outside m) :=
    fun hm s => hm s.world
  have hcontrol : Eff.Keeps Q' (DeviceService.control (a.houseEnv fails) ain command) :=
    .bind (R := Q') htrans (houtside (hQ.send _ _)) fun _ s => hQ.refl s.world
  refine Eff.Keeps.bind (R := Q') htrans (houtside (hQ.guard token .user)) (fun user => ?_) s
  exact .bind (R := Q') htrans hcontrol fun _ => houtside fun h => haudit h _ List.prefix_rfl

theorem userRequest (token : String) (request : UserRequest)
    (hwrites : ∀ h, Q h { h with users := a.usersAfter token request h.users }) :
    Eff.Keeps Q (a.userRequest token request) := by
  cases request with
  | changePassword | deleteUser => exact hQ.noted hwrites
  | updateMe | createUser | updateUserRole => exact hQ.noted (hQ.seq hwrites fun _ => .pure hQ.refl ())

/-- An operation leads to a house that `Q` relates the first one to, if its writing step does. -/
theorem program [DeviceReading R] {op : Operation σ} (hwrites : a.Writes fails Q op) (s : Cached (House σ T) R) :
    Q s.world (a.program fails op s).2.world := by
  cases op with
  | turnOn token ain => exact hQ.deviceControl token ain (.setSwitch true) _ hwrites s
  | turnOff token ain => exact hQ.deviceControl token ain (.setSwitch false) _ hwrites s
  | setTemperature token ain celsius => exact hQ.deviceControl token ain (.setTemperature celsius) _ hwrites s
  | setBrightness token ain level => exact hQ.deviceControl token ain (.setDimmer level) _ hwrites s
  | discover token draws =>
    refine hQ.seq (hQ.guard token .admin) (fun _ => hQ.noted ?_) s.world
    refine hQ.seq (hQ.onWorld _) fun devicesInfo => hQ.seq (fun h => hwrites devicesInfo h) fun _ => .pure hQ.refl ()
  | updateDevice token deviceId data flushed =>
    exact hQ.seq (hQ.guard token .user) (fun _ => hQ.noted fun h => hwrites h) s.world
  | group token request =>
    refine hQ.seq (hQ.guard token _) (fun user => ?_) s.world
    -- The devices are those of the house that the request is served in.
    intro h
    have hserved : Q h (House.onGroups (request.handle fails (fun id => h.devices.rows.any fun row => row.id == id) user) h).2 :=
      hwrites user h
    refine hQ.trans hserved ?_
    rcases hrun : House.onGroups (request.handle fails (fun id => h.devices.rows.any fun row => row.id == id) user) h with
      ⟨e | read, t⟩
    · rw [Eff.gets_bind_run, House.noted_of_error (Eff.bind_of_error hrun)]
      exact hQ.refl t
    · rw [Eff.gets_bind_run, House.noted_of_ok ((Eff.bind_of_ok hrun).trans rfl)]
      exact hQ.changes t _
  | schedule token body now =>
    exact hQ.seq (hQ.guard token .user) (fun user => hQ.noted (hQ.seq (fun h => hwrites user h) fun _ =>
      .pure hQ.refl ())) s.world
  | rule token request =>
    exact hQ.seq (hQ.guard token .user) (fun user => hQ.noted (hQ.seq (fun h => hwrites user h) fun _ =>
      .pure hQ.refl ())) s.world
  | user token request => exact hQ.userRequest token request hwrites s.world
  | job scheduleId =>
    have hjob : Eff.Keeps Q (a.fireJob fails scheduleId) := by
      refine hQ.seq (.gets hQ.refl _) fun job => ?_
      split
      · exact hQ.seq (hQ.executeAction _) fun _ => (hQ.env hwrites).stampSchedule _
      · exact .pure hQ.refl ()
    exact hjob s.world
  | evaluateAllRules => exact (hQ.env hwrites).evaluateAllRules hQ.refl (fun _ _ _ => hQ.trans) s.world
  | writeEvent i now => exact hwrites s.world _ (Audit.writeEvent_events i now _)
  | elapse world => exact hQ.world s.world world

end Framed
end Setup

/-! ## Operations that raise -/

/-- No table has changed. -/
structure House.SameTables {σ T : Type} (h h' : House σ T) : Prop where
  devices : h'.devices.rows = h.devices.rows
  users : h'.users.rows = h.users.rows
  schedules : h'.schedules.rows = h.schedules.rows
  rules : h'.rules = h.rules
  groups : h'.groups = h.groups
  audit : h'.audit = h.audit

namespace House
variable {σ T : Type}

theorem SameTables.refl (h : House σ T) : h.SameTables h := ⟨rfl, rfl, rfl, rfl, rfl, rfl⟩

theorem SameTables.trans {h₁ h₂ h₃ : House σ T} (h : h₁.SameTables h₂) (h' : h₂.SameTables h₃) : h₁.SameTables h₃ :=
  ⟨h'.devices.trans h.devices, h'.users.trans h.users, h'.schedules.trans h.schedules, h'.rules.trans h.rules,
    h'.groups.trans h.groups, h'.audit.trans h.audit⟩

theorem currentUser_sameRows (jwt : Jwt) (token : String) (role : Role) (h : House σ T) :
    (currentUser jwt token role h).2.users.rows = h.users.rows :=
  Eff.Keeps.bind (R := Users.SameRows) Users.sameRows_trans (Users.requireRole_sameRows jwt role token)
    (fun user => Eff.Keeps.bind (R := Users.SameRows) Users.sameRows_trans (Users.read_sameRows user) fun _ =>
      .pure (R := Users.SameRows) (fun _ => rfl) _) h.users

theorem stampSchedule_error {fails : DbCall → Option PyError} {now : DateTime} {id : Uuid} {s t : Stores T} {e : PyError}
    (hrun : stampSchedule fails now id s = (.error e, t)) : t = s :=
  Tables.transaction_of_error hrun

end House

/-! ### Requests on the table of users -/

namespace Users
variable {passwords : Passwords} {jwt : Jwt} {session : SessionId}

theorem createUser_within (id : Uuid) (salt : String) (data : UserCreate) :
    Eff.Keeps (Within session) (UserService.createUser passwords session id salt data) := by
  refine .bind (R := Within session) Within.trans (getByEmail_within _) fun found => ?_
  cases found with
  | some user => exact .raise (Within.refl session) _
  | none =>
    refine .bind (R := Within session) Within.trans (ofOutcome_within _) fun hashedPassword => ?_
    exact .bind (R := Within session) Within.trans (add_within _) fun r => flush_refresh_within r r

theorem serviceGetById_within (userId : Uuid) : Eff.Keeps (Within session) (UserService.getById session userId) := by
  refine .bind (R := Within session) Within.trans (getById_within userId) fun found => ?_
  cases found with
  | none => exact .raise (Within.refl session) _
  | some user => exact .pure (Within.refl session) _

theorem setRole_within (user : Ref) (role : Role) (requestingUser : Ref) :
    Eff.Keeps (Within session) (UserService.setRole session user role requestingUser) := by
  refine .bind (R := Within session) Within.trans (read_within requestingUser) fun requesting => ?_
  split
  · exact .raise (Within.refl session) _
  · exact .bind (R := Within session) Within.trans (assign_within user _) fun _ => update_within user

theorem serviceDelete_within (userId : Uuid) : Eff.Keeps (Within session) (UserService.delete session userId) := by
  refine .bind (R := Within session) Within.trans (serviceGetById_within userId) fun user => ?_
  exact .bind (R := Within session) Within.trans (delete_within user) fun _ => flush_within

/-- A request behind the guard that raises leaves the table as it was. -/
theorem guarded_onError {α : Type} {body : Ref → SessionId → Py World α} (role : Role) (token : String)
    (hbody : ∀ user session, Eff.Keeps (Within session) (body user session)) :
    Eff.OnError SameRows (do let user ← requireRole jwt role token; getDb (body user)) := by
  refine Eff.OnError.bind (R := SameRows) sameRows_trans (requireRole_sameRows jwt role token) fun user w t e hrun => ?_
  exact transaction_error (m := mapper) (hbody user) hrun

end Users

namespace Setup
variable {σ R T : Type} {a : Setup σ R T} {fails : DbCall → Option PyError}

theorem sameTables_framed : a.Framed (T := T) House.SameTables where
  refl := .refl
  trans := .trans
  world _ _ := ⟨rfl, rfl, rfl, rfl, rfl, rfl⟩
  changes _ _ := ⟨rfl, rfl, rfl, rfl, rfl, rfl⟩
  guard token role h := ⟨rfl, House.currentUser_sameRows a.jwt token role h, rfl, rfl, rfl, rfl⟩

theorem noted_onError {α : Type} {Q : House σ T → House σ T → Prop} {change : Change} {m : Py (House σ T) α}
    (hm : Eff.OnError Q m) : Eff.OnError Q (House.noted change m) :=
  hm.andThen fun x => .bind (.modify _) fun _ => .pure x

/-- A request that raises behind its guard, or in its own transaction. -/
theorem serve_onError {α : Type} {role : Role} {token : String} {change : Change} {m : Uuid → Py (House σ T) α}
    (hm : ∀ user, Eff.OnError House.SameTables (m user)) :
    Eff.OnError House.SameTables (do
      let user ← House.currentUser a.jwt token role
      House.noted change (m user)) :=
  Eff.OnError.bind (R := House.SameTables) House.SameTables.trans (sameTables_framed.guard token role) fun user =>
    noted_onError (hm user)

theorem onUsers_onError {α : Type} {m : Py Users.World α} (hm : Eff.OnError Users.SameRows m) :
    Eff.OnError House.SameTables (House.onUsers (σ := σ) (T := T) m) :=
  hm.zoom fun _ _ hrows => ⟨rfl, hrows, rfl, rfl, rfl, rfl⟩

theorem void_onError {α : Type} {m : Py (House σ T) α} (hm : Eff.OnError House.SameTables m) :
    Eff.OnError House.SameTables (m >>= fun _ => (pure () : Py (House σ T) Unit)) :=
  hm.andThen fun _ => .pure ()

theorem userRequest_onError (token : String) (request : UserRequest) :
    Eff.OnError House.SameTables (a.userRequest (T := T) token request) := by
  cases request with
  | updateMe data =>
    refine noted_onError (void_onError (onUsers_onError (Users.guarded_onError .viewer token fun user session => ?_)))
    exact ((Users.updateProfile_endsInUpdate data).andThen Users.userRead_within).within
  | changePassword salt data =>
    refine noted_onError (onUsers_onError (Users.guarded_onError .viewer token fun user session => ?_))
    exact ((Users.changePassword_endsInUpdate salt data).andThen fun _ => .pure (Within.refl _) _).within
  | createUser id salt data =>
    refine noted_onError (void_onError (onUsers_onError (Users.guarded_onError .admin token fun user session => ?_)))
    exact .bind (R := Within session) Within.trans (Users.createUser_within id salt data) Users.userRead_within
  | updateUserRole userId data =>
    refine noted_onError (void_onError (onUsers_onError (Users.guarded_onError .admin token fun user session => ?_)))
    refine .bind (R := Within session) Within.trans (Users.serviceGetById_within userId) fun found => ?_
    exact .bind (R := Within session) Within.trans (Users.setRole_within found data.role user) Users.userRead_within
  | deleteUser userId =>
    exact noted_onError (onUsers_onError (Users.guarded_onError .admin token fun _ _ => Users.serviceDelete_within userId))

theorem scheduleRequest_onError (token : String) (body : RequestBody) (now : DateTime) :
    Eff.OnError House.SameTables (a.scheduleRequest fails token body now) := by
  refine serve_onError fun user => void_onError ?_
  refine Eff.OnError.zoom (R := fun s t => t.rows = s.rows) (fun _ _ hrows => ⟨rfl, rfl, hrows, rfl, rfl, rfl⟩) ?_
  intro s t e hrun
  rcases Request.handle_cases a.aps { body := body.sentBy user, now, fails } s with ⟨-, e', hclean⟩ | ⟨p, -, hstate, hraises, -⟩
  · rw [hrun] at hclean
    exact congrArg _ (Prod.mk.inj hclean).2
  · -- The request got to the job table, and its commit failed.
    have hlate : p.late ≠ none := hraises.mp ⟨e, by rw [hrun]⟩
    obtain ⟨error, hlate⟩ := Option.ne_none_iff_exists'.mp hlate
    rw [hrun, Request.Plan.finish, hlate] at hstate
    have hstate : t = p.effect.apply p.id s := hstate
    rw [hstate]
    exact p.effect.apply_rows p.id s

theorem fireJob_onError (scheduleId : Uuid) : Eff.OnError House.SameTables (a.fireJob (T := T) fails scheduleId) := by
  refine Eff.OnError.bind (R := House.SameTables) House.SameTables.trans (.gets .refl _) fun job => ?_
  split
  · refine Eff.OnError.bind (R := House.SameTables) House.SameTables.trans (sameTables_framed.executeAction _) fun _ => ?_
    refine Eff.OnError.bind (R := House.SameTables) House.SameTables.trans (.gets .refl _) fun now => ?_
    refine Eff.OnError.zoom (R := fun s t => t = s) (fun h s hs => ?_) fun _ _ _ => House.stampSchedule_error
    rw [hs]
    exact .refl h
  · exact .of_keeps (.pure .refl ())

theorem deviceControl_onError (token ain : String) (command : Command) (payload : PyDict) :
    Eff.OnError (fun s t : Cached (House σ T) R => s.world.SameTables t.world)
      (a.deviceControl token ain (DeviceService.control (a.houseEnv fails) ain command) payload) := by
  let Q' : Cached (House σ T) R → Cached (House σ T) R → Prop := fun s t => s.world.SameTables t.world
  have htrans : ∀ {s t u}, Q' s t → Q' t u → Q' s u := House.SameTables.trans
  have hguard : Eff.Keeps Q' (Cached.outside (House.currentUser a.jwt token .user)) := fun s =>
    sameTables_framed.guard token .user s.world
  have hsend : Eff.Keeps Q' (Cached.outside ((a.houseEnv fails).provider.send (.str ain) command)) := fun s =>
    sameTables_framed.send _ _ s.world
  have hcontrol : Eff.Keeps Q' (DeviceService.control (a.houseEnv fails) ain command) :=
    .bind (R := Q') htrans hsend fun _ s => .refl s.world
  refine Eff.OnError.bind (R := Q') htrans hguard fun user => ?_
  -- The event is emitted last, and this does not fail.
  exact (Eff.OnError.of_keeps hcontrol).andThen fun _ s => ⟨(), _, rfl⟩

theorem program_onError [DeviceReading R] (op : Operation σ) :
    Eff.OnError (fun s t : Cached (House σ T) R => s.world.SameTables t.world) (a.program fails op) := by
  intro s t e hrun
  have houtside : ∀ {m : Py (House σ T) Unit}, Eff.OnError House.SameTables m →
      Cached.outside m s = (.error e, t) → s.world.SameTables t.world := by
    intro m hm hrun
    exact Eff.OnError.zoom (Q := fun s t : Cached (House σ T) R => s.world.SameTables t.world) (fun _ _ h => h) hm _ _ _ hrun
  cases op with
  | turnOn token ain => exact deviceControl_onError token ain (.setSwitch true) _ _ _ _ hrun
  | turnOff token ain => exact deviceControl_onError token ain (.setSwitch false) _ _ _ _ hrun
  | setTemperature token ain celsius => exact deviceControl_onError token ain (.setTemperature celsius) _ _ _ _ hrun
  | setBrightness token ain level => exact deviceControl_onError token ain (.setDimmer level) _ _ _ _ hrun
  | discover token draws =>
    refine houtside (serve_onError fun user => ?_) hrun
    refine Eff.OnError.bind (R := House.SameTables) House.SameTables.trans ?_ fun infos => ?_
    · exact (sameTables_framed (a := a)).onWorld _
    refine void_onError (Eff.OnError.zoom (R := fun w w' : Devices.World => w'.rows = w.rows) ?_ ?_)
    · exact fun _ _ hrows => ⟨hrows, rfl, rfl, rfl, rfl, rfl⟩
    · exact fun _ _ _ => Devices.discoverDevices_error
  | updateDevice token deviceId data flushed =>
    refine houtside (serve_onError fun user => ?_) hrun
    refine Eff.OnError.zoom (R := fun w w' : Devices.World => w'.rows = w.rows) ?_ ?_
    · exact fun _ _ hrows => ⟨hrows, rfl, rfl, rfl, rfl, rfl⟩
    · intro w w' e hupdate
      refine transaction_error (fun session => ?_) hupdate
      exact .bind (R := Within session) Within.trans (Devices.DeviceService.updateDevice_within _ _ _) fun _ =>
        .pure (Within.refl session) _
  | group token request =>
    refine houtside ?_ hrun
    refine Eff.OnError.bind (R := House.SameTables) House.SameTables.trans (sameTables_framed.guard token _) fun user => ?_
    refine Eff.OnError.bind (R := House.SameTables) House.SameTables.trans (.gets .refl _) fun devices => ?_
    refine noted_onError (void_onError (Eff.OnError.zoom (R := fun t t' => t' = t) ?_ fun _ _ _ => ?_))
    · exact fun _ _ hgroups => ⟨rfl, rfl, rfl, rfl, hgroups, rfl⟩
    · exact Groups.GroupRequest.handle_of_error
  | schedule token body now => exact houtside (scheduleRequest_onError token body now) hrun
  | rule token request =>
    refine houtside (serve_onError fun user => void_onError ?_) hrun
    refine Eff.OnError.zoom (R := fun rows rows' => rows' = rows) ?_ fun _ _ _ => RuleRequest.handle_of_error
    exact fun _ _ hrules => ⟨rfl, rfl, rfl, hrules, rfl, rfl⟩
  | user token request => exact houtside (userRequest_onError token request) hrun
  | job scheduleId => exact houtside (fireJob_onError scheduleId) hrun
  | evaluateAllRules =>
    -- Every exception in a pass over the rules is caught.
    obtain ⟨hresult, -⟩ := Prod.mk.inj hrun
    have hpass : (SmartHome.evaluateAllRules (a.houseEnv (T := T) fails).toEnv s.world).1 = .error e := hresult
    rw [SmartHome.evaluateAllRules, Eff.attempt_pure_run] at hpass
    cases hpass
  | writeEvent i now => cases hrun
  | elapse world => cases hrun

/-- An operation that raises, whatever fails in it, leaves every table as it was. -/
theorem tables_of_error [DeviceReading R] {op : Operation σ} {s t : Cached (House σ T) R} {e : PyError}
    (hrun : a.program fails op s = (.error e, t)) : s.world.SameTables t.world :=
  program_onError op s t e hrun

/-! ### An example -/

/-- Commits fail, other calls do not. -/
def commitFails : DbCall → Option PyError := fun c => if c = .commit then some .external else none

/-- The job has switched its plug when its commit fails. -/
theorem unstamped_job_leaves_tables :
    kitchenHouse.SameTables (kitchen.program commitFails (.job 1) { world := kitchenHouse, cache := .empty }).2.world := by
  have hrun : kitchen.program commitFails (.job 1) { world := kitchenHouse, cache := .empty } =
      (.error .external, (kitchen.program commitFails (.job 1) { world := kitchenHouse, cache := .empty }).2) := rfl
  exact tables_of_error hrun

end Setup
end SmartHome
