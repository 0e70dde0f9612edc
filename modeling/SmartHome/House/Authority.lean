import SmartHome.Auth.Authorisation
import SmartHome.House.Integrity

/-! # Who can change what

A request changes something only with the token of an active user whose role is high enough. Over whole runs: without
the token of an administrator nobody becomes one, and without the token of a user nothing but the clock's own work
is done. -/

namespace SmartHome
open Orm Keyed Run

/-! ## Guards -/

/-- The role that the endpoint asks for. -/
def UserRequest.minimumRole : UserRequest → Role
  | updateMe _ | changePassword _ _ => .viewer
  | createUser _ _ _ | updateUserRole _ _ | deleteUser _ => .admin

/-- The token of a request, and the role that its endpoint asks for; the others are no requests. -/
def Operation.guard {σ : Type} : Operation σ → Option (String × Role)
  | turnOn token _ | turnOff token _ | setTemperature token _ _ | setBrightness token _ _ | updateDevice token _ _ _
  | schedule token _ _ | rule token _ => some (token, .user)
  | discover token _ => some (token, .admin)
  | group token request => some (token, request.guard.1)
  | user token request => some (token, request.minimumRole)
  | job _ | evaluateAllRules | writeEvent _ _ | elapse _ => none

/-- The token is an access token of an active user in the table who has this role or a higher one. -/
def MayAct (jwt : Jwt) (rows : List Users.User) (role : Role) (token : String) : Prop :=
  ∃ payload user, decodeAccessToken jwt token = some payload ∧ payload.sub = some user.id ∧ user ∈ rows ∧
    user.isActive = true ∧ ∃ actual : Role, user.role = actual.value ∧ role ≤ actual

theorem MayAct.mono {jwt : Jwt} {rows : List Users.User} {role lower : Role} {token : String}
    (h : MayAct jwt rows role token) (hle : lower.level ≤ role.level) : MayAct jwt rows lower token := by
  obtain ⟨payload, user, hdecode, hsub, hmem, hactive, actual, hactual, hrole⟩ := h
  exact ⟨payload, user, hdecode, hsub, hmem, hactive, actual, hactual, Nat.le_trans hle hrole⟩

/-- Nobody is let in when the query for the user fails. -/
theorem select_of_requireRole {jwt : Jwt} {role : Role} {token : String} {w t : Users.World} {user : Ref}
    (hrun : requireRole jwt role token w = (.ok user, t)) : w.fails .select = none := by
  cases hfails : w.fails .select with
  | none => rfl
  | some e =>
    unfold requireRole at hrun
    cases hdecode : decodeAccessToken jwt token with
    | none =>
      rw [hdecode] at hrun
      cases hrun
    | some payload =>
      cases hsub : payload.sub with
      | none =>
        simp only [hdecode, hsub] at hrun
        cases hrun
      | some userId =>
        have hlookup : Users.UserRepository.getById w.sessions userId w.openSession = (.error e, w.openSession) :=
          lookup_of_fails hfails
        simp only [hdecode, hsub] at hrun
        rw [Eff.bind_of_error (withSession_run hlookup)] at hrun
        cases hrun

/-- Whoever is let in may act, also when the database fails now and then. -/
theorem mayAct_of_requireRole {jwt : Jwt} {role : Role} {token : String} {w t : Users.World} {user : Ref}
    (hdistinct : w.Distinct Users.mapper) (hrun : requireRole jwt role token w = (.ok user, t)) :
    MayAct jwt w.rows role token := by
  obtain ⟨payload, user, hdecode, hsub, hmem, hactive, hrole⟩ :=
    (enters_iff hdistinct (select_of_requireRole hrun)).mp ⟨_, _, hrun⟩
  exact ⟨payload, user, hdecode, hsub, hmem, hactive, (hasRole_iff _ _).mp hrole⟩

/-! ## Requests that are refused -/

/-- Nothing has changed but the sessions of the table of users. -/
structure House.Untouched {σ T : Type} (h h' : House σ T) : Prop where
  world : h'.world = h.world
  devices : h'.devices = h.devices
  users : h'.users.rows = h.users.rows
  schedules : h'.schedules = h.schedules
  rules : h'.rules = h.rules
  groups : h'.groups = h.groups
  audit : h'.audit = h.audit
  changes : h'.changes = h.changes

namespace Setup
variable {σ R T : Type} {a : Setup σ R T} {fails : DbCall → Option PyError}

theorem onUsers_refused {α : Type} {body : Ref → Py Users.World α} {role : Role} {token : String} {h : House σ T}
    (hdistinct : h.users.Distinct Users.mapper) (hrefused : ¬ MayAct a.jwt h.users.rows role token) :
    ∃ e t, House.onUsers (do let user ← requireRole a.jwt role token; body user) h = (.error e, t) ∧ h.Untouched t := by
  have hrows := Users.requireRole_sameRows a.jwt role token h.users
  rcases hrun : requireRole a.jwt role token h.users with ⟨e | user, w⟩ <;> rw [hrun] at hrows
  · refine ⟨e, { h with users := w }, ?_, rfl, rfl, hrows, rfl, rfl, rfl, rfl, rfl⟩
    rw [House.onUsers, Eff.zoom, Eff.bind_of_error hrun]
  · exact absurd (mayAct_of_requireRole hdistinct hrun) hrefused

theorem currentUser_refused {role : Role} {token : String} {h : House σ T} (hdistinct : h.users.Distinct Users.mapper)
    (hrefused : ¬ MayAct a.jwt h.users.rows role token) :
    ∃ e t, House.currentUser a.jwt token role h = (.error e, t) ∧ h.Untouched t :=
  onUsers_refused hdistinct hrefused

/-- A program behind the guard does not begin. -/
theorem guarded_refused {α : Type} {body : Uuid → Py (House σ T) α} {role : Role} {token : String} {h : House σ T}
    (hdistinct : h.users.Distinct Users.mapper) (hrefused : ¬ MayAct a.jwt h.users.rows role token) :
    ∃ e t, (do let user ← House.currentUser a.jwt token role; body user) h = (.error e, t) ∧ h.Untouched t := by
  obtain ⟨e, t, hrun, huntouched⟩ := currentUser_refused hdistinct hrefused
  exact ⟨e, t, Eff.bind_of_error hrun, huntouched⟩

theorem userRequest_refused {token : String} {request : UserRequest} {h : House σ T}
    (hdistinct : h.users.Distinct Users.mapper) (hrefused : ¬ MayAct a.jwt h.users.rows request.minimumRole token) :
    ∃ e t, a.userRequest token request h = (.error e, t) ∧ h.Untouched t := by
  cases request with
  | updateMe data =>
    obtain ⟨e, t, hrun, huntouched⟩ := onUsers_refused (σ := σ) (T := T) hdistinct hrefused
    exact ⟨e, t, House.noted_of_error (Eff.bind_of_error hrun), huntouched⟩
  | changePassword salt data =>
    obtain ⟨e, t, hrun, huntouched⟩ := onUsers_refused (σ := σ) (T := T) hdistinct hrefused
    exact ⟨e, t, House.noted_of_error hrun, huntouched⟩
  | createUser id salt data =>
    obtain ⟨e, t, hrun, huntouched⟩ := onUsers_refused (σ := σ) (T := T) hdistinct hrefused
    exact ⟨e, t, House.noted_of_error (Eff.bind_of_error hrun), huntouched⟩
  | updateUserRole userId data =>
    obtain ⟨e, t, hrun, huntouched⟩ := onUsers_refused (σ := σ) (T := T) hdistinct hrefused
    exact ⟨e, t, House.noted_of_error (Eff.bind_of_error hrun), huntouched⟩
  | deleteUser userId =>
    obtain ⟨e, t, hrun, huntouched⟩ := onUsers_refused (σ := σ) (T := T) hdistinct hrefused
    exact ⟨e, t, House.noted_of_error hrun, huntouched⟩

theorem program_refused [DeviceReading R] {op : Operation σ} {token : String} {role : Role}
    {s : Cached (House σ T) R} (hguard : op.guard = some (token, role)) (hdistinct : s.world.users.Distinct Users.mapper)
    (hrefused : ¬ MayAct a.jwt s.world.users.rows role token) :
    ∃ e t, a.program fails op s = (.error e, { s with world := t }) ∧ s.world.Untouched t := by
  cases op with
  | turnOn token ain | turnOff token ain | setTemperature token ain celsius | setBrightness token ain level =>
    cases hguard
    obtain ⟨e, t, hrun, huntouched⟩ := currentUser_refused hdistinct hrefused
    exact ⟨e, t, Eff.bind_of_error (outside_of_run hrun), huntouched⟩
  | discover token draws =>
    cases hguard
    obtain ⟨e, t, hrun, huntouched⟩ := guarded_refused hdistinct hrefused
    exact ⟨e, t, outside_of_run hrun, huntouched⟩
  | updateDevice token deviceId data flushed =>
    cases hguard
    obtain ⟨e, t, hrun, huntouched⟩ := guarded_refused hdistinct hrefused
    exact ⟨e, t, outside_of_run hrun, huntouched⟩
  | group token request =>
    cases hguard
    obtain ⟨e, t, hrun, huntouched⟩ := guarded_refused hdistinct hrefused
    exact ⟨e, t, outside_of_run hrun, huntouched⟩
  | schedule token body now =>
    cases hguard
    obtain ⟨e, t, hrun, huntouched⟩ := guarded_refused hdistinct hrefused
    exact ⟨e, t, outside_of_run hrun, huntouched⟩
  | rule token request =>
    cases hguard
    obtain ⟨e, t, hrun, huntouched⟩ := guarded_refused hdistinct hrefused
    exact ⟨e, t, outside_of_run hrun, huntouched⟩
  | user token request =>
    cases hguard
    obtain ⟨e, t, hrun, huntouched⟩ := userRequest_refused hdistinct hrefused
    exact ⟨e, t, outside_of_run hrun, huntouched⟩
  | job | evaluateAllRules | writeEvent | elapse => cases hguard

/-- What a request changes, in the world outside, in a table, in the job table or in the cache, it changes with the
    token of an active user whose role is high enough. -/
theorem change_needs_authority [DeviceReading R] (a : Setup σ R T) (fails : DbCall → Option PyError) {op : Operation σ}
    {token : String} {role : Role} {s : Cached (House σ T) R} (hguard : op.guard = some (token, role))
    (hdistinct : s.world.users.Distinct Users.mapper)
    (hchanged : ¬ (s.world.Untouched (a.program fails op s).2.world ∧ (a.program fails op s).2.cache = s.cache)) :
    MayAct a.jwt s.world.users.rows role token := by
  by_contra hrefused
  obtain ⟨e, t, hrun, huntouched⟩ := @program_refused σ R T a fails _ op token role s hguard hdistinct hrefused
  rw [hrun] at hchanged
  exact hchanged ⟨huntouched, rfl⟩

theorem anna_may_switch : MayAct home.jwt household.users.rows .user "anna's token" := by
  have hguard : (Operation.turnOn "anna's token" "08761 0374811" : Operation MockProvider).guard =
      some ("anna's token", .user) := rfl
  refine change_needs_authority home (fun _ => none) (s := { world := household, cache := .empty }) hguard
    household_intact.users fun h => ?_
  have hlength := congrArg List.length h.1.changes
  revert hlength
  decide

/-- A request on the own account changes no row of the table. -/
theorem usersAfter_rows {token : String} {request : UserRequest} (hown : request.minimumRole = .viewer) (w : Users.World) :
    (a.usersAfter token request w).rows = w.rows := by
  cases request with
  | updateMe data => exact (Users.updateMe_raises a.jwt token data w).2
  | changePassword salt data => exact (Users.changePassword_raises a.passwords a.jwt token salt data w).2
  | createUser | updateUserRole | deleteUser => cases hown

end Setup

/-! ## Runs below a role -/

/-- `Same` holds over a refused request, and says that the users are the same. -/
structure House.Settled {σ T : Type} (Same : House σ T → House σ T → Prop) : Prop where
  refl : ∀ h, Same h h
  trans : ∀ {h₁ h₂ h₃}, Same h₁ h₂ → Same h₂ h₃ → Same h₁ h₃
  failing : ∀ h fails, Same h (h.failing fails)
  untouched : ∀ {h h'}, h.Untouched h' → Same h h'
  users : ∀ {h h'}, Same h h' → h'.users.rows = h.users.rows

namespace Setup
variable {σ R T : Type}

/-- The tokens of the requests are none of a user in this table with this role or a higher one. -/
def Below (a : Setup σ R T) (level : Role) (rows : List Users.User) (es : List (AuditStep σ)) : Prop :=
  ∀ e ∈ es, ∀ token role, e.op.guard = some (token, role) → ¬ MayAct a.jwt rows level token

/-- A step whose request is refused. -/
theorem after_untouched [DeviceReading R] {a : Setup σ R T} {s : Cached (House σ T) R} {e : AuditStep σ} {token : String}
    {role : Role} (hguard : e.op.guard = some (token, role)) (hs : s.world.Intact)
    (hrefused : ¬ MayAct a.jwt s.world.users.rows role token) :
    (s.world.failing e.fails).Untouched (a.after s e).world := by
  have hdistinct : (s.world.failing e.fails).users.Distinct Users.mapper := (intact_failing hs e.fails).users
  obtain ⟨error, t, hrun, huntouched⟩ : ∃ error t, a.program e.fails e.op { s with world := s.world.failing e.fails } =
      (.error error, { s with world := t }) ∧ (s.world.failing e.fails).Untouched t :=
    program_refused hguard hdistinct hrefused
  rwa [after, hrun]

/-- When nobody has the role, the operations that ask for it are refused in the whole run, since the users stay the
    same. -/
theorem runs_below [DeviceReading R] {a : Setup σ R T} {level : Role} {Same : House σ T → House σ T → Prop}
    (hsame : House.Settled Same)
    (hprogram : ∀ {fails op} {s : Cached (House σ T) R},
      (∀ token role, op.guard = some (token, role) → role.level < level.level) → s.world.Intact →
        Same s.world (a.program fails op s).2.world)
    {h : House σ T} (hintact : h.Intact) {cache : TtlCache R} {es : List (AuditStep σ)}
    (hbelow : a.Below level h.users.rows es) {t : Cached (House σ T) R}
    (hvisit : Visits a.step { world := h, cache } es t) : Same h t.world := by
  let I : Cached (House σ T) R → Prop := fun s => s.world.Intact ∧ Same h s.world
  have hstart : I { world := h, cache } := ⟨hintact, hsame.refl h⟩
  have hmeets : Meets a.step (fun _ e => e ∈ es) { world := h, cache } es := meets_of_mem fun e he _ => he
  refine (invariant_of_visits (I := I) ?_ hstart hmeets hvisit).2
  intro s e t ⟨hs, hkept⟩ he hstep
  cases hstep
  have hfailing : (s.world.failing e.fails).Intact := intact_failing hs e.fails
  have hbefore : Same h (s.world.failing e.fails) := hsame.trans hkept (hsame.failing _ _)
  refine ⟨after_intact hs e, hsame.trans hbefore ?_⟩
  by_cases hasks : ∃ token role, e.op.guard = some (token, role) ∧ level.level ≤ role.level
  · obtain ⟨token, role, hguard, hlevel⟩ := hasks
    have hrefused : ¬ MayAct a.jwt s.world.users.rows role token := by
      rw [hsame.users hkept]
      exact fun hmay => hbelow e he token role hguard (hmay.mono hlevel)
    exact hsame.untouched (after_untouched hguard hs hrefused)
  · have hasks : ∀ token role, e.op.guard = some (token, role) → role.level < level.level := by
      intro token role hguard
      by_contra hle
      exact hasks ⟨token, role, hguard, Nat.le_of_not_lt hle⟩
    exact @hprogram e.fails e.op { s with world := s.world.failing e.fails } hasks hfailing

end Setup

/-! ## Runs without an administrator -/

/-- There are the same users with the same rights, the same devices, and all the groups. -/
structure House.Unescalated {σ T : Type} (h h' : House σ T) : Prop where
  users : h'.users.rows = h.users.rows
  devices : h'.devices.rows.map (fun row => row.id) = h.devices.rows.map (fun row => row.id)
  groups : ∀ group ∈ h.groups.groups, ∃ group' ∈ h'.groups.groups, group'.id = group.id

namespace House
variable {σ T : Type} {h h' : House σ T}

theorem Unescalated.refl (h : House σ T) : h.Unescalated h := ⟨rfl, rfl, fun group hgroup => ⟨group, hgroup, rfl⟩⟩

theorem Unescalated.trans {h₁ h₂ h₃ : House σ T} (h : h₁.Unescalated h₂) (h' : h₂.Unescalated h₃) : h₁.Unescalated h₃ where
  users := h'.users.trans h.users
  devices := h'.devices.trans h.devices
  groups group hgroup := by
    obtain ⟨mid, hmid, hid⟩ := h.groups group hgroup
    obtain ⟨group', hgroup', hid'⟩ := h'.groups mid hmid
    exact ⟨group', hgroup', hid'.trans hid⟩

theorem Unescalated.of_eq (husers : h'.users.rows = h.users.rows) (hdevices : h'.devices.rows = h.devices.rows)
    (hgroups : h'.groups = h.groups) : h.Unescalated h' :=
  ⟨husers, by rw [hdevices], fun group hgroup => ⟨group, hgroups.symm ▸ hgroup, rfl⟩⟩

end House

/-- Only a deletion takes a group away. -/
theorem Groups.GroupRequest.Effect.groups_kept {devices : Uuid → Bool} {request : GroupRequest} {s t : GroupTables}
    (h : request.Effect devices s t) (hguard : request.guard.1 ≠ .admin) :
    ∀ group ∈ s.groups, ∃ group' ∈ t.groups, group'.id = group.id := by
  intro group hgroup
  cases request with
  | create id data =>
    obtain ⟨created, -, -, rfl⟩ := h
    exact ⟨group, List.mem_append_left _ hgroup, rfl⟩
  | update groupId data =>
    obtain ⟨-, rfl | ⟨written, -, -, rfl⟩⟩ := h
    · exact ⟨group, hgroup, rfl⟩
    · exact ⟨_, List.mem_map_of_mem hgroup, DeviceGroup.over_id _ group⟩
  | delete groupId => exact absurd rfl hguard
  | addMember id groupId deviceId displayOrder =>
    obtain ⟨-, -, -, rfl⟩ := h
    exact ⟨group, hgroup, rfl⟩
  | removeMember groupId deviceId =>
    obtain ⟨member, -, -, -, rfl⟩ := h
    exact ⟨group, hgroup, rfl⟩

namespace Setup
variable {σ R T : Type} {a : Setup σ R T} {fails : DbCall → Option PyError}

/-- The house stays intact, and nobody gets a right. -/
def KeepsRights (h h' : House σ T) : Prop := h.Intact → h'.Intact ∧ h.Unescalated h'

theorem KeepsRights.of_intact {h h' : House σ T} (hkeeps : KeepsIntact h h') (hsame : h.Unescalated h') :
    KeepsRights h h' := fun hintact => ⟨hkeeps hintact, hsame⟩

theorem keepsRights_framed : a.Framed (T := T) KeepsRights where
  refl h := .of_intact id (.refl h)
  trans h h' hintact := by
    obtain ⟨hintact₁, hsame⟩ := h hintact
    obtain ⟨hintact₂, hsame'⟩ := h' hintact₁
    exact ⟨hintact₂, hsame.trans hsame'⟩
  world h world := .of_intact ((keepsIntact_framed (a := a)).world h world) (.of_eq rfl rfl rfl)
  changes h changes := .of_intact ((keepsIntact_framed (a := a)).changes h changes) (.of_eq rfl rfl rfl)
  guard token role h := .of_intact (keepsIntact_framed.guard token role h)
    (.of_eq (House.currentUser_sameRows a.jwt token role h) rfl rfl)

theorem keepsRights_writes {op : Operation σ} (hop : ∀ token, op.guard ≠ some (token, .admin)) :
    a.Writes (T := T) fails KeepsRights op := by
  have hintact : a.Writes (T := T) fails KeepsIntact op := keepsIntact_writes op
  cases op with
  | turnOn | turnOff | setTemperature | setBrightness | writeEvent =>
    exact fun h audit hwritten => .of_intact (hintact h audit hwritten) (.of_eq rfl rfl rfl)
  | discover token draws => exact absurd rfl (hop token)
  | updateDevice token deviceId data flushed =>
    intro h hbefore
    obtain ⟨f, hrows, hupdated⟩ := Devices.updateDevice_updated deviceId data flushed hbefore.devices
    refine ⟨hintact h hbefore, rfl, ?_, fun group hgroup => ⟨group, hgroup, rfl⟩⟩
    dsimp only
    rw [hrows, List.map_map]
    exact List.map_congr_left fun row _ => (hupdated row).id
  | group token request =>
    intro user h
    have hguard : request.guard.1 ≠ .admin := fun hadmin => hop token (by rw [Operation.guard, hadmin])
    refine .of_intact (hintact user h) ⟨rfl, rfl, ?_⟩
    have hcases := @Groups.GroupRequest.effect_or_same fails (fun id => h.devices.rows.any fun row => row.id == id)
      h.groups user request
    rcases hcases with hsame | heffect
    · dsimp only
      rw [hsame]
      exact fun group hgroup => ⟨group, hgroup, rfl⟩
    · exact heffect.groups_kept hguard
  | schedule token body now | rule token request =>
    exact fun user h => .of_intact (hintact user h) (.of_eq rfl rfl rfl)
  | user token request =>
    have hown : request.minimumRole = .viewer := by
      cases request with
      | updateMe | changePassword => rfl
      | createUser | updateUserRole | deleteUser => exact absurd rfl (hop token)
    exact fun h => .of_intact (hintact h) (.of_eq (usersAfter_rows hown h.users) rfl rfl)
  | job | evaluateAllRules =>
    exact ⟨fun stamps h => .of_intact (keepsIntact_stamped.commitTriggered stamps h) (.of_eq rfl rfl rfl),
      fun now id h => .of_intact (keepsIntact_stamped.stampSchedule now id h) (.of_eq rfl rfl rfl)⟩
  | elapse => trivial

theorem unescalated_settled : House.Settled (House.Unescalated (σ := σ) (T := T)) where
  refl := .refl
  trans := .trans
  failing _ _ := .of_eq rfl rfl rfl
  untouched h := .of_eq h.users (by rw [h.devices]) h.groups
  users h := h.users

/-- Whatever users and viewers do, in any order and among any failures, nobody gets a right, no user comes or goes, no
    device is added, and no group is deleted. -/
theorem runs_without_admin [DeviceReading R] (a : Setup σ R T) {h : House σ T} (hintact : h.Intact) (cache : TtlCache R)
    {es : List (AuditStep σ)} (hbelow : a.Below .admin h.users.rows es) {t : Cached (House σ T) R}
    (hvisit : Visits a.step { world := h, cache } es t) : h.Unescalated t.world := by
  refine runs_below unescalated_settled (fun {fails op s} hasks hs => ?_) hintact hbelow hvisit
  have hop : ∀ token, op.guard ≠ some (token, .admin) := fun token hguard => Nat.lt_irrefl _ (hasks token .admin hguard)
  exact (keepsRights_framed.program (keepsRights_writes hop) s hs).2

/-- Anna, with this role, is the only user. -/
def annasHousehold (role : Role) : House MockProvider ClockTrigger :=
  { household with users := { rows := [{ Users.Anna.anna with role := role.value }] } }

theorem annasHousehold_intact (role : Role) : (annasHousehold role).Intact :=
  { household_intact with users := ⟨List.pairwise_singleton _ _, fun _ => List.Pairwise.nil⟩ }

/-- Nobody has a higher role than Anna, whatever the tokens are. -/
theorem annasHousehold_below {role level : Role} (hlevel : role.level < level.level) (es : List (AuditStep MockProvider)) :
    home.Below level (annasHousehold role).users.rows es := by
  rintro e - token asked - ⟨payload, user, -, -, hmem, -, actual, hactual, hle⟩
  rw [List.mem_singleton.mp hmem] at hactual
  obtain rfl : role = actual := by cases role <;> cases actual <;> first | rfl | exact absurd hactual (by decide)
  exact absurd hle (Nat.not_le_of_lt hlevel)

/-- Somebody without a valid token wants to have the devices discovered. -/
def intrusion : AuditStep MockProvider where
  op := .discover "no token"
    { device := fun i => { now := 100, id := 20 + i, transaction := 100, flushed := 100 }, deactivated := fun _ => 100 }

/-- Anna switches the charger on before. -/
def afternoon : List (AuditStep MockProvider) := [{ op := .turnOn "anna's token" "08761 0374811" }, intrusion]

/-- Only Anna, who is a user, is served. -/
theorem intruder_gains_nothing : ∃ t,
    run home.step { world := annasHousehold .user, cache := .empty } afternoon = some t ∧
      t.world.changes.length = 1 ∧ (annasHousehold .user).Unescalated t.world :=
  ⟨_, rfl, by decide, runs_without_admin home (annasHousehold_intact .user) .empty (annasHousehold_below (by decide) _)
    ⟨afternoon, List.prefix_rfl, rfl⟩⟩

end Setup

/-! ## Runs without a user -/

/-- The rule without its time stamp. -/
def RuleRecord.unstamped (rule : RuleRecord) : RuleRecord := { rule with lastTriggered := none }

/-- The schedule without its time stamp. -/
def Schedule.unstamped (schedule : Schedule) : Schedule := { schedule with lastTriggered := none }

/-- Nothing has changed in the tables but the time stamps of rules and schedules, and what was added to the log. -/
structure House.OnlyStamped {σ T : Type} (h h' : House σ T) : Prop where
  devices : h'.devices.rows = h.devices.rows
  users : h'.users.rows = h.users.rows
  groups : h'.groups = h.groups
  jobs : h'.schedules.jobs = h.schedules.jobs
  schedules : ∀ id, (h'.schedules.rows.find id).map Schedule.unstamped = (h.schedules.rows.find id).map Schedule.unstamped
  rules : h'.rules.map RuleRecord.unstamped = h.rules.map RuleRecord.unstamped
  audit : h.audit.events <+: h'.audit.events

namespace House
variable {σ T : Type} {h h' : House σ T}

theorem OnlyStamped.refl (h : House σ T) : h.OnlyStamped h := ⟨rfl, rfl, rfl, rfl, fun _ => rfl, rfl, List.prefix_rfl⟩

theorem OnlyStamped.trans {h₁ h₂ h₃ : House σ T} (h : h₁.OnlyStamped h₂) (h' : h₂.OnlyStamped h₃) : h₁.OnlyStamped h₃ :=
  ⟨h'.devices.trans h.devices, h'.users.trans h.users, h'.groups.trans h.groups, h'.jobs.trans h.jobs,
    fun id => (h'.schedules id).trans (h.schedules id), h'.rules.trans h.rules, h.audit.trans h'.audit⟩

theorem Untouched.onlyStamped (huntouched : h.Untouched h') : h.OnlyStamped h' :=
  ⟨by rw [huntouched.devices], huntouched.users, huntouched.groups, by rw [huntouched.schedules],
    fun id => by rw [huntouched.schedules], by rw [huntouched.rules], by rw [huntouched.audit]⟩

/-- The session at the end of a job writes the time stamp of its schedule. -/
theorem stampSchedule_rows (fails : DbCall → Option PyError) (now : DateTime) (scheduleId : Uuid) (s : Stores T) :
    (stampSchedule fails now scheduleId s).2.jobs = s.jobs ∧
      ∀ id, ((stampSchedule fails now scheduleId s).2.rows.find id).map Schedule.unstamped =
        (s.rows.find id).map Schedule.unstamped := by
  rcases hrun : stampSchedule fails now scheduleId s with ⟨e | _, t⟩
  · rw [stampSchedule_error hrun]
    exact ⟨rfl, fun _ => rfl⟩
  · obtain ⟨_, u, hcall, hrest⟩ := Eff.bind_eq_ok.mp (Tables.transaction_ok hrun)
    obtain rfl := Tables.call_ok hcall
    rw [Eff.gets_bind_run] at hrest
    cases hfound : u.rows.find scheduleId with
    | none =>
      simp only [hfound] at hrest
      cases hrest
      exact ⟨rfl, fun _ => rfl⟩
    | some row =>
      simp only [hfound] at hrest
      obtain ⟨_, v, hflush, hmodify⟩ := Eff.bind_eq_ok.mp hrest
      obtain rfl := Tables.call_ok hflush
      cases hmodify
      refine ⟨rfl, fun id => ?_⟩
      have hid : row.id = scheduleId := v.rows.keyed hfound
      subst hid
      show ((v.rows.put { row with lastTriggered := some now }).find id).map _ = _
      by_cases hsame : id = row.id
      · rw [hsame, hfound, ScheduleTable.find_put_self _ { row with lastTriggered := some now }]
        rfl
      · exact congrArg _ (@ScheduleTable.find_put_of_ne v.rows { row with lastTriggered := some now } id hsame)

end House

namespace Setup
variable {σ R T : Type} {a : Setup σ R T} {fails : DbCall → Option PyError}

theorem onlyStamped_framed : a.Framed (T := T) House.OnlyStamped where
  refl := .refl
  trans := .trans
  world _ _ := ⟨rfl, rfl, rfl, rfl, fun _ => rfl, rfl, List.prefix_rfl⟩
  changes _ _ := ⟨rfl, rfl, rfl, rfl, fun _ => rfl, rfl, List.prefix_rfl⟩
  guard token role h := ⟨rfl, House.currentUser_sameRows a.jwt token role h, rfl, rfl, fun _ => rfl, rfl, List.prefix_rfl⟩

theorem onlyStamped_stamped : Stamped (σ := σ) (T := T) fails House.OnlyStamped where
  commitTriggered stamps h := by
    obtain ⟨f, hrows, hstamp⟩ := @House.commitTriggered_rows fails stamps h.rules
    refine ⟨rfl, rfl, rfl, rfl, fun _ => rfl, ?_, List.prefix_rfl⟩
    dsimp only
    rw [hrows, List.map_map]
    refine List.map_congr_left fun rule _ => ?_
    obtain ⟨lastTriggered, hrule⟩ := hstamp rule
    rw [Function.comp_apply, hrule]
    rfl
  stampSchedule now id h := by
    obtain ⟨hjobs, hrows⟩ := House.stampSchedule_rows fails now id h.schedules
    exact ⟨rfl, rfl, rfl, hjobs, hrows, rfl, List.prefix_rfl⟩

/-- What needs no user writes time stamps and the log only. -/
theorem onlyStamped_writes {op : Operation σ} (hop : ∀ token role, op.guard = some (token, role) → role = .viewer) :
    a.Writes (T := T) fails House.OnlyStamped op := by
  cases op with
  | turnOn token | turnOff token | setTemperature token | setBrightness token => cases hop token .user rfl
  | updateDevice token | schedule token | rule token => cases hop token .user rfl
  | discover token draws => cases hop token .admin rfl
  | group token request =>
    have hviewer : request.guard.1 = .viewer := hop token _ rfl
    cases request <;> cases hviewer
  | user token request =>
    exact fun h => ⟨rfl, usersAfter_rows (hop token _ rfl) h.users, rfl, rfl, fun _ => rfl, rfl, List.prefix_rfl⟩
  | job | evaluateAllRules => exact onlyStamped_stamped
  | writeEvent => exact fun h audit hwritten => ⟨rfl, rfl, rfl, rfl, fun _ => rfl, rfl, hwritten⟩
  | elapse => trivial

theorem onlyStamped_settled : House.Settled (House.OnlyStamped (σ := σ) (T := T)) where
  refl := .refl
  trans := .trans
  failing _ _ := ⟨rfl, rfl, rfl, rfl, fun _ => rfl, rfl, List.prefix_rfl⟩
  untouched h := h.onlyStamped
  users h := h.users

/-- Viewers, and whoever has no valid token, change nothing in the tables, in any order of their requests with jobs,
    passes over the rules and failures. -/
theorem runs_of_viewers [DeviceReading R] (a : Setup σ R T) {h : House σ T} (hintact : h.Intact) (cache : TtlCache R)
    {es : List (AuditStep σ)} (hbelow : a.Below .user h.users.rows es) {t : Cached (House σ T) R}
    (hvisit : Visits a.step { world := h, cache } es t) : h.OnlyStamped t.world := by
  refine runs_below onlyStamped_settled (fun {fails op s} hasks hs => ?_) hintact hbelow hvisit
  refine onlyStamped_framed.program (onlyStamped_writes fun token role hguard => ?_) s
  have hlevel := hasks token role hguard
  cases role with
  | viewer => rfl
  | user | admin => exact absurd hlevel (by decide)

/-- Anna changes her account, and a job comes to its turn. -/
def evening : List (AuditStep MockProvider) :=
  [{ op := .user "anna's token" (.updateMe { fullName := some "Anna" }) }, intrusion, { op := .job 1 }]

/-- Anna, who is a viewer, is let in, but her change fails; the schedule of the job gets its time stamp. -/
theorem intruder_changes_nothing : ∃ t,
    run home.step { world := annasHousehold .viewer, cache := .empty } evening = some t ∧
      t.world.changes.length = 1 ∧ (annasHousehold .viewer).OnlyStamped t.world :=
  ⟨_, rfl, by decide, runs_of_viewers home (annasHousehold_intact .viewer) .empty (annasHousehold_below (by decide) _)
    ⟨evening, List.prefix_rfl, rfl⟩⟩

end Setup
end SmartHome
