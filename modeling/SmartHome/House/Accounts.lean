import SmartHome.House.Authority
import SmartHome.Lib.History
import SmartHome.Lib.OrmSpared
import SmartHome.Users.Startup

/-! # Accounts

An account stays what it is until an administrator names it in a request. As long as no administrator names himself,
there is always one left. -/

namespace SmartHome
open Orm Run

/-! ## Requests on the table of users -/

namespace Users
variable {passwords : Passwords} {jwt : Jwt} {session : SessionId} {w t : World} {x : User}

theorem getById_found {userId : Uuid} {r : Ref} (h : Synced mapper session w)
    (hrun : UserService.getById session userId w = (.ok r, t)) :
    Synced mapper session t ∧ (t.session session).rows = (w.session session).rows ∧
      ∃ user, user.id = userId ∧ Holds session t r user := by
  obtain ⟨found, u, hlookup, hfound⟩ := Eff.bind_eq_ok.mp hrun
  obtain ⟨hsynced, hrows, ⟨rfl, -⟩ | ⟨r', user, -, rfl, hid, hholds⟩⟩ := lookup_synced h hlookup
  · cases hfound
  · cases hfound
    exact ⟨hsynced, hrows, user, beq_iff_eq.mp hid, hholds⟩

theorem update_spares {r a : Ref} (h : Spares mapper session x w) (hrun : UserRepository.update session r w = (.ok a, t)) :
    Spares mapper session x t := by
  obtain ⟨_, u, hflush, hrest⟩ := Eff.bind_eq_ok.mp hrun
  obtain ⟨_, v, hrefresh, hpure⟩ := Eff.bind_eq_ok.mp hrest
  cases hpure
  exact (h.flush hflush).refresh hrefresh

theorem userRead_ok {r : Ref} {reply : Api.UserRead} (hrun : Api.userRead r w = (.ok reply, t)) : t = w := by
  obtain ⟨row, u, hread, hpure⟩ := Eff.bind_eq_ok.mp hrun
  obtain rfl := read_ok hread
  cases hpure
  rfl

/-- A new account takes no other one's place. -/
theorem createUser_spares {id : Uuid} {salt : String} {data : UserCreate} {r : Ref} (h : Synced mapper session w)
    (hx : x ∈ (w.session session).rows) (hrun : UserService.createUser passwords session id salt data w = (.ok r, t)) :
    Spares mapper session x t := by
  obtain ⟨found, u, hlookup, hrest⟩ := Eff.bind_eq_ok.mp hrun
  obtain ⟨hsynced, hrows, -⟩ := lookup_synced h hlookup
  cases found with
  | some user => cases hrest
  | none =>
    obtain ⟨hashedPassword, v, hhash, hcreate⟩ := Eff.bind_eq_ok.mp hrest
    obtain ⟨-, rfl⟩ := Py.ofOutcome_ok hhash
    obtain ⟨added, v', hadd, hcreate⟩ := Eff.bind_eq_ok.mp hcreate
    have hspares := (Spares.of_synced hsynced (hrows ▸ hx)).add hadd
    exact update_spares hspares hcreate

theorem setRole_spares {userId : Uuid} {role : Role} {user requestingUser r : Ref} (h : Synced mapper session w)
    (hx : x ∈ (w.session session).rows) (hother : x.id ≠ userId)
    (hget : UserService.getById session userId w = (.ok user, t)) {u : World}
    (hrun : UserService.setRole session user role requestingUser t = (.ok r, u)) : Spares mapper session x u := by
  obtain ⟨hsynced, hrows, found, rfl, hholds⟩ := getById_found h hget
  obtain ⟨requesting, v, hread, hrest⟩ := Eff.bind_eq_ok.mp hrun
  obtain rfl := read_ok hread
  split at hrest
  · cases hrest
  · obtain ⟨_, v', hassign, hupdate⟩ := Eff.bind_eq_ok.mp hrest
    exact update_spares ((Spares.of_synced hsynced (hrows ▸ hx)).assign hholds hother hassign) hupdate

theorem delete_spares {userId : Uuid} {u : Unit} (h : Synced mapper session w) (hx : x ∈ (w.session session).rows)
    (hother : x.id ≠ userId) (hrun : UserService.delete session userId w = (.ok u, t)) : Spares mapper session x t := by
  obtain ⟨user, v, hget, hrest⟩ := Eff.bind_eq_ok.mp hrun
  obtain ⟨hsynced, hrows, found, rfl, hholds⟩ := getById_found h hget
  obtain ⟨_, v', hdelete, hflush⟩ := Eff.bind_eq_ok.mp hrest
  exact ((Spares.of_synced hsynced (hrows ▸ hx)).delete hholds hother hdelete).flush hflush

/-- A row that the body of a request spares is in the table after the request, whatever becomes of it. -/
theorem guarded_mem {α : Type} {body : Ref → SessionId → Py World α} (role : Role) (token : String)
    (hwithin : ∀ user session, Eff.Keeps (Within session) (body user session)) (hdistinct : w.Distinct mapper)
    (hx : x ∈ w.rows) (hbody : ∀ user session w a t, Synced mapper session w → x ∈ (w.session session).rows →
      body user session w = (.ok a, t) → Spares mapper session x t) :
    x ∈ ((do let user ← requireRole jwt role token; getDb (body user) : Py World α) w).2.rows := by
  have hrows := requireRole_sameRows jwt role token w
  have hkeeps : Eff.Keeps (KeepsDistinct mapper) (requireRole jwt role token) :=
    Auth.requireRole_keepsDistinct role token
  have hafter := hkeeps w hdistinct
  rcases hguard : requireRole jwt role token w with ⟨e | user, u⟩ <;> rw [hguard] at hrows hafter
  · rw [Eff.bind_of_error hguard]
    exact hrows.symm ▸ hx
  · rw [Eff.bind_of_ok hguard]
    have hxu : x ∈ u.rows := hrows.symm ▸ hx
    rcases hrun : getDb (body user) u with ⟨e | a, t⟩
    · have hsame : t.rows = u.rows := transaction_error (m := mapper) (hwithin user) hrun
      exact hsame.symm ▸ hxu
    · obtain ⟨v, v', hbodyRun, hcommit, hcommitted⟩ := getDb_ok hrun
      have hxs : x ∈ (u.openSession.session u.sessions).rows := by
        rw [World.openSession_session]
        exact hxu
      have hspares := hbody user _ _ _ _ (synced_openSession hafter.committed) hxs hbodyRun
      exact hcommitted.symm ▸ hspares.commit hcommit

end Users

/-- The request is about the account with this id, which need not be that of the requester. -/
def UserRequest.names (id : Uuid) : UserRequest → Prop
  | updateUserRole userId _ | deleteUser userId => userId = id
  | updateMe _ | changePassword _ _ | createUser _ _ _ => False

/-- The operation names the account. -/
def Operation.names {σ : Type} (id : Uuid) : Operation σ → Prop
  | user _ request => request.names id
  | _ => False

theorem Operation.guard_of_names {σ : Type} {op : Operation σ} {id : Uuid} (h : op.names id) :
    ∃ token, op.guard = some (token, .admin) := by
  cases op with
  | user token request =>
    cases request with
    | updateUserRole | deleteUser => exact ⟨token, rfl⟩
    | updateMe | changePassword | createUser => cases h
  | _ => cases h

namespace Setup
variable {σ R T : Type} {a : Setup σ R T} {fails : DbCall → Option PyError}

/-- A request leaves the accounts that it does not name as they are. -/
theorem usersAfter_mem {token : String} {request : UserRequest} {w : Users.World} {x : Users.User}
    (hdistinct : w.Distinct Users.mapper) (hx : x ∈ w.rows) (hother : ¬ request.names x.id) :
    x ∈ (a.usersAfter token request w).rows := by
  cases request with
  | updateMe | changePassword =>
    -- The object of the requester is none of this session, and the request fails.
    rw [usersAfter_rows rfl]
    exact hx
  | createUser id salt data =>
    refine Users.guarded_mem .admin token (fun user session => ?_) hdistinct hx fun user session w' read t h hxs hrun => ?_
    · exact .bind (R := Within session) Within.trans (Users.createUser_within id salt data) Users.userRead_within
    · obtain ⟨created, u, hcreate, hread⟩ := Eff.bind_eq_ok.mp hrun
      exact Users.userRead_ok hread ▸ Users.createUser_spares h hxs hcreate
  | updateUserRole userId data =>
    refine Users.guarded_mem .admin token (fun user session => ?_) hdistinct hx fun user session w' read t h hxs hrun => ?_
    · refine .bind (R := Within session) Within.trans (Users.serviceGetById_within userId) fun found => ?_
      exact .bind (R := Within session) Within.trans (Users.setRole_within found data.role user) Users.userRead_within
    · obtain ⟨found, u, hget, hrest⟩ := Eff.bind_eq_ok.mp hrun
      obtain ⟨written, v, hset, hread⟩ := Eff.bind_eq_ok.mp hrest
      exact Users.userRead_ok hread ▸ Users.setRole_spares h hxs (fun heq => hother heq.symm) hget hset
  | deleteUser userId =>
    refine Users.guarded_mem .admin token (fun _ _ => Users.serviceDelete_within userId) hdistinct hx ?_
    exact fun user session w' _ t h hxs hrun => Users.delete_spares h hxs (fun heq => hother heq.symm) hrun

/-! ## In a run -/

/-- The accounts but the named ones stay as they are. -/
def KeepsAccounts (named : Uuid → Prop) (h h' : House σ T) : Prop :=
  h.Intact → h'.Intact ∧ ∀ user ∈ h.users.rows, ¬ named user.id → user ∈ h'.users.rows

variable {named : Uuid → Prop}

theorem KeepsAccounts.of_rows {h h' : House σ T} (hkeeps : KeepsIntact h h') (hrows : h'.users.rows = h.users.rows) :
    KeepsAccounts named h h' := fun hintact =>
  ⟨hkeeps hintact, fun _ huser _ => hrows.symm ▸ huser⟩

theorem keepsAccounts_framed : a.Framed (T := T) (KeepsAccounts named) where
  refl h := .of_rows id rfl
  trans h h' hintact := by
    obtain ⟨hintact₁, hkept⟩ := h hintact
    obtain ⟨hintact₂, hkept'⟩ := h' hintact₁
    exact ⟨hintact₂, fun user huser hother => hkept' user (hkept user huser hother) hother⟩
  world h world := .of_rows ((keepsIntact_framed (a := a)).world h world) rfl
  changes h changes := .of_rows ((keepsIntact_framed (a := a)).changes h changes) rfl
  guard token role h := .of_rows (keepsIntact_framed.guard token role h) (House.currentUser_sameRows a.jwt token role h)

theorem keepsAccounts_writes (op : Operation σ) : a.Writes (T := T) fails (KeepsAccounts fun id => op.names id) op := by
  have hintact : a.Writes (T := T) fails KeepsIntact op := keepsIntact_writes op
  cases op with
  | turnOn | turnOff | setTemperature | setBrightness | writeEvent =>
    exact fun h audit hwritten => .of_rows (hintact h audit hwritten) rfl
  | discover token draws => exact fun devicesInfo h => .of_rows (hintact devicesInfo h) rfl
  | updateDevice token deviceId data flushed => exact fun h => .of_rows (hintact h) rfl
  | group token request | schedule token body now | rule token request =>
    exact fun user h => .of_rows (hintact user h) rfl
  | user token request =>
    exact fun h hbefore => ⟨hintact h hbefore, fun user huser hother => usersAfter_mem hbefore.users huser hother⟩
  | job | evaluateAllRules =>
    exact ⟨fun stamps h => .of_rows (keepsIntact_stamped.commitTriggered stamps h) rfl,
      fun now id h => .of_rows (keepsIntact_stamped.stampSchedule now id h) rfl⟩
  | elapse => trivial

/-- An administrator names the account with this id in the request. -/
def Disposes (a : Setup σ R T) (id : Uuid) (s : Cached (House σ T) R) (e : AuditStep σ) : Prop :=
  e.op.names id ∧ ∃ token, e.op.guard = some (token, .admin) ∧ MayAct a.jwt s.world.users.rows .admin token

variable [DeviceReading R]

/-- A step leaves an account as it is, or an administrator names it. -/
theorem after_mem {s : Cached (House σ T) R} (hs : s.world.Intact) {e : AuditStep σ} {user : Users.User}
    (huser : user ∈ s.world.users.rows) : user ∈ (a.after s e).world.users.rows ∨ a.Disposes user.id s e := by
  by_cases hnames : e.op.names user.id
  · obtain ⟨token, hguard⟩ := Operation.guard_of_names hnames
    by_cases hmay : MayAct a.jwt s.world.users.rows .admin token
    · exact Or.inr ⟨hnames, token, hguard, hmay⟩
    · have hrows : (a.after s e).world.users.rows = s.world.users.rows := (after_untouched hguard hs hmay).users
      exact Or.inl (hrows.symm ▸ huser)
  · have hkeeps : KeepsAccounts (fun id => e.op.names id) (s.world.failing e.fails) (a.after s e).world :=
      keepsAccounts_framed.program (keepsAccounts_writes e.op) { s with world := s.world.failing e.fails }
    exact Or.inl ((hkeeps (intact_failing hs e.fails)).2 user huser hnames)

/-- An account is what it was, with the same password and the same role, until an administrator has named it in a
    request, whatever users, jobs and failures there are in the run. -/
theorem runs_keep_accounts (a : Setup σ R T) {h : House σ T} (hintact : h.Intact) (cache : TtlCache R)
    {es : List (AuditStep σ)} {t : Cached (House σ T) R} (hrun : run a.step { world := h, cache } es = some t) :
    ∀ user ∈ h.users.rows, user ∈ t.world.users.rows ∨ Once a.step (a.Disposes user.id) { world := h, cache } es := by
  let I : List (AuditStep σ) → Cached (House σ T) R → Prop := fun es s => s.world.Intact ∧
    ∀ user ∈ h.users.rows, user ∈ s.world.users.rows ∨ Once a.step (a.Disposes user.id) { world := h, cache } es
  have hend : I es t := by
    refine history_of_run (I := I) ⟨hintact, fun user => Or.inl⟩ ?_ hrun
    intro es e s u hbefore ⟨hs, hkept⟩ hstep
    cases hstep
    refine ⟨after_intact hs e, fun user huser => ?_⟩
    rw [once_concat]
    rcases hkept user huser with hmem | honce
    · exact (after_mem hs hmem).imp_right fun hdisposes => Or.inr ⟨s, hbefore, hdisposes⟩
    · exact Or.inr (Or.inl honce)
  exact hend.2

/-! ### An example -/

omit [DeviceReading R]

/-- A second administrator. -/
def ben : Users.User where
  id := 2
  email := "ben@example.com"
  hashedPassword := "$2b$rainy-day"
  role := "admin"

/-- Anna and Ben are both administrators. -/
def sharedHousehold : House MockProvider ClockTrigger :=
  { household with users := { rows := household.users.rows ++ [ben] } }

theorem sharedHousehold_intact : sharedHousehold.Intact :=
  { household_intact with
    users := ⟨List.pairwise_pair.mpr (by decide), fun _ => List.Pairwise.nil⟩ }

/-- Anna takes Ben's role from him. -/
def demotion : AuditStep MockProvider where
  op := .user "anna's token" (.updateUserRole 2 { role := .viewer })

/-- Ben's account is another one then, and Anna's is what it was. -/
theorem demotion_keeps_anna : ∃ t, run home.step { world := sharedHousehold, cache := .empty } [demotion] = some t ∧
    t.world.users.rows = household.users.rows ++ [{ ben with role := "viewer" }] ∧
      ∀ user ∈ sharedHousehold.users.rows, user ∈ t.world.users.rows ∨
        Once home.step (home.Disposes user.id) { world := sharedHousehold, cache := .empty } [demotion] :=
  ⟨_, rfl, rfl, runs_keep_accounts home sharedHousehold_intact .empty rfl⟩

/-! ### The last administrator -/

/-- Whoever makes this request names the own account in it. -/
def NamesOwn (a : Setup σ R T) (e : AuditStep σ) : Prop :=
  ∃ token role payload id, e.op.guard = some (token, role) ∧ decodeAccessToken a.jwt token = some payload ∧
    payload.sub = some id ∧ e.op.names id

/-- Whoever takes the rights of an administrator is one too, and is left. -/
theorem after_hasUsableAdmin [DeviceReading R] {s : Cached (House σ T) R} (hs : s.world.Intact) {e : AuditStep σ}
    (hother : ¬ a.NamesOwn e) (hadmin : Users.HasUsableAdmin s.world.users.rows) :
    Users.HasUsableAdmin (a.after s e).world.users.rows := by
  obtain ⟨user, hmem, husable⟩ := hadmin
  have hcases : user ∈ (a.after s e).world.users.rows ∨ a.Disposes user.id s e := after_mem hs hmem
  rcases hcases with hkept | ⟨-, token, hguard, hmay⟩
  · exact ⟨user, hkept, husable⟩
  -- The administrator who asks for it is left.
  obtain ⟨payload, asking, hdecode, hsub, hmem, hactive, actual, hactual, hrole⟩ := hmay
  have hadmin : actual = .admin := by
    cases actual with
    | admin => rfl
    | viewer | user => exact absurd hrole (by decide)
  have hcases : asking ∈ (a.after s e).world.users.rows ∨ a.Disposes asking.id s e := after_mem hs hmem
  rcases hcases with hkept | ⟨hnames, -⟩
  · exact ⟨asking, hkept, hadmin ▸ hactual, hactive⟩
  · exact absurd ⟨token, _, payload, asking.id, hguard, hdecode, hsub, hnames⟩ hother

/-- As long as nobody changes or deletes the own account, there is an administrator in every state of a run. -/
theorem runs_keep_admin [DeviceReading R] (a : Setup σ R T) {h : House σ T} (hintact : h.Intact)
    (hadmin : Users.HasUsableAdmin h.users.rows) (cache : TtlCache R) {es : List (AuditStep σ)}
    (hothers : ∀ e ∈ es, ¬ a.NamesOwn e) {t : Cached (House σ T) R}
    (hvisit : Visits a.step { world := h, cache } es t) : Users.HasUsableAdmin t.world.users.rows := by
  let I : Cached (House σ T) R → Prop := fun s => s.world.Intact ∧ Users.HasUsableAdmin s.world.users.rows
  have hstart : I { world := h, cache } := ⟨hintact, hadmin⟩
  have hmeets : Meets a.step (fun _ e => ¬ a.NamesOwn e) { world := h, cache } es :=
    meets_of_mem fun e he _ => hothers e he
  refine (invariant_of_visits (I := I) ?_ hstart hmeets hvisit).2
  intro s e t ⟨hs, hadmin⟩ hother hstep
  cases hstep
  exact ⟨after_intact hs e, after_hasUsableAdmin hs hother hadmin⟩

theorem demotion_leaves_anna :
    Users.HasUsableAdmin (home.after { world := sharedHousehold, cache := .empty } demotion).world.users.rows := by
  refine runs_keep_admin home sharedHousehold_intact ⟨ben, by decide, rfl, rfl⟩ .empty (t := home.after _ demotion) ?_
    ⟨[demotion], List.prefix_rfl, rfl⟩
  rintro e he ⟨token, role, payload, id, hguard, hdecode, hsub, hnames⟩
  rw [List.mem_singleton.mp he] at hguard hnames
  cases hguard
  cases hdecode
  cases hsub
  exact absurd hnames (by decide : (2 : Uuid) ≠ 1)

-- Nothing keeps the last administrator from deleting the own account.
example : (home.after { world := household, cache := .empty }
    { op := .user "anna's token" (.deleteUser 1) }).world.users.rows = [] := rfl

end Setup
end SmartHome
