import SmartHome.House.Integrity
import SmartHome.Ui.AuthFetch

/-! # How long a browser stays signed in

The calls of a browser to endpoints behind `require_role`, over the users table, the clock and the refresh cookie. Of the
handlers, only the one for a new password answers 401 itself. -/

namespace SmartHome.Ui
open Orm Users Auth Run

/-- The users and the clock, and the calls to the database that fail now. -/
abbrev Gate := AuthState × (DbCall → Option PyError)

/-- A request behind `require_role`. -/
inductive GuardedRequest where
  /-- The role that the endpoint asks for. -/
  | endpoint (role : Role)
  /-- `POST /api/v1/users/me/password`; the new hash depends on the salt. -/
  | changePassword (salt : String) (data : PasswordChange)

/-- The guard, and the handler as far as it answers 401. -/
def serveGuarded (env : AuthEnv) (now : DateTime) (token : String) : GuardedRequest → Py Users.World Unit
  | .endpoint role => do
    let _ ← requireRole (env.jose.jwt now) role token
    pure ()
  | .changePassword salt data => Api.changePassword env.passwords (env.jose.jwt now) token salt data

/-- The guarded endpoints, and the refresh with the cookie of the browser. -/
def authServer (env : AuthEnv) (client : ℕ) : Server Gate GuardedRequest where
  handle token request s :=
    let (result, world) := serveGuarded env s.1.now token request (s.1.database s.2)
    (denied result, ({ s.1 with world }, s.2))
  refresh s :=
    let (result, world) := serveRefresh env s.1 (s.1.cookie client) (s.1.database s.2)
    (result.toOption.map fun reply => reply.accessToken, ({ s.1 with world }, s.2))

/-- The browser holds a valid refresh token of a user who is stored, and the database answers. -/
structure SignedIn (env : AuthEnv) (client : ℕ) (userId : Uuid) (s : Gate) : Prop where
  distinct : s.1.world.Distinct Users.mapper
  select : s.2 .select = none
  commit : s.2 .commit = none
  cookie : ∃ token user, s.1.cookie client = some token ∧ Refreshable env.jose s.1.now s.1.world.rows token user ∧
    user.id = userId

/-- An access token of the user, expired or not. -/
def AccessToken (jose : Jose) (userId : Uuid) (token : String) : Prop :=
  ∃ claims, jose.Signed token claims ∧ claims.type = some "access" ∧ claims.sub = some userId

/-- A correctly signed token whose time is over. -/
def Expired (jose : Jose) (now : DateTime) (token : String) : Prop :=
  ∃ claims, jose.Signed token claims ∧ claims.exp < now

/-- The request asks for a new password of the user, who is let in, and gives a wrong current one. -/
def WrongPassword (passwords : Passwords) (userId : Uuid) (rows : List User) : GuardedRequest → Prop
  | .endpoint _ => False
  | .changePassword _ data => ∃ user ∈ rows, user.id = userId ∧ user.isActive = true ∧
    hasRole user.role Role.viewer.value = true ∧
      passwords.verifyPassword data.currentPassword user.hashedPassword = .ok false

/-- The exceptions of bcrypt are not answered 401. -/
structure NeverDenied (passwords : Passwords) : Prop where
  verify : ∀ password hashed, denied (passwords.verifyPassword password hashed) = false
  hash : ∀ salt password, denied (passwords.hashPassword salt password) = false

section Gate
variable {env : AuthEnv} {client : ℕ} {userId : Uuid} {s : Gate}

theorem refresh_of_signedIn (hjose : env.jose.Faithful) (h : SignedIn env client userId s) :
    ∃ token, ((authServer env client).refresh s).1 = some token ∧ AccessToken env.jose userId token := by
  obtain ⟨token, user, hcookie, hrefreshable, hid⟩ := h.cookie
  have hok := (serveRefresh_ok_iff hjose h.distinct (s.1.cookie client) s.2 _).mpr
    ⟨h.select, h.commit, token, user, hcookie, hrefreshable, rfl⟩
  refine ⟨createAccessToken env.jose env.settings s.1.now user.id user.role, ?_, _, hjose.encode _, rfl, congrArg some hid⟩
  simp only [authServer, hok]
  rfl

/-- A refresh that is answered with a token has written nothing. -/
theorem serveRefresh_rows {s : AuthState} (hdistinct : s.world.Distinct Users.mapper) {cookie : Option String}
    {fails : DbCall → Option PyError} {response : Api.TokenResponse}
    (hok : (serveRefresh env s cookie (s.database fails)).1 = .ok response) :
    (serveRefresh env s cookie (s.database fails)).2.rows = s.world.rows := by
  obtain ⟨u, v, hbody, hcommit, hrows⟩ := getDb_ok (Prod.ext hok rfl)
  refine hrows.trans ?_
  cases cookie with
  | none => cases hbody
  | some token =>
    dsimp only at hbody
    cases hdecode : decodeRefreshToken (env.jose.jwt s.now) token with
    | none =>
      rw [hdecode] at hbody
      cases hbody
    | some payload =>
      rw [hdecode] at hbody
      dsimp only at hbody
      cases hsub : payload.sub with
      | none =>
        rw [hsub] at hbody
        cases hbody
      | some userId =>
        rw [hsub] at hbody
        obtain ⟨r, x, hget, hrest⟩ := Eff.bind_eq_ok.mp hbody
        obtain ⟨user, -, -, hsynced, hsession, hholds⟩ := getById_holds (database_distinct hdistinct fails) hget
        rw [Eff.bind_of_ok (read_of_holds hholds)] at hrest
        cases hrest
        rw [commit_synced_run hsynced (commit_ok_fails hcommit)] at hcommit
        cases hcommit
        exact hsession

theorem serveGuarded_rows (now : DateTime) (token : String) (request : GuardedRequest) (w : Users.World) :
    (serveGuarded env now token request w).2.rows = w.rows := by
  cases request with
  | endpoint role =>
    exact Eff.Keeps.bind (R := SameRows) sameRows_trans (requireRole_sameRows _ role token)
      (fun _ => .pure (R := SameRows) (fun _ => rfl) _) w
  | changePassword salt data => exact (changePassword_raises _ _ token salt data w).2

theorem serveGuarded_keepsDistinct (now : DateTime) (token : String) (request : GuardedRequest) :
    Eff.Keeps (KeepsDistinct Users.mapper) (serveGuarded env now token request) := by
  cases request with
  | endpoint role => exact keepsDistinct_seq (requireRole_keepsDistinct role token) fun _ => keepsDistinct_pure ()
  | changePassword salt data =>
    exact guarded_keepsDistinct .viewer token fun user session =>
      keepsDistinct_seq (changePassword_keepsDistinct salt user data) fun _ => keepsDistinct_pure ()

/-- Serving a request does not sign anybody out. -/
theorem handle_signedIn (h : SignedIn env client userId s) (token : String) (request : GuardedRequest) :
    SignedIn env client userId ((authServer env client).handle token request s).2 where
  distinct := serveGuarded_keepsDistinct s.1.now token request (s.1.database s.2) (database_distinct h.distinct s.2)
  select := h.select
  commit := h.commit
  cookie := by
    have hrows : ((authServer env client).handle token request s).2.1.world.rows = s.1.world.rows :=
      serveGuarded_rows s.1.now token request (s.1.database s.2)
    rw [hrows]
    exact h.cookie

theorem refresh_signedIn (hjose : env.jose.Faithful) (h : SignedIn env client userId s) :
    SignedIn env client userId ((authServer env client).refresh s).2 where
  distinct := refresh_keepsDistinct env s.1 _ (s.1.database s.2) (database_distinct h.distinct s.2)
  select := h.select
  commit := h.commit
  cookie := by
    obtain ⟨token, user, hcookie, hrefreshable, -⟩ := id h.cookie
    have hok := (serveRefresh_ok_iff hjose h.distinct (s.1.cookie client) s.2 _).mpr
      ⟨h.select, h.commit, token, user, hcookie, hrefreshable, rfl⟩
    have hrows : ((authServer env client).refresh s).2.1.world.rows = s.1.world.rows := serveRefresh_rows h.distinct hok
    rw [hrows]
    exact h.cookie

/-- What the guard does with a token that has not expired: it lets the user in, or answers 403. -/
theorem requireRole_of_fresh (hjose : env.jose.Faithful) (h : SignedIn env client userId s) {token : String}
    (htoken : AccessToken env.jose userId token) (hfresh : ¬ Expired env.jose s.1.now token) (role : Role) :
    ∃ user ∈ s.1.world.rows, user.id = userId ∧
      ((∃ detail t, requireRole (env.jose.jwt s.1.now) role token (s.1.database s.2) =
          (.error (.app (.forbidden detail)), t) ∧ ¬ (user.isActive = true ∧ hasRole user.role role.value = true)) ∨
        ∃ r t, requireRole (env.jose.jwt s.1.now) role token (s.1.database s.2) = (.ok r, t) ∧
          ∃ payload, decodeAccessToken (env.jose.jwt s.1.now) token = some payload ∧ payload.sub = some user.id ∧
            user.isActive = true ∧ hasRole user.role role.value = true) := by
  obtain ⟨claims, hsigned, htype, hsub⟩ := htoken
  have hlater : s.1.now ≤ claims.exp := Int.not_lt.mp fun hexp => hfresh ⟨claims, hsigned, hexp⟩
  have hdecode : decodeAccessToken (env.jose.jwt s.1.now) token = some { sub := claims.sub, type := claims.type } := by
    rw [decodeAccessToken_eq, decodeToken_eq_some hjose]
    exact ⟨claims, ⟨hsigned, hlater⟩, htype, rfl⟩
  obtain ⟨-, stored, -, ⟨-, -, -, -, hmem⟩, hid⟩ := h.cookie
  simp only [requireRole, hdecode, hsub]
  rcases getById_cases (database_distinct h.distinct s.2) userId with
    ⟨e, hfails, -⟩ | ⟨-, hnone, -⟩ | ⟨user, huser, -, huserId, hfound⟩
  · rw [show (s.1.database s.2).fails .select = none from h.select] at hfails
    cases hfails
  · exact absurd hid (hnone stored hmem)
  · refine ⟨user, huser, huserId, ?_⟩
    have hread : read mapper (s.1.database s.2).refs (((s.1.database s.2).openSession.attach (s.1.database s.2).sessions
        { value := user, loaded := some user }).putSession (s.1.database s.2).sessions {}) = (.ok user, _) :=
      read_run (o := { value := user, loaded := some user }) (by simp [World.attach])
    rw [Eff.bind_of_ok (withSession_run hfound)]
    dsimp only
    rw [Eff.bind_of_ok hread]
    cases hactive : user.isActive with
    | false => exact Or.inl ⟨_, _, rfl, fun hboth => Bool.false_ne_true hboth.1⟩
    | true =>
      cases hrole : hasRole user.role role.value with
      | false => exact Or.inl ⟨_, _, rfl, fun hboth => Bool.false_ne_true hboth.2⟩
      | true => exact Or.inr ⟨_, _, rfl, _, rfl, congrArg some huserId.symm, rfl, rfl⟩

theorem denied_of_expired (hjose : env.jose.Faithful) {token : String} {request : GuardedRequest}
    (hexpired : Expired env.jose s.1.now token) : ((authServer env client).handle token request s).1 = true := by
  obtain ⟨claims, hsigned, hexp⟩ := hexpired
  have hdecode : decodeAccessToken (env.jose.jwt s.1.now) token = none := by
    refine Option.eq_none_iff_forall_ne_some.mpr fun payload hpayload => ?_
    rw [decodeAccessToken_eq, decodeToken_eq_some hjose] at hpayload
    obtain ⟨claims', ⟨hsigned', hlater⟩, -⟩ := hpayload
    obtain rfl := hjose.unique hsigned hsigned'
    exact absurd hlater (Int.not_le.mpr hexp)
  cases request with
  | endpoint | changePassword =>
    simp only [authServer, serveGuarded, Api.changePassword, requireRole_of_no_payload _ hdecode]
    rfl

/-- Of a user who is let in, the request for a new password is answered 401 exactly if the current one is wrong. -/
theorem denied_changePassword_iff (hpasswords : NeverDenied env.passwords) (hselect : s.2 .select = none) {user : User}
    {token : String} (hin : Users.SignedIn (env.jose.jwt s.1.now) (s.1.database s.2) token user) (salt : String)
    (data : PasswordChange) :
    ((authServer env client).handle token (.changePassword salt data) s).1 = true ↔
      env.passwords.verifyPassword data.currentPassword user.hashedPassword = .ok false := by
  have hanswer : (Api.changePassword env.passwords (env.jose.jwt s.1.now) token salt data (s.1.database s.2)).1 = _ :=
    changePassword_answer hin hselect
  have hverify := hpasswords.verify data.currentPassword user.hashedPassword
  have hhash := hpasswords.hash salt data.newPassword
  simp only [authServer, serveGuarded, hanswer]
  rcases hcorrect : env.passwords.verifyPassword data.currentPassword user.hashedPassword with e | correct
  · rw [hcorrect] at hverify
    exact iff_of_false (Bool.eq_false_iff.mp ((denied_error e).trans hverify)) fun h => by cases h
  cases correct with
  | false => exact iff_of_true rfl rfl
  | true =>
    rcases hhashed : env.passwords.hashPassword salt data.newPassword with e | hashed
    · rw [hhashed] at hhash
      exact iff_of_false (Bool.eq_false_iff.mp ((denied_error e).trans hhash)) fun h => by cases h
    · exact iff_of_false Bool.false_ne_true fun h => by cases h

/-- A request with a token that has not expired is answered 401 exactly if it gives a wrong password. -/
theorem denied_of_fresh_iff (hjose : env.jose.Faithful) (hpasswords : NeverDenied env.passwords)
    (h : SignedIn env client userId s) {token : String} {request : GuardedRequest}
    (htoken : AccessToken env.jose userId token) (hfresh : ¬ Expired env.jose s.1.now token) :
    ((authServer env client).handle token request s).1 = true ↔
      WrongPassword env.passwords userId s.1.world.rows request := by
  cases request with
  | endpoint role =>
    obtain ⟨-, -, -, ⟨detail, t, hguard, -⟩ | ⟨r, t, hguard, -⟩⟩ := requireRole_of_fresh hjose h htoken hfresh role
    · simp only [authServer, serveGuarded, Eff.bind_of_error hguard]
      exact iff_of_false Bool.false_ne_true not_false
    · simp only [authServer, serveGuarded, Eff.bind_of_ok hguard]
      exact iff_of_false Bool.false_ne_true not_false
  | changePassword salt data =>
    obtain ⟨user, hmem, hid, hcases⟩ := requireRole_of_fresh hjose h htoken hfresh .viewer
    have honly : ∀ other ∈ s.1.world.rows, other.id = userId → other = user := fun other hother hotherId =>
      eq_of_id (database_distinct h.distinct s.2) hother hmem (hotherId.trans hid.symm)
    rcases hcases with ⟨detail, t, hguard, hforbidden⟩ | ⟨r, t, hguard, payload, hdecode, hsub, hactive, hrole⟩
    · simp only [authServer, serveGuarded, Api.changePassword, Eff.bind_of_error hguard]
      refine iff_of_false Bool.false_ne_true ?_
      rintro ⟨other, hother, hotherId, hactive, hrole, -⟩
      obtain rfl := honly other hother hotherId
      exact hforbidden ⟨hactive, hrole⟩
    · have hin : Users.SignedIn (env.jose.jwt s.1.now) (s.1.database s.2) token user :=
        ⟨⟨payload, hdecode, hsub⟩, filter_id_eq (database_distinct h.distinct s.2) hmem, hactive, hrole⟩
      rw [denied_changePassword_iff hpasswords h.select hin]
      constructor
      · exact fun hfalse => ⟨user, hmem, hid, hactive, hrole, hfalse⟩
      · rintro ⟨other, hother, hotherId, -, -, hfalse⟩
        obtain rfl := honly other hother hotherId
        exact hfalse

/-- A request is answered 401 exactly if its token has expired, or it gives a wrong password. -/
theorem denied_iff (hjose : env.jose.Faithful) (hpasswords : NeverDenied env.passwords) (h : SignedIn env client userId s)
    {token : String} {request : GuardedRequest} (htoken : AccessToken env.jose userId token) :
    ((authServer env client).handle token request s).1 = true ↔
      Expired env.jose s.1.now token ∨ WrongPassword env.passwords userId s.1.world.rows request := by
  by_cases hexpired : Expired env.jose s.1.now token
  · exact iff_of_true (denied_of_expired hjose hexpired) (Or.inl hexpired)
  · rw [denied_of_fresh_iff hjose hpasswords h htoken hexpired, or_iff_right hexpired]

end Gate

/-! ## Runs -/

/-- Whatever happens at the server, the refresh token stays valid; no refresh of `authFetch` gets lost, and no request of
    HTMX is refused; other code stores access tokens of the user only. -/
def Undisturbed (env : AuthEnv) (client : ℕ) (userId : Uuid) (s : Browser Gate GuardedRequest) :
    Event Gate GuardedRequest → Prop
  | .elapse server => SignedIn env client userId server
  | .call id .receive => ∀ call request, s.calls[id]? = some call → call.caller = .htmx request →
      ∀ again, call.stage ≠ .answered true again
  | .call id .lose => ∀ call request, s.calls[id]? = some call → call.caller = .authFetch request →
      call.stage ≠ .refreshing ∧ ∀ token, call.stage ≠ .refreshAnswered token
  | .store token => ∃ t, token = some t ∧ AccessToken env.jose userId t
  | _ => True

/-- The call holds tokens of the user only, and its refresh has not failed. -/
def Lasts (jose : Jose) (userId : Uuid) (call : Call GuardedRequest) : Prop :=
  match call.stage with
  | .asking token _ => AccessToken jose userId token
  | .refreshAnswered token => ∃ t, token = some t ∧ AccessToken jose userId t
  | .refreshed ok => ∀ request, call.caller = .authFetch request → ok = true
  | _ => True

/-- What holds as long as the session lasts. -/
structure Lasting (env : AuthEnv) (client : ℕ) (userId : Uuid) (s : Browser Gate GuardedRequest) : Prop where
  server : SignedIn env client userId s.server
  token : ∃ t, s.token = some t ∧ AccessToken env.jose userId t
  calls : Browser.Each (fun _ call => Lasts env.jose userId call) s.calls
  refused : ∀ handled ∈ s.handled, handled.denied = true ↔ Expired env.jose handled.before.1.now handled.token ∨
    WrongPassword env.passwords userId handled.before.1.world.rows handled.request
  redirects : s.redirects = 0

section Runs
variable {env : AuthEnv} {client : ℕ} {userId : Uuid} {s t : Browser Gate GuardedRequest}

theorem Lasting.getAccessToken (h : Lasting env client userId s) : AccessToken env.jose userId s.getAccessToken := by
  obtain ⟨token, hs, htoken⟩ := h.token
  rw [Browser.getAccessToken, hs]
  exact htoken

/-- What the call does leaves the token one of the user, and nobody is sent to the login page. -/
theorem act_lasts (hjose : env.jose.Faithful) {id : ℕ} {call : Call GuardedRequest} {progress : Progress}
    {s' : Browser Gate GuardedRequest}
    {stage : Stage} (h : Lasting env client userId s) (hcall : s.calls[id]? = some call)
    (hok : Undisturbed env client userId s (.call id progress))
    (hact : s.act (authServer env client) id call progress = some (s', stage)) :
    SignedIn env client userId s'.server ∧ (∃ t, s'.token = some t ∧ AccessToken env.jose userId t) ∧
      s'.redirects = 0 ∧ Lasts env.jose userId { call with stage } := by
  have hlasts := h.calls id call hcall
  obtain ⟨caller, before⟩ := call
  cases progress with
  | serve =>
    cases before with
    | asking token again =>
      obtain ⟨request, -, hact⟩ := Option.map_eq_some_iff.mp hact
      cases hact
      exact ⟨handle_signedIn h.server token request, h.token, h.redirects, trivial⟩
    | refreshing =>
      obtain ⟨token, hrefresh, htoken⟩ := refresh_of_signedIn hjose h.server
      cases hact
      exact ⟨refresh_signedIn hjose h.server, h.token, h.redirects, token, hrefresh, htoken⟩
    | answered | refreshAnswered | refreshed | returned | rejected => cases hact
  | receive =>
    cases before with
    | answered denied again =>
      cases caller with
      | htmx role =>
        cases denied with
        | true => exact absurd rfl (hok _ role hcall rfl again)
        | false =>
          cases again <;> cases hact <;> exact ⟨h.server, h.token, h.redirects, trivial⟩
      | authFetch | timer => cases denied <;> cases again <;> cases hact <;> exact ⟨h.server, h.token, h.redirects, trivial⟩
    | refreshAnswered token =>
      obtain ⟨t, rfl, ht⟩ := hlasts
      cases hact
      exact ⟨h.server, ⟨t, rfl, ht⟩, h.redirects, fun _ _ => rfl⟩
    | asking | refreshing | refreshed | returned | rejected => cases hact
  | lose =>
    cases before with
    | asking | answered =>
      cases hact
      exact ⟨h.server, h.token, h.redirects, trivial⟩
    | refreshing =>
      cases hact
      exact ⟨h.server, h.token, h.redirects, fun role hcaller => absurd rfl (hok _ role hcall hcaller).1⟩
    | refreshAnswered token =>
      cases hact
      exact ⟨h.server, h.token, h.redirects, fun role hcaller => absurd rfl ((hok _ role hcall hcaller).2 token)⟩
    | refreshed | returned | rejected => cases hact
  | resume =>
    cases before with
    | refreshed ok =>
      cases caller with
      | authFetch role =>
        obtain rfl : ok = true := hlasts role rfl
        cases hact
        exact ⟨h.server, h.token, h.redirects, h.getAccessToken⟩
      | htmx | timer => cases ok <;> cases hact
    | asking | answered | refreshing | refreshAnswered | returned | rejected => cases hact

theorem step_lasting (hjose : env.jose.Faithful) (hpasswords : NeverDenied env.passwords)
    (hempty : ∀ claims, ¬ env.jose.Signed "" claims) {e : Event Gate GuardedRequest}
    (h : Lasting env client userId s) (hok : Undisturbed env client userId s e)
    (hstep : s.step (authServer env client) e = some t) : Lasting env client userId t := by
  have hrefused : ∀ handled ∈ t.handled, handled.denied = true ↔
      Expired env.jose handled.before.1.now handled.token ∨
        WrongPassword env.passwords userId handled.before.1.world.rows handled.request := by
    refine Browser.handled_of_step hstep (fun id call token again request he hcall hstage _ => ?_) h.refused
    subst he
    have hlasts : Lasts env.jose userId call := h.calls id call hcall
    have htoken : AccessToken env.jose userId token := by
      unfold Lasts at hlasts
      rw [hstage] at hlasts
      exact hlasts
    exact denied_iff hjose hpasswords h.server htoken
  cases e with
  | fetch | htmx =>
    cases hstep
    exact ⟨h.server, h.token, h.calls.append h.getAccessToken, hrefused, h.redirects⟩
  | timer =>
    cases hstep
    exact ⟨h.server, h.token, h.calls.append trivial, hrefused, h.redirects⟩
  | call id progress =>
    obtain ⟨call, s', stage, hcall, hact, rfl⟩ := Browser.step_call hstep
    obtain ⟨hserver, htoken, hredirects, hlasts⟩ := act_lasts hjose h hcall hok hact
    exact ⟨hserver, htoken, h.calls.set (fun _ _ _ hother => hother) hlasts, hrefused, hredirects⟩
  | store token =>
    cases hstep
    exact ⟨h.server, hok, h.calls, hrefused, h.redirects⟩
  | checkAuth path =>
    obtain ⟨claims, hsigned, -⟩ := h.getAccessToken
    have hkept : s.step (authServer env client) (.checkAuth path) = some s := by
      rw [Browser.step, if_neg]
      exact fun hnone => hempty claims (hnone.2 ▸ hsigned)
    rw [hkept] at hstep
    cases hstep
    exact h
  | elapse server =>
    cases hstep
    exact ⟨hok, h.token, h.calls, hrefused, h.redirects⟩

/-- While the refresh token of a user is valid, the browser keeps an access token of the user and is never sent to the
    login page, however long its pages rest and in whatever order their calls, refreshes and retries come; a request is
    answered 401 exactly if its token has expired by then, or it asks for a new password and gives a wrong old one. -/
theorem session_lasts (hjose : env.jose.Faithful) (hpasswords : NeverDenied env.passwords)
    (hempty : ∀ claims, ¬ env.jose.Signed "" claims) {first : Gate}
    (hfirst : SignedIn env client userId first) {token : String} (htoken : AccessToken env.jose userId token)
    {es : List (Event Gate GuardedRequest)}
    (hmeets : Meets (Browser.step (authServer env client)) (Undisturbed env client userId)
      { server := first, token := some token } es)
    (hvisit : Visits (Browser.step (authServer env client)) { server := first, token := some token } es s) :
    (∃ t, s.token = some t ∧ AccessToken env.jose userId t) ∧ s.redirects = 0 ∧
      ∀ handled ∈ s.handled, handled.denied = true ↔ Expired env.jose handled.before.1.now handled.token ∨
        WrongPassword env.passwords userId handled.before.1.world.rows handled.request := by
  have hstart : Lasting env client userId { server := first, token := some token } :=
    ⟨hfirst, ⟨token, rfl, htoken⟩, fun _ _ hcall => (nomatch hcall), fun _ hmem => absurd hmem List.not_mem_nil, rfl⟩
  obtain ⟨-, hs, -, hrefused, hredirects⟩ := invariant_of_visits (step_lasting hjose hpasswords hempty) hstart hmeets hvisit
  exact ⟨hs, hredirects, hrefused⟩

end Runs

/-! ### An example -/

/-- Anna has logged in at the time 0. -/
def annasGate (now : DateTime) : Gate where
  fst :=
    { world := { rows := exampleTable.rows }, now,
      jar := fun _ => ({} : Api.CookieJar).receive 0
        { key := Api.refreshCookieName, value := createRefreshToken numberedTokens {} 0 2, maxAge := 604800,
          path := Api.refreshPath } }
  snd := fun _ => none

/-- The refresh token is valid for a week. -/
theorem annasGate_signedIn {now : DateTime} (hnow : now < 604800) : SignedIn exampleEnv 0 2 (annasGate now) where
  distinct := ⟨exampleTable.distinct, fun _ => List.Pairwise.nil⟩
  select := rfl
  commit := rfl
  cookie := by
    obtain ⟨claims, hvalid, htype, hsub⟩ :=
      @createRefreshToken_valid numberedTokens now numberedTokens_faithful {} 0 2 (Int.le_of_lt hnow)
    have hcookie : (annasGate now).1.cookie 0 = some (createRefreshToken numberedTokens {} 0 2) := by
      simp [annasGate, AuthState.cookie, Api.CookieJar.send, Api.CookieJar.receive, hnow]
    exact ⟨_, _, hcookie, ⟨claims, hvalid, htype, hsub, List.mem_cons_of_mem _ List.mem_cons_self⟩, rfl⟩

/-- Anna's browser after her login. -/
def annasBrowser : Browser Gate GuardedRequest where
  server := annasGate 0
  token := some (createAccessToken numberedTokens {} 0 2 "user")

theorem saltedPasswords_neverDenied : NeverDenied saltedPasswords := ⟨fun _ _ => rfl, fun _ _ => rfl⟩

theorem numberedTokens_empty (claims : Claims) : ¬ numberedTokens.Signed "" claims := by
  intro hsigned
  have hdigits : [] = (NumberedTokens.encode claims).toList := congrArg String.toList (numberedTokens_signed.mp hsigned)
  rw [NumberedTokens.encode, String.toList_ofList] at hdigits
  exact Nat.toDigits_ne_nil hdigits.symm

/-- Anna comes back to the page when her access token has expired. -/
def annaReturns : List (Event Gate GuardedRequest) := [.elapse (annasGate 1000), .fetch (.endpoint .viewer), .call 0 .serve]

theorem anna_stays_signedIn :
    ∃ s, run (Browser.step (authServer exampleEnv 0)) annasBrowser annaReturns = some s ∧ s.redirects = 0 := by
  refine ⟨_, rfl, (session_lasts numberedTokens_faithful saltedPasswords_neverDenied numberedTokens_empty
    (annasGate_signedIn (by decide)) ⟨_, numberedTokens_faithful.encode _, rfl, rfl⟩ ?_
      ⟨annaReturns, List.prefix_rfl, rfl⟩).2.1⟩
  exact ⟨annasGate_signedIn (by decide), fun _ _ => ⟨trivial, fun _ _ => ⟨trivial, fun _ _ => trivial⟩⟩⟩

end SmartHome.Ui
