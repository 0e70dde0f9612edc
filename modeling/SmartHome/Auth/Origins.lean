import SmartHome.Lib.History
import SmartHome.Auth.Logout

/-! # Where tokens come from

Nobody but the server signs tokens, but anybody can keep a token that the server sent, and present it. Whoever is let
into a handler goes back to a login with the password of this account, and a refresh does not put off the end of what
the login gave. -/

namespace SmartHome

/-- For how long after a login its tokens, and the tokens that refreshes give for them, are accepted. -/
def TokenSettings.sessionSeconds (settings : TokenSettings) : Int :=
  max 0 (settings.refreshTokenExpireDays * 86400) + settings.accessTokenExpireMinutes * 60

namespace Auth
open Orm Users Run Api

/-- The step is a login at `time` with the password of the account, which is active. -/
structure GivesPassword (env : AuthEnv) (userId : Uuid) (time : DateTime) (s : AuthState) (e : AuthStep) : Prop where
  now : s.now = time
  login : ∃ client data, e.event = .login client data ∧ ∃ user ∈ s.world.rows, user.id = userId ∧
    user.email = data.email ∧ user.isActive = true ∧
      env.passwords.verifyPassword data.password user.hashedPassword = .ok true

/-- The tokens in the answer to the step. -/
def sent (env : AuthEnv) (s : AuthState) (e : AuthStep) : List String :=
  match e.event with
  | .login _ data =>
    match (serveLogin env s data (s.database e.fails)).1 with
    | .ok (response, header) => [response.accessToken, header.value]
    | .error _ => []
  | .refresh client =>
    ((serveRefresh env s (s.cookie client) (s.database e.fails)).1.toOption.map fun reply => reply.accessToken).toList
  | .present cookie =>
    ((serveRefresh env s cookie (s.database e.fails)).1.toOption.map fun reply => reply.accessToken).toList
  | _ => []

/-- The second text carries the claims of the first. -/
def Respelled (jose : Jose) (token token' : String) : Prop :=
  ∃ claims, jose.Signed token claims ∧ jose.Signed token' claims

section
variable (env : AuthEnv) (start : AuthState) (es : List AuthStep)

/-- What somebody without the key can present: what the server sent, in whatever spelling, and what is no token at all. -/
def Known (token : String) : Prop :=
  (∃ kept, Once (step env) (fun s e => kept ∈ sent env s e) start es ∧ Respelled env.jose kept token) ∨
    ∀ now, env.jose.decode now token = none

/-- Nobody but the server signs tokens. -/
def NobodySigns : Prop :=
  ∀ before e token, before ++ [e] <+: es → e.event = .present (some token) → Known env start before token

/-- A login of this account has happened, with its password. -/
def LoggedIn (userId : Uuid) (time : DateTime) : Prop := Once (step env) (GivesPassword env userId time) start es

/-- A token that goes back to a login. -/
inductive Backed (token : String) : Prop
  | refresh (userId : Uuid) (time : DateTime) (login : LoggedIn env start es userId time)
      (eq : token = createRefreshToken env.jose env.settings time userId)
  | access (userId : Uuid) (time now : DateTime) (role : String) (login : LoggedIn env start es userId time)
      (now_le : now ≤ time + max 0 (env.settings.refreshTokenExpireDays * 86400))
      (eq : token = createAccessToken env.jose env.settings now userId role)

/-- All cookies and all tokens that were sent go back to logins. -/
structure AllBacked (s : AuthState) : Prop where
  distinct : s.world.Distinct Users.mapper
  cookies : ∀ client key cookie, (s.jar client).cookie key = some cookie →
    ∃ userId time, LoggedIn env start es userId time ∧
      cookie.1 = createRefreshToken env.jose env.settings time userId
  sent : ∀ token, Once (step env) (fun s e => token ∈ sent env s e) start es → Backed env start es token

end

section
variable {env : AuthEnv} {start s t : AuthState} {es : List AuthStep} {e : AuthStep}

theorem LoggedIn.later {userId : Uuid} {time : DateTime} (h : LoggedIn env start es userId time) (e : AuthStep) :
    LoggedIn env start (es ++ [e]) userId time :=
  Once.later h (List.prefix_append es [e])

theorem Backed.later {token : String} (h : Backed env start es token) (e : AuthStep) :
    Backed env start (es ++ [e]) token := by
  cases h with
  | refresh userId time login eq => exact .refresh userId time (login.later e) eq
  | access userId time now role login now_le eq => exact .access userId time now role (login.later e) now_le eq

/-! ### Logins -/

theorem authenticate_verifies {passwords : Passwords} {w u : Users.World} {email password : String} {r : Ref}
    (hdistinct : w.Distinct Users.mapper)
    (hrun : UserService.authenticate passwords w.sessions email password w.openSession = (.ok r, u)) :
    ∃ user ∈ w.rows, user.email = email ∧ user.isActive = true ∧
      passwords.verifyPassword password user.hashedPassword = .ok true ∧ Holds w.sessions u r user := by
  obtain ⟨found, v, hlookup, hfound⟩ := Eff.bind_eq_ok.mp hrun
  cases found with
  | none => cases hfound
  | some r' =>
    obtain ⟨user, hmem, hemail, -, -, hholds⟩ := lookup_holds hdistinct.committed hlookup
    dsimp only at hfound
    rw [Eff.bind_of_ok (read_of_holds hholds)] at hfound
    obtain ⟨correct, x, hverify, hchecks⟩ := Eff.bind_eq_ok.mp hfound
    obtain ⟨houtcome, rfl⟩ := Py.ofOutcome_ok hverify
    split at hchecks
    · cases hchecks
    next hcorrect =>
      split at hchecks
      · cases hchecks
      next hactive =>
        cases hchecks
        rw [Bool.not_eq_true', Bool.not_eq_false] at hcorrect hactive
        subst hcorrect
        exact ⟨user, hmem, beq_iff_eq.mp hemail, hactive, houtcome, hholds⟩

theorem serveLogin_gives (hdistinct : s.world.Distinct Users.mapper) (client : ℕ) {data : LoginRequest}
    {fails : DbCall → Option PyError} {response : TokenResponse} {header : SetCookie}
    (hok : (serveLogin env s data (s.database fails)).1 = .ok (response, header)) :
    ∃ userId role, GivesPassword env userId s.now s { event := .login client data, fails } ∧
      response.accessToken = createAccessToken env.jose env.settings s.now userId role ∧
        header.value = createRefreshToken env.jose env.settings s.now userId := by
  obtain ⟨u, v, hbody, -, -⟩ := getDb_ok (Prod.ext hok rfl)
  obtain ⟨r, x, hauthenticate, hrest⟩ := Eff.bind_eq_ok.mp hbody
  obtain ⟨user, hmem, hemail, hactive, hverify, hholds⟩ :=
    authenticate_verifies (database_distinct hdistinct fails) hauthenticate
  rw [Eff.bind_of_ok (read_of_holds hholds)] at hrest
  cases hrest
  exact ⟨user.id, user.role, ⟨rfl, client, data, rfl, user, hmem, rfl, hemail, hactive, hverify⟩, rfl, rfl⟩

/-! ### Refreshes -/

theorem Backed.respelled (hjose : env.jose.Faithful) {token : String} (h : Backed env start es token) :
    Respelled env.jose token token := by
  cases h with
  | refresh userId time login eq =>
    subst eq
    exact ⟨_, hjose.encode _, hjose.encode _⟩
  | access userId time now role login now_le eq =>
    subst eq
    exact ⟨_, hjose.encode _, hjose.encode _⟩

/-- A refresh token that goes back to a login is accepted for as long as the login says. -/
theorem Backed.refreshable (hjose : env.jose.Faithful) {kept token : String} (h : Backed env start es kept)
    (hspelled : Respelled env.jose kept token) {now : DateTime} {rows : List User} {user : User}
    (hrefreshable : Refreshable env.jose now rows token user) :
    ∃ time, LoggedIn env start es user.id time ∧ now ≤ time + env.settings.refreshTokenExpireDays * 86400 := by
  obtain ⟨claims, ⟨htoken, hlater⟩, htype, hsub, -⟩ := hrefreshable
  obtain ⟨claims', hkept, htoken'⟩ := hspelled
  obtain rfl := hjose.unique htoken htoken'
  cases h with
  | refresh userId time login eq =>
    subst eq
    obtain rfl := hjose.unique hkept (hjose.encode _)
    cases hsub
    exact ⟨time, login, hlater⟩
  | access userId time now role login now_le eq =>
    subst eq
    obtain rfl := hjose.unique hkept (hjose.encode _)
    simp at htype

/-- What a refresh answers to a token that goes back to a login. -/
theorem serveRefresh_backed (hjose : env.jose.Faithful) (hdistinct : s.world.Distinct Users.mapper)
    {cookie : Option String} (hcookie : ∀ token, cookie = some token →
      (∃ kept, Backed env start es kept ∧ Respelled env.jose kept token) ∨ ∀ now, env.jose.decode now token = none)
    {fails : DbCall → Option PyError} {response : TokenResponse}
    (hok : (serveRefresh env s cookie (s.database fails)).1 = .ok response) :
    Backed env start es response.accessToken := by
  obtain ⟨-, -, token, user, rfl, hrefreshable, rfl⟩ := (serveRefresh_ok_iff hjose hdistinct cookie fails response).mp hok
  rcases hcookie token rfl with ⟨kept, hbacked, hspelled⟩ | hnone
  · obtain ⟨time, hlogin, hlater⟩ := hbacked.refreshable hjose hspelled hrefreshable
    have hmax := le_max_right 0 (env.settings.refreshTokenExpireDays * 86400)
    exact .access user.id time s.now user.role hlogin (hlater.trans (Int.add_le_add_left hmax time)) rfl
  · obtain ⟨claims, hvalid, -⟩ := hrefreshable
    have hdecode := (hjose.decode s.now token claims).mpr hvalid
    rw [hnone] at hdecode
    cases hdecode

/-! ### Runs -/

theorem AllBacked.refreshCookie {s : AuthState} (h : AllBacked env start es s) {client : ℕ} {token : String}
    (hcookie : s.cookie client = some token) : Backed env start es token := by
  obtain ⟨cookie, hjar, hsend⟩ := Option.bind_eq_some_iff.mp hcookie
  split at hsend
  · cases hsend
    obtain ⟨userId, time, hlogin, htoken⟩ := h.cookies client _ cookie hjar
    exact .refresh userId time hlogin htoken
  · cases hsend

/-- The answer to a step consists of tokens that go back to logins, this one included. -/
theorem sent_backed (hjose : env.jose.Faithful) (hrun : run (step env) start es = some s) (hs : AllBacked env start es s)
    (hsigns : ∀ token, e.event = .present (some token) → Known env start es token) {token : String}
    (hsent : token ∈ sent env s e) : Backed env start (es ++ [e]) token := by
  obtain ⟨event, fails⟩ := e
  have hrefreshed : ∀ cookie, (∀ token, cookie = some token →
      (∃ kept, Backed env start es kept ∧ Respelled env.jose kept token) ∨ ∀ now, env.jose.decode now token = none) →
      token ∈ ((serveRefresh env s cookie (s.database fails)).1.toOption.map fun reply => reply.accessToken).toList →
      Backed env start (es ++ [⟨event, fails⟩]) token := by
    intro cookie hcookie hmem
    rw [Option.mem_toList, Option.map_eq_some_iff] at hmem
    obtain ⟨response, hresponse, rfl⟩ := hmem
    cases hreply : (serveRefresh env s cookie (s.database fails)).1 with
    | error e =>
      rw [hreply] at hresponse
      cases hresponse
    | ok reply =>
      rw [hreply] at hresponse
      cases hresponse
      exact (serveRefresh_backed hjose hs.distinct hcookie hreply).later _
  cases event with
  | login client data =>
    unfold sent at hsent
    dsimp only at hsent
    split at hsent
    · next response header hreply =>
      obtain ⟨userId, role, hgives, haccess, hrefresh⟩ := serveLogin_gives hs.distinct client hreply
      have hlogin : LoggedIn env start (es ++ [⟨.login client data, fails⟩]) userId s.now :=
        once_concat.mpr (Or.inr ⟨s, hrun, hgives⟩)
      rw [List.mem_cons, List.mem_singleton] at hsent
      rcases hsent with rfl | rfl
      · exact .access userId s.now s.now role hlogin (Int.le_add_of_nonneg_right (le_max_left 0 _)) haccess
      · exact .refresh userId s.now hlogin hrefresh
    · exact absurd hsent List.not_mem_nil
  | refresh client =>
    refine hrefreshed _ (fun token hcookie => Or.inl ⟨token, hs.refreshCookie hcookie, ?_⟩) hsent
    exact (hs.refreshCookie hcookie).respelled hjose
  | present cookie =>
    refine hrefreshed cookie (fun token hcookie => ?_) hsent
    exact (hsigns token (congrArg AuthEvent.present hcookie)).imp_left fun ⟨kept, hkept, hspelled⟩ =>
      ⟨kept, hs.sent kept hkept, hspelled⟩
  | logout | account | tick => exact absurd hsent List.not_mem_nil

/-- Where the cookies of the next state come from: the jars, and the answer to a login. -/
theorem cookie_of_step (hstep : step env s e = some t) {client : ℕ} {key : String × String} {cookie : String × DateTime}
    (hcookie : (t.jar client).cookie key = some cookie) :
    (s.jar client).cookie key = some cookie ∨ ∃ data response header, e.event = .login client data ∧
      (serveLogin env s data (s.database e.fails)).1 = .ok (response, header) ∧ cookie.1 = header.value := by
  have hreceived : ∀ (u : AuthState) (other : ℕ) (header : SetCookie), u.jar = s.jar → t = u.receive other header →
      (s.jar client).cookie key = some cookie ∨ client = other ∧ 0 < header.maxAge ∧ cookie.1 = header.value := by
    rintro u other header hjar rfl
    by_cases hclient : client = other
    · subst hclient
      simp only [AuthState.receive, Function.update_self, CookieJar.receive, hjar] at hcookie
      by_cases hkey : key = (header.key, header.path)
      · rw [hkey, Function.update_self] at hcookie
        split at hcookie
        · cases hcookie
        · next hage =>
          cases hcookie
          exact Or.inr ⟨rfl, not_le.mp hage, rfl⟩
      · rw [Function.update_of_ne hkey] at hcookie
        exact Or.inl hcookie
    · rw [receive_jar_of_ne header hclient, hjar] at hcookie
      exact Or.inl hcookie
  unfold step at hstep
  split at hstep
  · next other data hevent =>
    split at hstep
    · next response header world hserve =>
      cases hstep
      rcases hreceived { s with world } other header rfl rfl with hold | ⟨rfl, -, hvalue⟩
      · exact Or.inl hold
      · exact Or.inr ⟨data, response, header, hevent, congrArg Prod.fst hserve, hvalue⟩
    · cases hstep
      exact Or.inl hcookie
  · cases hstep
    exact Or.inl hcookie
  · cases hstep
    exact Or.inl hcookie
  · next other _ =>
    cases hstep
    rcases hreceived { s with loggedOut := (s.cookie other).toList ++ s.loggedOut } other Api.logout rfl rfl with
      hold | ⟨-, hage, -⟩
    · exact Or.inl hold
    · exact absurd hage (lt_irrefl 0)
  · cases hstep
    exact Or.inl hcookie
  · split at hstep
    · cases hstep
      exact Or.inl hcookie
    · cases hstep

theorem step_allBacked (hjose : env.jose.Faithful) (hrun : run (step env) start es = some s)
    (hs : AllBacked env start es s) (hsigns : ∀ token, e.event = .present (some token) → Known env start es token)
    (hstep : step env s e = some t) : AllBacked env start (es ++ [e]) t where
  distinct := step_distinct hs.distinct hstep
  cookies client key cookie hcookie := by
    rcases cookie_of_step hstep hcookie with hold | ⟨data, response, header, hevent, hreply, hvalue⟩
    · obtain ⟨userId, time, hlogin, htoken⟩ := hs.cookies client key cookie hold
      exact ⟨userId, time, hlogin.later e, htoken⟩
    · obtain ⟨userId, role, hgives, -, hrefresh⟩ := serveLogin_gives hs.distinct client hreply
      obtain ⟨event, fails⟩ := e
      obtain rfl : event = .login client data := hevent
      exact ⟨userId, s.now, once_concat.mpr (Or.inr ⟨s, hrun, hgives⟩), hvalue.trans hrefresh⟩
  sent token hsent := by
    rcases once_concat.mp hsent with hbefore | ⟨s', hrun', hmem⟩
    · exact (hs.sent token hbefore).later e
    · obtain rfl := Option.some.inj (hrun.symm.trans hrun')
      exact sent_backed hjose hrun hs hsigns hmem

theorem run_allBacked (hjose : env.jose.Faithful) (table : UserTable) (now : DateTime)
    (hsigns : NobodySigns env (.start table now) es) (hrun : run (step env) (.start table now) es = some s) :
    AllBacked env (.start table now) es s := by
  refine history_of_run (I := fun before t => before <+: es → AllBacked env (.start table now) before t) ?_ ?_ hrun
    List.prefix_rfl
  · intro _
    refine ⟨table.start_distinct now, fun client key cookie hcookie => (nomatch hcookie), fun token hsent => ?_⟩
    exact absurd hsent not_once_nil
  · intro before e s t hbefore ih hstep hpre
    have hs := ih ((List.prefix_append before [e]).trans hpre)
    exact step_allBacked hjose hbefore hs (fun token hevent => hsigns before e token hpre hevent) hstep

end

/-- Whoever is let into a handler is an active user of this rank, and has given the password of this account in the
    time that a login gives. -/
theorem entry_goes_back_to_password (env : AuthEnv) (hjose : env.jose.Faithful) (table : UserTable) (now : DateTime)
    {es : List AuthStep} (hsigns : NobodySigns env (.start table now) es) {s : AuthState}
    (hrun : run (step env) (.start table now) es = some s) {token : String}
    (hknown : Known env (.start table now) es token) {minimumRole : Role} (henters : s.Enters env minimumRole token) :
    ∃ user ∈ s.world.rows, user.isActive = true ∧ (∃ role : Role, user.role = role.value ∧ minimumRole ≤ role) ∧
      (∃ claims, Valid env.jose s.now token claims ∧ claims.sub = some user.id) ∧
        ∃ time, LoggedIn env (.start table now) es user.id time ∧ s.now ≤ time + env.settings.sessionSeconds := by
  have hbacked := run_allBacked hjose table now hsigns hrun
  obtain ⟨claims, user, hvalid, htype, hsub, hmem, hactive, hrole⟩ :=
    (enters_iff_authorised hjose hbacked.distinct _ _).mp henters
  refine ⟨user, hmem, hactive, hrole, ⟨claims, hvalid, hsub⟩, ?_⟩
  obtain ⟨htoken, hlater⟩ := hvalid
  rcases hknown with ⟨kept, hsent, claims', hkept, htoken'⟩ | hnone
  · obtain rfl := hjose.unique htoken htoken'
    cases hbacked.sent kept hsent with
    | refresh userId time login eq =>
      subst eq
      obtain rfl := hjose.unique hkept (hjose.encode _)
      simp at htype
    | access userId time issued role login now_le eq =>
      subst eq
      obtain rfl := hjose.unique hkept (hjose.encode _)
      cases hsub
      refine ⟨time, login, hlater.trans ?_⟩
      rw [TokenSettings.sessionSeconds, ← add_assoc]
      exact Int.add_le_add_right now_le _
  · have hdecode := (hjose.decode s.now token claims).mpr ⟨htoken, hlater⟩
    rw [hnone] at hdecode
    cases hdecode

/-! ### A stolen token -/

/-- Anna logs in, and ten minutes pass. -/
def annaStaysAway : List AuthStep := [annaLogsIn, { event := .tick 600 }]

theorem annaStaysAway_unsigned : NobodySigns exampleEnv (.start exampleTable 0) annaStaysAway := by
  intro before e token hpre hevent
  have hmem : e ∈ annaStaysAway := hpre.subset (List.mem_append_right _ (List.mem_singleton_self e))
  rw [annaStaysAway, List.mem_cons, List.mem_singleton] at hmem
  rcases hmem with rfl | rfl <;> cases hevent

/-- Who has a copy of Anna's access token is let in as Anna, and it was Anna's password that began it. -/
theorem stolen_token_goes_back_to_password :
    ∃ s, run (step exampleEnv) (.start exampleTable 0) annaStaysAway = some s ∧
      s.Enters exampleEnv .user (createAccessToken numberedTokens {} 0 2 "user") ∧
      ∃ user ∈ s.world.rows, ∃ time, LoggedIn exampleEnv (.start exampleTable 0) annaStaysAway user.id time ∧
        s.now ≤ time + exampleEnv.settings.sessionSeconds := by
  have hrun : ((run (step exampleEnv) (.start exampleTable 0) annaStaysAway).map fun s => (s.now, s.world.rows)) =
      some (600, exampleTable.rows) := by
    rfl
  obtain ⟨s, hs, hresult⟩ := Option.map_eq_some_iff.mp hrun
  rw [Prod.mk.injEq] at hresult
  obtain ⟨hnow, hrows⟩ := hresult
  have hdistinct : s.world.Distinct Users.mapper :=
    invariant_of_steps step_distinct (exampleTable.start_distinct 0) ⟨annaStaysAway, List.prefix_rfl, hs⟩
  have henters : s.Enters exampleEnv .user (createAccessToken numberedTokens {} 0 2 "user") := by
    refine (enters_iff_authorised numberedTokens_faithful hdistinct _ _).mpr
      ⟨_, { anna with role := "user", isActive := true }, ⟨numberedTokens_faithful.encode _, by rw [hnow]; decide⟩, rfl, rfl,
        ?_, rfl, .user, rfl, ?_⟩
    · rw [hrows]
      decide
    · exact Nat.le_refl _
  have hsent : createAccessToken numberedTokens {} 0 2 "user" ∈ sent exampleEnv (.start exampleTable 0) annaLogsIn :=
    List.mem_cons_self
  have hknown : Known exampleEnv (.start exampleTable 0) annaStaysAway (createAccessToken numberedTokens {} 0 2 "user") :=
    Or.inl ⟨_, ⟨[], annaLogsIn, _, ⟨[_], rfl⟩, rfl, hsent⟩, _, numberedTokens_faithful.encode _,
      numberedTokens_faithful.encode _⟩
  obtain ⟨user, hmem, -, -, -, time, hlogin, hlater⟩ := entry_goes_back_to_password exampleEnv numberedTokens_faithful
    exampleTable 0 annaStaysAway_unsigned hs hknown henters
  exact ⟨s, hs, henters, user, hmem, time, hlogin, hlater⟩

end Auth
end SmartHome
