import SmartHome.Auth.Authorisation

/-! # Who gets an access token

`login` checks that the account is active and `refresh` does not: a run hands out access tokens to active users
only, exactly if nobody presents a refresh token of a user who is stored as inactive. -/

namespace SmartHome.Auth
open Orm Users Run Api

/-! ### What a refresh answers -/

/-- A correctly signed refresh token, not expired, of a user who is stored. -/
def Refreshable (jose : Jose) (now : DateTime) (rows : List User) (token : String) (user : User) : Prop :=
  ∃ claims, Valid jose now token claims ∧ claims.type = some "refresh" ∧ claims.sub = some user.id ∧ user ∈ rows

theorem getDb_run_ok {α : Type} {body : SessionId → Py Users.World α} {w u v : Users.World} {a : α}
    (hbody : body w.sessions w.openSession = (.ok a, u)) (hcommit : commit mapper w.sessions u = (.ok (), v)) :
    (getDb body w).1 = .ok a := by
  have hall : (do let a ← body w.sessions; commit mapper w.sessions; pure a : Py Users.World α) w.openSession =
      (.ok a, v) := by
    rw [Eff.bind_of_ok hbody, Eff.bind_of_ok hcommit]
    rfl
  unfold getDb withSession
  simp only [Eff.attempt, hall]

/-- The user that the service hands to a new session. -/
theorem getById_run {w : Users.World} {user : User} (hdistinct : w.Distinct Users.mapper) (hfails : w.fails .select = none)
    (hmem : user ∈ w.rows) : UserService.getById w.sessions user.id w.openSession =
      (.ok w.refs, w.openSession.attach w.sessions { value := user, loaded := some user }) := by
  have hlookup : UserRepository.getById w.sessions user.id w.openSession = (.ok (some w.refs), _) :=
    lookup_singleton hfails (filter_id_eq hdistinct hmem)
  rw [UserService.getById, Eff.bind_of_ok hlookup]
  rfl

theorem getById_fails {w u : Users.World} {userId : Uuid} {r : Ref} (hdistinct : w.Distinct Users.mapper)
    (hrun : UserService.getById w.sessions userId w.openSession = (.ok r, u)) :
    w.fails .select = none ∧ u.fails = w.fails := by
  obtain ⟨found, v, hlookup, hfound⟩ := Eff.bind_eq_ok.mp hrun
  rcases getById_cases hdistinct userId with ⟨e, -, hrun'⟩ | ⟨-, -, hrun'⟩ | ⟨user, -, hfails, -, hrun'⟩
  · rw [hlookup] at hrun'
    cases hrun'
  · rw [hlookup] at hrun'
    cases hrun'
    cases hfound
  · rw [hlookup] at hrun'
    cases hrun'
    cases hfound
    exact ⟨hfails, rfl⟩

theorem serveRefresh_ok_iff {env : AuthEnv} (hjose : env.jose.Faithful) {s : AuthState}
    (hdistinct : s.world.Distinct Users.mapper) (cookie : Option String) (fails : DbCall → Option PyError)
    (response : TokenResponse) :
    (serveRefresh env s cookie (s.database fails)).1 = .ok response ↔
      fails .select = none ∧ fails .commit = none ∧ ∃ token user, cookie = some token ∧
        Refreshable env.jose s.now s.world.rows token user ∧
        response = { accessToken := createAccessToken env.jose env.settings s.now user.id user.role,
                     expiresIn := env.settings.accessTokenExpireMinutes * 60 } := by
  have hdistinct := database_distinct hdistinct fails
  constructor
  · intro hok
    obtain ⟨u, v, hbody, hcommit, -⟩ := getDb_ok (Prod.ext hok rfl)
    cases cookie with
    | none => cases hbody
    | some token =>
      dsimp only at hbody
      cases hdecode : decodeRefreshToken (env.jose.jwt s.now) token with
      | none =>
        rw [hdecode] at hbody
        cases hbody
      | some payload =>
        obtain ⟨claims, hvalid, htype, rfl⟩ := (decodeToken_eq_some hjose).mp hdecode
        rw [hdecode] at hbody
        dsimp only at hbody
        cases hsub : claims.sub with
        | none =>
          rw [hsub] at hbody
          cases hbody
        | some userId =>
          rw [hsub] at hbody
          obtain ⟨r, x, hget, hrest⟩ := Eff.bind_eq_ok.mp hbody
          obtain ⟨user, hmem, rfl, hsynced, -, hholds⟩ := getById_holds hdistinct hget
          obtain ⟨hselect, hfails⟩ := getById_fails hdistinct hget
          rw [Eff.bind_of_ok (read_of_holds hholds)] at hrest
          cases hrest
          have hcommits := commit_ok_fails hcommit
          rw [hfails] at hcommits
          exact ⟨hselect, hcommits, token, user, rfl, ⟨claims, hvalid, htype, hsub, hmem⟩, rfl⟩
  · rintro ⟨hselect, hcommits, token, user, rfl, ⟨claims, hvalid, htype, hsub, hmem⟩, rfl⟩
    have hdecode : decodeRefreshToken (env.jose.jwt s.now) token = some { sub := claims.sub, type := claims.type } :=
      (decodeToken_eq_some hjose).mpr ⟨claims, hvalid, htype, rfl⟩
    have hget := getById_run hdistinct hselect hmem
    obtain ⟨user', hmem', hid, hsynced, -, hholds⟩ := getById_holds hdistinct hget
    obtain rfl := eq_of_id hdistinct hmem' hmem hid
    have hcommit := commit_synced_run hsynced hcommits
    refine getDb_run_ok ?_ hcommit
    dsimp only
    rw [hdecode, hsub]
    dsimp only
    rw [Eff.bind_of_ok hget, Eff.bind_of_ok (read_of_holds hholds)]
    rfl

/-! ### What a login answers -/

theorem authenticate_holds {passwords : Passwords} {w u : Users.World} {email password : String} {r : Ref}
    (hdistinct : w.Distinct Users.mapper)
    (hrun : UserService.authenticate passwords w.sessions email password w.openSession = (.ok r, u)) :
    ∃ user ∈ w.rows, user.isActive = true ∧ Holds w.sessions u r user := by
  obtain ⟨found, v, hlookup, hfound⟩ := Eff.bind_eq_ok.mp hrun
  cases found with
  | none => cases hfound
  | some r' =>
    obtain ⟨user, hmem, -, -, -, hholds⟩ := lookup_holds hdistinct.committed hlookup
    dsimp only at hfound
    rw [Eff.bind_of_ok (read_of_holds hholds)] at hfound
    obtain ⟨correct, x, hverify, hchecks⟩ := Eff.bind_eq_ok.mp hfound
    have hsame : x = v := by
      cases houtcome : passwords.verifyPassword password user.hashedPassword with
      | error e =>
        rw [houtcome] at hverify
        cases hverify
      | ok b =>
        rw [houtcome] at hverify
        cases hverify
        rfl
    subst hsame
    split at hchecks
    · cases hchecks
    split at hchecks
    · cases hchecks
    · next hactive =>
      cases hchecks
      exact ⟨user, hmem, by simpa using hactive, hholds⟩

theorem serveLogin_active {env : AuthEnv} {s : AuthState} (hdistinct : s.world.Distinct Users.mapper) (data : LoginRequest)
    (fails : DbCall → Option PyError) {response : TokenResponse} {header : SetCookie}
    (hok : (serveLogin env s data (s.database fails)).1 = .ok (response, header)) :
    ∃ user ∈ s.world.rows, user.isActive = true ∧
      response.accessToken = createAccessToken env.jose env.settings s.now user.id user.role := by
  have hdistinct := database_distinct hdistinct fails
  obtain ⟨u, v, hbody, -, -⟩ := getDb_ok (Prod.ext hok rfl)
  obtain ⟨r, x, hauthenticate, hrest⟩ := Eff.bind_eq_ok.mp hbody
  obtain ⟨user, hmem, hactive, hholds⟩ := authenticate_holds hdistinct hauthenticate
  rw [Eff.bind_of_ok (read_of_holds hholds)] at hrest
  cases hrest
  exact ⟨user, hmem, hactive, rfl⟩

/-! ### Runs -/

/-- The access token that the step hands out, if any. -/
def issued (env : AuthEnv) (s : AuthState) (e : AuthStep) : Option String :=
  match e.event with
  | .login _ data => (serveLogin env s data (s.database e.fails)).1.toOption.map fun reply => reply.1.accessToken
  | .refresh client =>
    (serveRefresh env s (s.cookie client) (s.database e.fails)).1.toOption.map fun reply => reply.accessToken
  | .present cookie => (serveRefresh env s cookie (s.database e.fails)).1.toOption.map fun reply => reply.accessToken
  | _ => none

/-- The step hands out access tokens only to users who are stored and active, with the role that is stored. -/
def IssuesToActive (env : AuthEnv) (s : AuthState) (e : AuthStep) : Prop :=
  ∀ token, issued env s e = some token → ∃ user ∈ s.world.rows, user.isActive = true ∧
    token = createAccessToken env.jose env.settings s.now user.id user.role

/-- The cookie of a request for a refresh. -/
def AuthStep.cookie (s : AuthState) (e : AuthStep) : Option String :=
  match e.event with
  | .refresh client => s.cookie client
  | .present cookie => cookie
  | _ => none

/-- The step is no refresh that the database serves with a valid refresh token of an inactive user. -/
def RefreshesActive (env : AuthEnv) (s : AuthState) (e : AuthStep) : Prop :=
  e.fails .select = none → e.fails .commit = none → ∀ token user, e.cookie s = some token →
    Refreshable env.jose s.now s.world.rows token user → user.isActive = true

theorem refresh_issues_iff {env : AuthEnv} (hjose : env.jose.Faithful) {s : AuthState}
    (hdistinct : s.world.Distinct Users.mapper) (cookie : Option String) (fails : DbCall → Option PyError) :
    (∀ token, (serveRefresh env s cookie (s.database fails)).1.toOption.map (fun reply => reply.accessToken) = some token →
      ∃ user ∈ s.world.rows, user.isActive = true ∧
        token = createAccessToken env.jose env.settings s.now user.id user.role) ↔
    (fails .select = none → fails .commit = none → ∀ token user, cookie = some token →
      Refreshable env.jose s.now s.world.rows token user → user.isActive = true) := by
  have hok := fun response => serveRefresh_ok_iff hjose hdistinct cookie fails response
  constructor
  · intro hissues hselect hcommit token user hcookie hrefreshable
    have hreply := (hok _).mpr ⟨hselect, hcommit, token, user, hcookie, hrefreshable, rfl⟩
    obtain ⟨user', hmem', hactive, htoken⟩ := hissues _ (by rw [hreply]; rfl)
    -- The token that was handed out names the user it was handed out for.
    have hclaims := hjose.encode_inj htoken
    obtain ⟨-, -, -, -, hmem⟩ := hrefreshable
    have hid : user'.id = user.id := by
      have hsub := congrArg Claims.sub hclaims
      exact (Option.some.inj hsub).symm
    rw [← eq_of_id (database_distinct hdistinct fails) hmem' hmem hid]
    exact hactive
  · intro hactive token hissued
    cases hreply : (serveRefresh env s cookie (s.database fails)).1 with
    | error e =>
      rw [hreply] at hissued
      cases hissued
    | ok response =>
      obtain ⟨hselect, hcommit, presented, user, hcookie, hrefreshable, rfl⟩ := (hok response).mp hreply
      rw [hreply] at hissued
      cases hissued
      obtain ⟨-, -, -, -, hmem⟩ := id hrefreshable
      exact ⟨user, hmem, hactive hselect hcommit presented user hcookie hrefreshable, rfl⟩

theorem issuesToActive_iff {env : AuthEnv} (hjose : env.jose.Faithful) {s : AuthState}
    (hdistinct : s.world.Distinct Users.mapper) (e : AuthStep) : IssuesToActive env s e ↔ RefreshesActive env s e := by
  obtain ⟨event, fails⟩ := e
  cases event with
  | login client data =>
    refine ⟨fun _ _ _ _ _ hcookie => (nomatch hcookie), fun _ token hissued => ?_⟩
    change (serveLogin env s data (s.database fails)).1.toOption.map (fun reply => reply.1.accessToken) = some token at hissued
    cases hreply : (serveLogin env s data (s.database fails)).1 with
    | error e =>
      rw [hreply] at hissued
      cases hissued
    | ok reply =>
      rw [hreply] at hissued
      cases hissued
      exact serveLogin_active hdistinct data fails hreply
  | refresh client => exact refresh_issues_iff hjose hdistinct (s.cookie client) fails
  | present cookie => exact refresh_issues_iff hjose hdistinct cookie fails
  | logout | account | tick =>
    exact ⟨fun _ _ _ _ _ hcookie => (nomatch hcookie), fun _ _ hissued => (nomatch hissued)⟩

/-- In every run, access tokens go to active users only exactly if every refresh is one of an active user. -/
theorem runs_issue_to_active_iff (env : AuthEnv) (hjose : env.jose.Faithful) (table : UserTable) (now : DateTime)
    (es : List AuthStep) :
    Meets (step env) (IssuesToActive env) (.start table now) es ↔
      Meets (step env) (RefreshesActive env) (.start table now) es :=
  meets_iff (I := fun s => s.world.Distinct Users.mapper) (fun hs _ hstep => step_distinct hs hstep)
    (fun hs => issuesToActive_iff hjose hs _) (table.start_distinct now)

theorem runs_issue_to_active_anna :
    Meets (step exampleEnv) (IssuesToActive exampleEnv) (.start exampleTable 0) annaIsDeactivated ↔
      Meets (step exampleEnv) (RefreshesActive exampleEnv) (.start exampleTable 0) annaIsDeactivated :=
  runs_issue_to_active_iff exampleEnv numberedTokens_faithful exampleTable 0 annaIsDeactivated

/-- Anna has been deactivated. -/
def anna : User :=
  { id := 2, email := "anna@example.com", hashedPassword := "$2b$sunny-day", role := "viewer", isActive := false }

/-- Anna is deactivated, and her browser still gets an access token for the cookie of her login. -/
theorem deactivated_user_is_refreshed :
    ∃ s, run (step exampleEnv) (.start exampleTable 0) annaIsDeactivated = some s ∧
      ¬ IssuesToActive exampleEnv s { event := .refresh 0 } := by
  have hrun : ((run (step exampleEnv) (.start exampleTable 0) annaIsDeactivated).map fun s =>
      (s.cookie 0, s.now, s.world.rows.drop 1)) = some (some (createRefreshToken numberedTokens {} 0 2), 0, [anna]) := by
    rfl
  obtain ⟨s, hs, hresult⟩ := Option.map_eq_some_iff.mp hrun
  rw [Prod.mk.injEq, Prod.mk.injEq] at hresult
  obtain ⟨hcookie, hnow, hrows⟩ := hresult
  have hdistinct : s.world.Distinct Users.mapper :=
    invariant_of_steps step_distinct (exampleTable.start_distinct 0) ⟨annaIsDeactivated, List.prefix_rfl, hs⟩
  refine ⟨s, hs, fun hissues => ?_⟩
  have hanna : anna ∈ s.world.rows := List.mem_of_mem_drop (hrows ▸ List.mem_singleton_self anna)
  have hvalid : Refreshable exampleEnv.jose s.now s.world.rows (createRefreshToken numberedTokens {} 0 2) anna :=
    ⟨_, ⟨numberedTokens_faithful.encode _, by rw [hnow]; decide⟩, rfl, rfl, hanna⟩
  have hactive := (issuesToActive_iff numberedTokens_faithful hdistinct _).mp hissues rfl rfl _ anna hcookie hvalid
  exact absurd hactive (by decide)

end SmartHome.Auth
