import SmartHome.Auth.Issuing

/-! # Logging out

`logout` deletes the cookie of the browser that calls it. No state says that a token was given back: a copy of
the cookie is accepted as long as it has not expired and its user exists. -/

namespace SmartHome.Auth
open Orm Users Run Api

/-- A refresh with this cookie gets an access token, when the database answers. -/
def Accepts (env : AuthEnv) (s : AuthState) (token : String) : Prop :=
  ∃ response, (serveRefresh env s (some token) (s.database fun _ => none)).1 = .ok response

theorem accepts_iff {env : AuthEnv} (hjose : env.jose.Faithful) {s : AuthState}
    (hdistinct : s.world.Distinct Users.mapper) (token : String) :
    Accepts env s token ↔ ∃ user, Refreshable env.jose s.now s.world.rows token user := by
  constructor
  · rintro ⟨response, hok⟩
    obtain ⟨-, -, token', user, htoken, hrefreshable, -⟩ := (serveRefresh_ok_iff hjose hdistinct _ _ _).mp hok
    cases htoken
    exact ⟨user, hrefreshable⟩
  · rintro ⟨user, hrefreshable⟩
    exact ⟨_, (serveRefresh_ok_iff hjose hdistinct _ _ _).mpr ⟨rfl, rfl, token, user, rfl, hrefreshable, rfl⟩⟩

/-! ### The browser after a logout -/

/-- The browser has no refresh cookie. -/
def HasNoCookie (client : ℕ) (s : AuthState) : Prop := (s.jar client).cookie (refreshCookieName, refreshPath) = none

/-- The browser asks for a login. -/
def AuthStep.LogsIn (client : ℕ) (e : AuthStep) : Prop := ∃ data, e.event = .login client data

theorem receive_jar_of_ne {s : AuthState} {client other : ℕ} (header : SetCookie) (h : other ≠ client) :
    (s.receive client header).jar other = s.jar other :=
  Function.update_of_ne h ..

theorem hasNoCookie_logout (s : AuthState) (client : ℕ) : HasNoCookie client (s.receive client Api.logout) := by
  simp [HasNoCookie, AuthState.receive, CookieJar.receive, Api.logout, deleteCookie]

theorem hasNoCookie_receive {s : AuthState} {client other : ℕ} {header : SetCookie} (h : HasNoCookie client s)
    (hclear : other = client → header.maxAge ≤ 0) : HasNoCookie client (s.receive other header) := by
  unfold HasNoCookie at *
  by_cases heq : client = other
  · subst heq
    simp only [AuthState.receive, Function.update_self, CookieJar.receive, if_pos (hclear rfl)]
    by_cases hkey : (refreshCookieName, refreshPath) = (header.key, header.path)
    · rw [hkey, Function.update_self]
    · rw [Function.update_of_ne hkey, h]
  · rw [receive_jar_of_ne header heq, h]

theorem step_hasNoCookie {env : AuthEnv} {client : ℕ} {s t : AuthState} {e : AuthStep} (h : HasNoCookie client s)
    (hlogin : ¬ e.LogsIn client) (hstep : step env s e = some t) : HasNoCookie client t := by
  unfold step at hstep
  split at hstep
  · next other data hevent =>
    split at hstep
    · cases hstep
      refine hasNoCookie_receive h fun heq => ?_
      exact absurd ⟨data, heq ▸ hevent⟩ hlogin
    · cases hstep
      exact h
  · cases hstep
    exact h
  · cases hstep
    exact h
  · cases hstep
    exact hasNoCookie_receive h fun _ => le_rfl
  · cases hstep
    exact h
  · split at hstep
    · cases hstep
      exact h
    · cases hstep

theorem serveRefresh_without_cookie {env : AuthEnv} {client : ℕ} {s : AuthState} (h : HasNoCookie client s)
    (w : Users.World) :
    (serveRefresh env s (s.cookie client) w).1 = .error (.app (.unauthorized "Refresh token missing.")) := by
  have hcookie : s.cookie client = none := by
    unfold AuthState.cookie CookieJar.send
    rw [h]
    rfl
  rw [hcookie]
  rfl

/-- The logout of a browser, from `s`. -/
structure LogsOut (env : AuthEnv) (client : ℕ) (s t : AuthState) : Prop where
  world : t.world = s.world
  others : ∀ other, other ≠ client → t.jar other = s.jar other
  /-- Until its next login the browser gets no access token for its cookie. -/
  refused : ∀ es u, run (step env) t es = some u → (∀ e ∈ es, ¬ AuthStep.LogsIn client e) → ∀ w,
    (serveRefresh env u (u.cookie client) w).1 = .error (.app (.unauthorized "Refresh token missing."))

theorem logsOut_of_step {env : AuthEnv} {client : ℕ} {s t : AuthState} {fails : DbCall → Option PyError}
    (hstep : step env s { event := .logout client, fails } = some t) : LogsOut env client s t := by
  cases hstep
  refine ⟨rfl, fun other hne => receive_jar_of_ne _ hne, fun es u hrun hlogins w => ?_⟩
  have hlast : HasNoCookie client u :=
    invariant_of_meets (fun hs hlogin hstep => step_hasNoCookie hs hlogin hstep) (hasNoCookie_logout _ client)
      (meets_of_mem fun e he _ => hlogins e he) hrun
  exact serveRefresh_without_cookie hlast w

/-- A logout clears the cookie of its browser and nothing else, and a token that was the cookie of a browser at its
    logout is accepted exactly while it is valid and its user exists. -/
theorem logout_only_clears_the_cookie (env : AuthEnv) (hjose : env.jose.Faithful) (table : UserTable) (now : DateTime)
    (es : List AuthStep) {s : AuthState} (hvisits : Visits (step env) (.start table now) es s) :
    (∀ client fails t, step env s { event := .logout client, fails } = some t → LogsOut env client s t) ∧
      ∀ token ∈ s.loggedOut, Accepts env s token ↔ ∃ user, Refreshable env.jose s.now s.world.rows token user := by
  have hdistinct : s.world.Distinct Users.mapper :=
    invariant_of_steps step_distinct (table.start_distinct now) hvisits
  exact ⟨fun _ _ _ hstep => logsOut_of_step hstep, fun token _ => accepts_iff hjose hdistinct token⟩

/-! ### A copy of a cookie -/

/-- Anna logs in and out. -/
def annaLogsOut : List AuthStep := [annaLogsIn, { event := .logout 0 }]

theorem logout_only_clears_annas_cookie :
    ∃ s, run (step exampleEnv) (.start exampleTable 0) annaLogsOut = some s ∧
      ∀ token ∈ s.loggedOut, Accepts exampleEnv s token ↔ ∃ user, Refreshable numberedTokens s.now s.world.rows token user := by
  have hrun : (run (step exampleEnv) (.start exampleTable 0) annaLogsOut).isSome = true := by decide
  obtain ⟨s, hs⟩ := Option.isSome_iff_exists.mp hrun
  exact ⟨s, hs, (logout_only_clears_the_cookie exampleEnv numberedTokens_faithful exampleTable 0 annaLogsOut
    ⟨annaLogsOut, List.prefix_rfl, hs⟩).2⟩

/-- Anna logs out, and the copy that someone kept of her cookie is still accepted. -/
theorem logged_out_token_is_accepted :
    ∃ s, run (step exampleEnv) (.start exampleTable 0) annaLogsOut = some s ∧
      ∃ token ∈ s.loggedOut, Accepts exampleEnv s token := by
  have hrun : ((run (step exampleEnv) (.start exampleTable 0) annaLogsOut).map fun s =>
      (s.loggedOut, s.now, s.world.rows)) = some ([createRefreshToken numberedTokens {} 0 2], 0, exampleTable.rows) := by
    rfl
  obtain ⟨s, hs, hresult⟩ := Option.map_eq_some_iff.mp hrun
  rw [Prod.mk.injEq, Prod.mk.injEq] at hresult
  obtain ⟨hloggedOut, hnow, hrows⟩ := hresult
  have hdistinct : s.world.Distinct Users.mapper :=
    invariant_of_steps step_distinct (exampleTable.start_distinct 0) ⟨annaLogsOut, List.prefix_rfl, hs⟩
  refine ⟨s, hs, createRefreshToken numberedTokens {} 0 2, by rw [hloggedOut]; exact List.mem_singleton_self _, ?_⟩
  refine (accepts_iff numberedTokens_faithful hdistinct _).mpr
    ⟨{ anna with role := "user", isActive := true }, _, ⟨numberedTokens_faithful.encode _, by rw [hnow]; decide⟩, rfl, rfl, ?_⟩
  rw [hrows]
  decide

end SmartHome.Auth
