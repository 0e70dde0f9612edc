import SmartHome.Auth.Sessions

/-! # Authorisation follows the table

A handler behind `require_role` is entered exactly with a valid access token of a user who, as stored now, is
active and ranks high enough. What else the token says makes no difference. -/

namespace SmartHome
open Orm Users Run

/-! ## The order of the roles -/

namespace Role

/-- The order of the roles. -/
def level : Role → ℕ
  | viewer => 0
  | user => 1
  | admin => 2

instance : LE Role := ⟨fun a b => a.level ≤ b.level⟩

instance (a b : Role) : Decidable (a ≤ b) := inferInstanceAs (Decidable (a.level ≤ b.level))

theorem rank_value (role : Role) (default : Int) : rank role.value default = role.level := by
  cases role <;> rfl

theorem rank_unknown {role : String} (h : ∀ known : Role, role ≠ known.value) (default : Int) :
    rank role default = default := by
  simp [rank, h]

end Role

/-- An unknown role ranks below all roles. -/
theorem hasRole_iff (userRole : String) (required : Role) :
    hasRole userRole required.value = true ↔ ∃ role : Role, userRole = role.value ∧ required ≤ role := by
  unfold hasRole
  rw [Role.rank_value, decide_eq_true_iff]
  by_cases hknown : ∃ role : Role, userRole = role.value
  · obtain ⟨role, rfl⟩ := hknown
    rw [Role.rank_value]
    constructor
    · intro hle
      exact ⟨role, rfl, by exact_mod_cast hle⟩
    · rintro ⟨role', hrole, hle⟩
      have hlevel : role'.level = role.level := by
        cases role <;> cases role' <;> first | rfl | exact absurd hrole (by decide)
      have hle : required.level ≤ role'.level := hle
      rw [hlevel] at hle
      exact_mod_cast hle
  · push Not at hknown
    rw [Role.rank_unknown hknown]
    constructor
    · intro hle
      omega
    · rintro ⟨role, hrole, -⟩
      exact absurd hrole (hknown role)

/-! ## The user with an id -/

namespace Users

theorem same_id_collides {userId : Uuid} (a b : User) (ha : (a.id == userId) = true) (hb : (b.id == userId) = true) :
    mapper.collides a b = true := by
  simp [Mapper.collides, Mapper.sameKey, mapper, beq_iff_eq.mp ha, beq_iff_eq.mp hb]

/-- The query by id of a new session: it fails, or finds what the table has. -/
theorem getById_cases {w : World} (hdistinct : w.Distinct mapper) (userId : Uuid) :
    (∃ e, w.fails .select = some e ∧
      UserRepository.getById w.sessions userId w.openSession = (.error e, w.openSession)) ∨
    (w.fails .select = none ∧ (∀ row ∈ w.rows, row.id ≠ userId) ∧
      UserRepository.getById w.sessions userId w.openSession = (.ok none, w.openSession)) ∨
    ∃ user ∈ w.rows, w.fails .select = none ∧ user.id = userId ∧
      UserRepository.getById w.sessions userId w.openSession =
        (.ok (some w.refs), w.openSession.attach w.sessions { value := user, loaded := some user }) := by
  cases hfails : w.fails .select with
  | some e => exact Or.inl ⟨e, rfl, lookup_of_fails hfails⟩
  | none =>
    rcases hdistinct.committed.filter_cases same_id_collides with ⟨hnil, hnone⟩ | ⟨user, hmem, hid, hone⟩
    · exact Or.inr (Or.inl ⟨rfl, fun row hrow => beq_eq_false_iff_ne.mp (hnone row hrow), lookup_nil hfails hnil⟩)
    · exact Or.inr (Or.inr ⟨user, hmem, rfl, beq_iff_eq.mp hid, lookup_singleton hfails hone⟩)

theorem eq_of_id {w : World} (hdistinct : w.Distinct mapper) {a b : User} (ha : a ∈ w.rows) (hb : b ∈ w.rows)
    (hid : a.id = b.id) : a = b :=
  hdistinct.committed.eq_of_key ha hb hid

theorem filter_id_eq {w : World} (hdistinct : w.Distinct mapper) {user : User} (h : user ∈ w.rows) :
    w.rows.filter (fun row => row.id == user.id) = [user] := by
  rcases hdistinct.committed.filter_cases same_id_collides with ⟨-, hnone⟩ | ⟨other, hmem, hid, hone⟩
  · exact absurd rfl (beq_eq_false_iff_ne.mp (hnone user h))
  · rw [hone, eq_of_id hdistinct hmem h (beq_iff_eq.mp hid)]

end Users

/-- The guard lets a request in, and hands its handler the user. -/
def Enters (jwt : Jwt) (w : Users.World) (minimumRole : Role) (token : String) : Prop :=
  ∃ user t, requireRole jwt minimumRole token w = (.ok user, t)

theorem enters_iff {jwt : Jwt} {w : Users.World} {minimumRole : Role} {token : String}
    (hdistinct : w.Distinct Users.mapper) (hfails : w.fails .select = none) :
    Enters jwt w minimumRole token ↔ ∃ payload user, decodeAccessToken jwt token = some payload ∧
      payload.sub = some user.id ∧ user ∈ w.rows ∧ user.isActive = true ∧
        hasRole user.role minimumRole.value = true := by
  constructor
  · rintro ⟨r, t, hrun⟩
    unfold requireRole at hrun
    cases hdecode : decodeAccessToken jwt token with
    | none =>
      rw [hdecode] at hrun
      cases hrun
    | some payload =>
      cases hsub : payload.sub with
      | none =>
        simp only [hdecode, hsub] at hrun
        cases hrun
      | some userId =>
        simp only [hdecode, hsub] at hrun
        rcases getById_cases hdistinct userId with ⟨e, hselect, -⟩ | ⟨-, -, hnone⟩ | ⟨user, hmem, -, rfl, hfound⟩
        · rw [hfails] at hselect
          cases hselect
        · rw [Eff.bind_of_ok (withSession_run hnone)] at hrun
          cases hrun
        · have hread : read mapper w.refs
              ((w.openSession.attach w.sessions { value := user, loaded := some user }).putSession w.sessions {}) =
                (.ok user, _) := read_run (o := { value := user, loaded := some user }) (by simp [World.attach])
          rw [Eff.bind_of_ok (withSession_run hfound)] at hrun
          dsimp only at hrun
          rw [Eff.bind_of_ok hread] at hrun
          refine ⟨payload, user, rfl, hsub, hmem, ?_⟩
          split at hrun
          · cases hrun
          · next hactive =>
            split at hrun
            · cases hrun
            · next hrole => exact ⟨by simpa using hactive, by simpa using hrole⟩
  · rintro ⟨payload, user, hdecode, hsub, hmem, hactive, hrole⟩
    exact ⟨_, _, requireRole_run hdecode hsub (filter_id_eq hdistinct hmem) hactive hrole hfails⟩

/-! ## Updates that are committed -/

namespace Users

theorem getDb_ok {α : Type} {body : SessionId → Py World α} {w t : World} {a : α} (h : getDb body w = (.ok a, t)) :
    ∃ u v, body w.sessions w.openSession = (.ok a, u) ∧ commit mapper w.sessions u = (.ok (), v) ∧ t.rows = v.rows := by
  unfold getDb withSession at h
  rw [Prod.mk.injEq] at h
  obtain ⟨hresult, rfl⟩ := h
  rcases hrun : (do let a ← body w.sessions; commit mapper w.sessions; pure a : Py World α) w.openSession with
    ⟨e | b, v⟩
  · simp only [Eff.attempt, hrun] at hresult
    cases hresult
  · obtain ⟨a', u, hbody, hrest⟩ := Eff.bind_eq_ok.mp hrun
    obtain ⟨_, v', hcommit, hpure⟩ := Eff.bind_eq_ok.mp hrest
    cases hpure
    simp only [Eff.attempt, hrun] at hresult ⊢
    cases hresult
    exact ⟨u, _, hbody, hcommit, rfl⟩

theorem getById_holds {w u : World} {userId : Uuid} {r : Ref} (hdistinct : w.Distinct mapper)
    (hrun : UserService.getById w.sessions userId w.openSession = (.ok r, u)) :
    ∃ user ∈ w.rows, user.id = userId ∧ Synced mapper w.sessions u ∧ (u.session w.sessions).rows = w.rows ∧
      Holds w.sessions u r user := by
  obtain ⟨found, v, hlookup, hfound⟩ := Eff.bind_eq_ok.mp hrun
  cases found with
  | none => cases hfound
  | some r' =>
    cases hfound
    obtain ⟨user, hmem, hid, hsynced, hrows, hholds⟩ := lookup_holds hdistinct.committed hlookup
    exact ⟨user, hmem, beq_iff_eq.mp hid, hsynced, hrows, hholds⟩

/-- A user is changed and committed: in the table, the user of this id is the changed one. -/
theorem update_committed {w u t : World} {session : SessionId} {r a : Ref} {user : User} {f : User → User}
    (hid : ∀ row, (f row).id = row.id) (h : Synced mapper session w) (hr : Holds session w r user)
    (hrun : (do assign r f; UserRepository.update session r : Py World Ref) w = (.ok a, u))
    (hcommit : commit mapper session u = (.ok (), t)) : ∀ row ∈ t.rows, row.id = user.id → row = f user := by
  obtain ⟨_, v, hassign, hrest⟩ := Eff.bind_eq_ok.mp hrun
  obtain ⟨_, v', hflush, hrest⟩ := Eff.bind_eq_ok.mp hrest
  obtain ⟨_, v'', hrefresh, hpure⟩ := Eff.bind_eq_ok.mp hrest
  cases hpure
  obtain ⟨hsynced, -, hrows, hholds⟩ := update_synced Auth.mapper_symmetric hid h hr hassign hflush hrefresh
  obtain ⟨row', hrow', hobject⟩ := hsynced.loaded _ hholds.1
  rw [hholds.2, Option.some.injEq, Obj.mk.injEq, Option.some.injEq] at hobject
  obtain ⟨-, rfl, -⟩ := hobject
  intro row hrow hrowId
  rw [commit_synced hsynced hcommit] at hrow
  exact hsynced.distinct.eq_of_key hrow hrow' (hrowId.trans (hid user).symm)

theorem deactivate_committed {passwords : Passwords} {settings : AdminSettings} {w t : World} {userId : Uuid}
    (hdistinct : w.Distinct mapper) (hrun : (UserEvent.deactivate userId).serve passwords settings w = (.ok (), t)) :
    ∀ row ∈ t.rows, row.id = userId → row.isActive = false := by
  obtain ⟨u, v, hbody, hcommit, hrows⟩ := getDb_ok hrun
  obtain ⟨r, x, hget, hrest⟩ := Eff.bind_eq_ok.mp hbody
  obtain ⟨a, y, hupdate, hpure⟩ := Eff.bind_eq_ok.mp hrest
  cases hpure
  obtain ⟨user, -, rfl, hsynced, -, hholds⟩ := getById_holds hdistinct hget
  intro row hrow hid
  rw [hrows] at hrow
  rw [update_committed (f := fun row => { row with isActive := false }) (fun _ => rfl) hsynced hholds hupdate hcommit row
    hrow hid]

theorem setRole_committed {passwords : Passwords} {settings : AdminSettings} {w t : World} {userId requestedBy : Uuid}
    {role : Role} (hdistinct : w.Distinct mapper)
    (hrun : (UserEvent.setRole userId role requestedBy).serve passwords settings w = (.ok (), t)) :
    ∀ row ∈ t.rows, row.id = userId → row.role = role.value := by
  obtain ⟨found, w', hfound, hrest⟩ := Eff.bind_eq_ok.mp hrun
  cases found with
  | none => cases hrest
  | some requestingUser =>
    have hdistinct' : w'.Distinct mapper := by
      have hkeeps : Eff.Keeps (KeepsDistinct mapper) (withSession fun session => UserRepository.getById session requestedBy) :=
        withSession_keepsDistinct fun _ => Auth.lookup_keepsDistinct _
      have hafter := hkeeps w hdistinct
      rw [hfound] at hafter
      exact hafter
    obtain ⟨u, v, hbody, hcommit, hrows⟩ := getDb_ok hrest
    obtain ⟨r, x, hget, hrest⟩ := Eff.bind_eq_ok.mp hbody
    obtain ⟨a, y, hset, hpure⟩ := Eff.bind_eq_ok.mp hrest
    cases hpure
    obtain ⟨user, -, rfl, hsynced, -, hholds⟩ := getById_holds hdistinct' hget
    obtain ⟨requesting, z, hread, hupdate⟩ := Eff.bind_eq_ok.mp hset
    obtain rfl := read_ok hread
    split at hupdate
    · cases hupdate
    · intro row hrow hid
      rw [hrows] at hrow
      rw [update_committed (f := fun row => { row with role := role.value }) (fun _ => rfl) hsynced hholds hupdate hcommit
        row hrow hid]

end Users

/-! ## Authorisation -/

namespace Auth

/-- Correctly signed, not expired, of type access, and of a user who is stored, active, and ranks high enough. -/
def Authorised (jose : Jose) (now : DateTime) (rows : List User) (minimumRole : Role) (token : String) : Prop :=
  ∃ claims user, Valid jose now token claims ∧ claims.type = some "access" ∧ claims.sub = some user.id ∧ user ∈ rows ∧
    user.isActive = true ∧ ∃ role : Role, user.role = role.value ∧ minimumRole ≤ role

/-- The token lets a request into a handler now, when the database answers. -/
def AuthState.Enters (env : AuthEnv) (s : AuthState) (minimumRole : Role) (token : String) : Prop :=
  SmartHome.Enters (env.jose.jwt s.now) (s.database fun _ => none) minimumRole token

/-- The account event is served without an error, and leads to `t`. -/
def Serves (env : AuthEnv) (s : AuthState) (event : UserEvent) (fails : DbCall → Option PyError) (t : AuthState) : Prop :=
  step env s { event := .account event, fails } = some t ∧
    (event.serve env.passwords env.adminSettings (s.database fails)).1 = .ok ()

/-- Authorisation depends on the table as it is now, and on who the token is for. -/
structure FollowsTable (env : AuthEnv) (s : AuthState) : Prop where
  enters : ∀ minimumRole token,
    s.Enters env minimumRole token ↔ Authorised env.jose s.now s.world.rows minimumRole token
  roleClaim : ∀ minimumRole claims role token token', env.jose.Signed token claims →
    env.jose.Signed token' { claims with role } →
      requireRole (env.jose.jwt s.now) minimumRole token' = requireRole (env.jose.jwt s.now) minimumRole token
  refreshToken : ∀ minimumRole token claims, env.jose.Signed token claims → claims.type = some "refresh" →
    ¬ s.Enters env minimumRole token
  deactivation : ∀ userId fails t, Serves env s (.deactivate userId) fails t →
    ∀ minimumRole token claims, env.jose.Signed token claims → claims.sub = some userId → ¬ t.Enters env minimumRole token
  demotion : ∀ userId role requestedBy fails t, Serves env s (.setRole userId role requestedBy) fails t →
    ∀ minimumRole token claims, env.jose.Signed token claims → claims.sub = some userId →
      t.Enters env minimumRole token → minimumRole ≤ role

theorem enters_iff_authorised {env : AuthEnv} (hjose : env.jose.Faithful) {s : AuthState}
    (hdistinct : s.world.Distinct Users.mapper) (minimumRole : Role) (token : String) :
    s.Enters env minimumRole token ↔ Authorised env.jose s.now s.world.rows minimumRole token := by
  unfold AuthState.Enters Authorised
  rw [enters_iff (database_distinct hdistinct _) rfl]
  constructor
  · rintro ⟨payload, user, hdecode, hsub, hmem, hactive, hrole⟩
    obtain ⟨claims, hvalid, htype, rfl⟩ := (decodeToken_eq_some hjose).mp hdecode
    exact ⟨claims, user, hvalid, htype, hsub, hmem, hactive, (hasRole_iff _ _).mp hrole⟩
  · rintro ⟨claims, user, hvalid, htype, hsub, hmem, hactive, hrole⟩
    exact ⟨_, user, (decodeToken_eq_some hjose).mpr ⟨claims, hvalid, htype, rfl⟩, hsub, hmem, hactive,
      (hasRole_iff _ _).mpr hrole⟩

/-- Who enters with a token of a user has the user's row, if it is stored at all. -/
theorem authorised_signed {jose : Jose} (hjose : jose.Faithful) {now : DateTime} {rows : List User} {minimumRole : Role}
    {token : String} {claims : Claims} (hsigned : jose.Signed token claims)
    (h : Authorised jose now rows minimumRole token) :
    claims.type = some "access" ∧ ∃ user ∈ rows, claims.sub = some user.id ∧ user.isActive = true ∧
      ∃ role : Role, user.role = role.value ∧ minimumRole ≤ role := by
  obtain ⟨claims', user, ⟨hsigned', -⟩, htype, hsub, hmem, hactive, hrole⟩ := h
  obtain rfl := hjose.unique hsigned hsigned'
  exact ⟨htype, user, hmem, hsub, hactive, hrole⟩

theorem jwt_signed_role {jose : Jose} (hjose : jose.Faithful) (now : DateTime) {claims : Claims} {role : Option String}
    {token token' : String} (htoken : jose.Signed token claims) (htoken' : jose.Signed token' { claims with role }) :
    jose.jwt now token' = jose.jwt now token := by
  have hdecode : ∀ {text : String} {c : Claims}, jose.Signed text c →
      jose.decode now text = if now ≤ c.exp then some c else none := fun {text c} hsigned => by
    split
    · next hlater => exact (hjose.decode _ _ _).mpr ⟨hsigned, hlater⟩
    · next hexpired =>
      cases hfound : jose.decode now text with
      | none => rfl
      | some found =>
        obtain ⟨hsigned', hlater⟩ := (hjose.decode _ _ _).mp hfound
        obtain rfl := hjose.unique hsigned hsigned'
        exact absurd hlater hexpired
  unfold Jose.jwt
  rw [hdecode htoken, hdecode htoken']
  dsimp only
  split <;> rfl

theorem serves_world {env : AuthEnv} {s t : AuthState} {event : UserEvent} {fails : DbCall → Option PyError}
    (h : Serves env s event fails t) :
    event.serve env.passwords env.adminSettings (s.database fails) = (.ok (), t.world) ∧ t.now = s.now := by
  obtain ⟨hstep, hok⟩ := h
  cases hstep
  exact ⟨Prod.ext hok rfl, rfl⟩

/-- In every state that a run visits, authorisation follows the table. -/
theorem authorisation_follows_table (env : AuthEnv) (hjose : env.jose.Faithful) (table : UserTable) (now : DateTime)
    (es : List AuthStep) {s : AuthState} (hvisits : Visits (step env) (.start table now) es s) : FollowsTable env s := by
  have hdistinct : s.world.Distinct Users.mapper :=
    invariant_of_steps step_distinct (table.start_distinct now) hvisits
  constructor
  · exact enters_iff_authorised hjose hdistinct
  · intro minimumRole claims role token token' htoken htoken'
    unfold requireRole decodeAccessToken
    rw [jwt_signed_role hjose s.now htoken htoken']
  · intro minimumRole token claims hsigned htype henters
    have hauthorised := (enters_iff_authorised hjose hdistinct _ _).mp henters
    rw [(authorised_signed hjose hsigned hauthorised).1] at htype
    exact absurd htype (by decide)
  · intro userId fails t hserves minimumRole token claims hsigned hsub henters
    obtain ⟨hserve, -⟩ := serves_world hserves
    have hauthorised := (enters_iff_authorised hjose (step_distinct hdistinct hserves.1) _ _).mp henters
    obtain ⟨-, user, hmem, hsub', hactive, -⟩ := authorised_signed hjose hsigned hauthorised
    have hid : user.id = userId := Option.some.inj (hsub'.symm.trans hsub)
    rw [deactivate_committed (database_distinct hdistinct fails) hserve user hmem hid] at hactive
    cases hactive
  · intro userId role requestedBy fails t hserves minimumRole token claims hsigned hsub henters
    obtain ⟨hserve, -⟩ := serves_world hserves
    have hauthorised := (enters_iff_authorised hjose (step_distinct hdistinct hserves.1) _ _).mp henters
    obtain ⟨-, user, hmem, hsub', -, role', hrole', hle⟩ := authorised_signed hjose hsigned hauthorised
    have hid : user.id = userId := Option.some.inj (hsub'.symm.trans hsub)
    have hrole := setRole_committed (database_distinct hdistinct fails) hserve user hmem hid
    have hsame : role' = role := by
      rw [hrole'] at hrole
      cases role <;> cases role' <;> first | rfl | exact absurd hrole (by decide)
    exact hsame ▸ hle

/-! ### An example -/

/-- An administrator and a viewer, with their passwords in the clear. -/
def exampleTable : UserTable where
  rows := [
    { id := 1, email := "admin@example.com", hashedPassword := "$2b$changeme", role := "admin" },
    { id := 2, email := "anna@example.com", hashedPassword := "$2b$sunny-day", role := "user" }]
  distinct := by simp [Mapper.Distinct, Mapper.collides, Mapper.sameKey, mapper]

/-- The application with the administrator of the settings. -/
def exampleEnv : AuthEnv where
  jose := numberedTokens
  passwords := saltedPasswords
  adminSettings := exampleSettings

/-- Anna logs in. -/
def annaLogsIn : AuthStep where
  event := .login 0 { email := "anna@example.com", password := "sunny-day" }

/-- Anna logs in, and the administrator makes her a viewer and then deactivates her. -/
def annaIsDeactivated : List AuthStep :=
  [annaLogsIn, { event := .account (.setRole 2 .viewer 1) }, { event := .account (.deactivate 2) }]

theorem authorisation_after_deactivation :
    ∃ s, run (step exampleEnv) (.start exampleTable 0) annaIsDeactivated = some s ∧ FollowsTable exampleEnv s := by
  have hrun : (run (step exampleEnv) (.start exampleTable 0) annaIsDeactivated).isSome = true := by decide
  obtain ⟨s, hs⟩ := Option.isSome_iff_exists.mp hrun
  exact ⟨s, hs, authorisation_follows_table exampleEnv numberedTokens_faithful exampleTable 0 _
    ⟨annaIsDeactivated, List.prefix_rfl, hs⟩⟩

end Auth

end SmartHome
