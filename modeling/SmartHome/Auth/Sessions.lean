import SmartHome.Lib.Run
import SmartHome.Lib.OrmSync
import SmartHome.Api.Auth
import SmartHome.Users.Startup

/-! # Sessions over time

The machine of logins, refreshes, logouts and account changes: the users table, the clock and the browsers.
A token that someone kept, or made up, can be presented at any time. -/

namespace SmartHome.Auth
open Orm Users Run Api

/-- What logins and refreshes use. -/
structure AuthEnv where
  jose : Jose
  settings : TokenSettings := {}
  isProduction : Bool := true
  passwords : Passwords
  adminSettings : AdminSettings

/-- The users table of a database: its unique columns are unique. -/
structure UserTable where
  rows : List User
  distinct : Users.mapper.Distinct rows

/-- The table of users, the clock and the browsers. -/
structure AuthState where
  world : Users.World
  now : DateTime
  jar : ℕ → CookieJar := fun _ => {}
  /-- The refresh tokens that were a browser's cookie when it called `logout`; nothing reads them. -/
  loggedOut : List String := []

/-- Nobody is logged in. -/
def AuthState.start (table : UserTable) (now : DateTime) : AuthState := { world := { rows := table.rows }, now }

/-- What browsers and others ask for, and the clock. -/
inductive AuthEvent where
  | login (client : ℕ) (data : LoginRequest)
  /-- A browser asks for a refresh, and sends its cookie. -/
  | refresh (client : ℕ)
  /-- Someone asks for a refresh with a cookie of their own making. -/
  | present (cookie : Option String)
  | logout (client : ℕ)
  | account (event : UserEvent)
  | tick (now : DateTime)

/-- An event, and the calls of the database that fail in it. -/
structure AuthStep where
  event : AuthEvent
  fails : DbCall → Option PyError := fun _ => none

namespace AuthState

/-- The refresh token that the browser sends. -/
def cookie (s : AuthState) (client : ℕ) : Option String := (s.jar client).send s.now refreshCookieName refreshPath

/-- The browser takes the cookie into its jar. -/
def receive (client : ℕ) (header : SetCookie) (s : AuthState) : AuthState :=
  { s with jar := Function.update s.jar client ((s.jar client).receive s.now header) }

/-- The database as the requests of this step find it. -/
def database (s : AuthState) (fails : DbCall → Option PyError) : Users.World := { s.world with fails }

end AuthState

section
variable (env : AuthEnv)

/-- The login at this time. -/
def serveLogin (s : AuthState) (data : LoginRequest) : Py Users.World (TokenResponse × SetCookie) :=
  login env.jose env.settings env.isProduction env.passwords s.now data

/-- The refresh at this time. -/
def serveRefresh (s : AuthState) (cookie : Option String) : Py Users.World TokenResponse :=
  Api.refresh env.jose env.settings s.now cookie

/-- What an event does; the cookie of a request that fails is not set. -/
def step (s : AuthState) (e : AuthStep) : Option AuthState :=
  match e.event with
  | .login client data =>
    match serveLogin env s data (s.database e.fails) with
    | (.ok (_, header), world) => some (({ s with world }).receive client header)
    | (.error _, world) => some { s with world }
  | .refresh client => some { s with world := (serveRefresh env s (s.cookie client) (s.database e.fails)).2 }
  | .present cookie => some { s with world := (serveRefresh env s cookie (s.database e.fails)).2 }
  | .logout client =>
    some (({ s with loggedOut := (s.cookie client).toList ++ s.loggedOut }).receive client Api.logout)
  | .account event => some { s with world := (event.serve env.passwords env.adminSettings (s.database e.fails)).2 }
  | .tick now => if s.now ≤ now then some { s with now } else none

end

/-! ### The table stays a table -/

theorem mapper_symmetric : Users.mapper.Symmetric := fun _ _ => Bool.beq_comm

theorem keepsDistinct_seq {α β : Type} {p : Py Users.World α} {f : α → Py Users.World β}
    (hp : Eff.Keeps (KeepsDistinct Users.mapper) p) (hf : ∀ a, Eff.Keeps (KeepsDistinct Users.mapper) (f a)) :
    Eff.Keeps (KeepsDistinct Users.mapper) (p >>= f) :=
  .bind (R := KeepsDistinct Users.mapper) KeepsDistinct.trans hp hf

theorem keepsDistinct_pure {α : Type} (a : α) : Eff.Keeps (KeepsDistinct Users.mapper) (pure a : Py Users.World α) :=
  .pure KeepsDistinct.refl a

theorem keepsDistinct_raise {α : Type} (e : PyError) :
    Eff.Keeps (KeepsDistinct Users.mapper) (Eff.raise e : Py Users.World α) :=
  .raise KeepsDistinct.refl e

theorem ofOutcome_keepsDistinct {α : Type} (outcome : Except PyError α) :
    Eff.Keeps (KeepsDistinct Users.mapper) (Py.ofOutcome outcome : Py Users.World α) := by
  cases outcome with
  | ok a => exact keepsDistinct_pure a
  | error e => exact keepsDistinct_raise e

section Keeps
variable {session : SessionId} {passwords : Passwords}

theorem getDb_keepsDistinct {α : Type} {body : SessionId → Py Users.World α}
    (hbody : ∀ session, Eff.Keeps (KeepsDistinct Users.mapper) (body session)) :
    Eff.Keeps (KeepsDistinct Users.mapper) (getDb body) :=
  withSession_keepsDistinct fun session =>
    .attempt (R := KeepsDistinct Users.mapper) KeepsDistinct.trans
      (keepsDistinct_seq (hbody session) fun a =>
        keepsDistinct_seq (commit_keepsDistinct mapper_symmetric) fun _ => keepsDistinct_pure a)
      fun e => keepsDistinct_seq rollback_keepsDistinct fun _ => keepsDistinct_raise e

theorem lookup_keepsDistinct (query : List User → List User) :
    Eff.Keeps (KeepsDistinct Users.mapper) (lookup Users.mapper session query) :=
  keepsDistinct_seq (select_keepsDistinct query) fun rs => scalarOneOrNone_keepsDistinct rs

theorem repositoryUpdate_keepsDistinct (user : Ref) :
    Eff.Keeps (KeepsDistinct Users.mapper) (UserRepository.update session user) :=
  keepsDistinct_seq (flush_keepsDistinct mapper_symmetric) fun _ =>
    keepsDistinct_seq (refresh_keepsDistinct user) fun _ => keepsDistinct_pure user

theorem getById_keepsDistinct (userId : Uuid) :
    Eff.Keeps (KeepsDistinct Users.mapper) (UserService.getById session userId) :=
  keepsDistinct_seq (lookup_keepsDistinct _) fun found => by
    cases found with
    | none => exact keepsDistinct_raise _
    | some user => exact keepsDistinct_pure user

theorem authenticate_keepsDistinct (email password : String) :
    Eff.Keeps (KeepsDistinct Users.mapper) (UserService.authenticate passwords session email password) :=
  keepsDistinct_seq (lookup_keepsDistinct _) fun found => by
    cases found with
    | none => exact keepsDistinct_raise _
    | some user =>
      refine keepsDistinct_seq (read_keepsDistinct user) fun row =>
        keepsDistinct_seq (ofOutcome_keepsDistinct _) fun correct => ?_
      split
      · exact keepsDistinct_raise _
      split
      · exact keepsDistinct_raise _
      · exact keepsDistinct_pure user

theorem createUser_keepsDistinct (id : Uuid) (salt : String) (data : UserCreate) :
    Eff.Keeps (KeepsDistinct Users.mapper) (UserService.createUser passwords session id salt data) :=
  keepsDistinct_seq (lookup_keepsDistinct _) fun found => by
    cases found with
    | some user => exact keepsDistinct_raise _
    | none =>
      refine keepsDistinct_seq (ofOutcome_keepsDistinct _) fun hashedPassword => ?_
      refine keepsDistinct_seq (add_keepsDistinct _) fun user => ?_
      refine keepsDistinct_seq (flush_keepsDistinct mapper_symmetric) fun _ => ?_
      exact keepsDistinct_seq (refresh_keepsDistinct user) fun _ => keepsDistinct_pure user

theorem setRole_keepsDistinct (user : Ref) (role : Role) (requestingUser : Ref) :
    Eff.Keeps (KeepsDistinct Users.mapper) (UserService.setRole session user role requestingUser) :=
  keepsDistinct_seq (read_keepsDistinct requestingUser) fun requesting => by
    split
    · exact keepsDistinct_raise _
    · exact keepsDistinct_seq (assign_keepsDistinct user _) fun _ => repositoryUpdate_keepsDistinct user

theorem delete_keepsDistinct (userId : Uuid) :
    Eff.Keeps (KeepsDistinct Users.mapper) (UserService.delete session userId) :=
  keepsDistinct_seq (getById_keepsDistinct userId) fun user =>
    keepsDistinct_seq (Orm.delete_keepsDistinct user) fun _ => flush_keepsDistinct mapper_symmetric

theorem lookForAdmin_keepsDistinct (settings : AdminSettings) (id : Uuid) (salt : String) :
    Eff.Keeps (KeepsDistinct Users.mapper) (lookForAdmin passwords settings id salt session) :=
  keepsDistinct_seq (select_keepsDistinct _) fun result =>
    keepsDistinct_seq (scalarOneOrNone_keepsDistinct result) fun found => by
      cases found with
      | some admin => exact keepsDistinct_pure ()
      | none =>
        refine keepsDistinct_seq (ofOutcome_keepsDistinct _) fun hashedPassword => ?_
        exact keepsDistinct_seq (add_keepsDistinct _) fun _ => commit_keepsDistinct mapper_symmetric

theorem serve_keepsDistinct (settings : AdminSettings) (event : UserEvent) :
    Eff.Keeps (KeepsDistinct Users.mapper) (event.serve passwords settings) := by
  cases event with
  | startup id salt =>
    exact .attempt (R := KeepsDistinct Users.mapper) KeepsDistinct.trans
      (withSession_keepsDistinct fun _ => lookForAdmin_keepsDistinct settings id salt) fun _ => keepsDistinct_pure ()
  | createUser id salt data =>
    exact getDb_keepsDistinct fun session =>
      keepsDistinct_seq (createUser_keepsDistinct id salt data) fun _ => keepsDistinct_pure ()
  | setRole userId role requestedBy =>
    refine keepsDistinct_seq (withSession_keepsDistinct fun session => lookup_keepsDistinct _) fun found => ?_
    cases found with
    | none => exact keepsDistinct_raise _
    | some requestingUser =>
      refine getDb_keepsDistinct fun session => keepsDistinct_seq (getById_keepsDistinct userId) fun user => ?_
      exact keepsDistinct_seq (setRole_keepsDistinct user role requestingUser) fun _ => keepsDistinct_pure ()
  | deactivate userId =>
    refine getDb_keepsDistinct fun session => keepsDistinct_seq (getById_keepsDistinct userId) fun user => ?_
    refine keepsDistinct_seq ?_ fun _ => keepsDistinct_pure ()
    exact keepsDistinct_seq (assign_keepsDistinct user _) fun _ => repositoryUpdate_keepsDistinct user
  | delete userId => exact getDb_keepsDistinct fun session => delete_keepsDistinct userId

theorem login_keepsDistinct (env : AuthEnv) (s : AuthState) (data : LoginRequest) :
    Eff.Keeps (KeepsDistinct Users.mapper) (serveLogin env s data) :=
  getDb_keepsDistinct fun _ => keepsDistinct_seq (authenticate_keepsDistinct _ _) fun user =>
    keepsDistinct_seq (read_keepsDistinct user) fun _ => keepsDistinct_pure _

theorem refresh_keepsDistinct (env : AuthEnv) (s : AuthState) (cookie : Option String) :
    Eff.Keeps (KeepsDistinct Users.mapper) (serveRefresh env s cookie) := by
  refine getDb_keepsDistinct fun session => ?_
  cases cookie with
  | none => exact keepsDistinct_raise _
  | some token =>
    dsimp only
    cases decodeRefreshToken (env.jose.jwt s.now) token with
    | none => exact keepsDistinct_raise _
    | some payload =>
      dsimp only
      cases payload.sub with
      | none => exact keepsDistinct_raise _
      | some userId =>
        exact keepsDistinct_seq (getById_keepsDistinct userId) fun user =>
          keepsDistinct_seq (read_keepsDistinct user) fun _ => keepsDistinct_pure _

end Keeps

theorem UserTable.start_distinct (table : UserTable) (now : DateTime) :
    (AuthState.start table now).world.Distinct Users.mapper :=
  ⟨table.distinct, fun _ => List.Pairwise.nil⟩

theorem database_distinct {s : AuthState} (h : s.world.Distinct Users.mapper) (fails : DbCall → Option PyError) :
    (s.database fails).Distinct Users.mapper :=
  ⟨h.committed, h.seen⟩

theorem step_distinct {env : AuthEnv} {s t : AuthState} {e : AuthStep} (h : s.world.Distinct Users.mapper)
    (hstep : step env s e = some t) : t.world.Distinct Users.mapper := by
  have hdatabase := database_distinct h e.fails
  unfold step at hstep
  split at hstep
  · next client data _ =>
    have hkeeps := login_keepsDistinct env s data _ hdatabase
    split at hstep <;> next hserve =>
      cases hstep
      rw [hserve] at hkeeps
      exact hkeeps
  · cases hstep
    exact refresh_keepsDistinct env s _ _ hdatabase
  · cases hstep
    exact refresh_keepsDistinct env s _ _ hdatabase
  · cases hstep
    exact h
  · cases hstep
    exact serve_keepsDistinct env.adminSettings _ _ hdatabase
  · split at hstep
    · cases hstep
      exact h
    · cases hstep

end SmartHome.Auth
