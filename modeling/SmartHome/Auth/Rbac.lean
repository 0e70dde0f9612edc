import SmartHome.Users.Service

/-! # Who may enter a handler

`decode_access_token`, `oauth2_scheme` and `require_role` (`app/auth/jwt.py`, `app/auth/rbac.py`). The
signature and the expiry of a token are checked by the JWT library. -/

namespace SmartHome
open Orm Users

/-- The claims of a token that are read; the subject, `str(user.id)`, is carried as the id. -/
structure Payload where
  sub : Option Uuid
  type : Option String

/-- `jwt.decode` under the secret key: `none` for a token that is malformed, wrongly signed or expired. -/
abbrev Jwt := String → Option Payload

/-- `decode_access_token`: a payload of any other type is none. -/
def decodeAccessToken (jwt : Jwt) (token : String) : Option Payload :=
  match jwt token with
  | none => none
  | some payload => if payload.type ≠ some "access" then none else some payload

/-- The dependency that `require_role(minimum_role)` returns; it loads the user in a session that it closes. -/
def requireRole (jwt : Jwt) (minimumRole : Role) (token : String) : Py Users.World Ref :=
  match decodeAccessToken jwt token with
  | none => Eff.raise (.app (.unauthorized "Invalid or expired token."))
  | some payload =>
    match payload.sub with
    | none => Eff.raise (.app (.unauthorized "Token missing subject."))
    | some userId => do
      match ← withSession fun session => UserRepository.getById session userId with
      | none => Eff.raise (.app (.unauthorized "User not found."))
      | some user =>
        let row ← read mapper user
        if !row.isActive then Eff.raise (.app (.forbidden "Account is deactivated."))
        else if !hasRole row.role minimumRole.value then
          Eff.raise (.app (.forbidden s!"Role '{minimumRole.value}' or higher required, got '{row.role}'."))
        else pure user

theorem requireRole_of_no_payload {jwt : Jwt} {token : String} (role : Role) (h : decodeAccessToken jwt token = none) :
    requireRole jwt role token = Eff.raise (.app (.unauthorized "Invalid or expired token.")) := by
  simp only [requireRole, h]

/-- The token's user may enter: the object is the user as committed, and its session is closed. -/
theorem requireRole_run {jwt : Jwt} {role : Role} {token : String} {payload : Payload} {user : User} {w : Users.World}
    (hdecode : decodeAccessToken jwt token = some payload) (hsub : payload.sub = some user.id)
    (hrow : w.rows.filter (fun row => row.id == user.id) = [user]) (hactive : user.isActive = true)
    (hrole : hasRole user.role role.value = true) (hfails : w.fails .select = none) :
    requireRole jwt role token w =
      (.ok w.refs, (w.openSession.attach w.sessions { value := user, loaded := some user }).putSession w.sessions {}) := by
  have hlookup : UserRepository.getById w.sessions user.id w.openSession =
      (.ok (some w.refs), w.openSession.attach w.sessions { value := user, loaded := some user }) := by
    have hselect : select mapper w.sessions (List.filter fun row => row.id == user.id) w.openSession =
        (.ok [w.refs], w.openSession.attach w.sessions { value := user, loaded := some user }) :=
      select_singleton (by simp) (by simp) hfails (by simpa using hrow)
    rw [UserRepository.getById, Eff.bind_of_ok hselect]
    rfl
  have hread : read mapper w.refs ((w.openSession.attach w.sessions { value := user, loaded := some user }).putSession
      w.sessions {}) = (.ok user, _) := read_run (o := { value := user, loaded := some user }) (by simp [World.attach])
  simp only [requireRole, hdecode, hsub]
  rw [Eff.bind_of_ok (withSession_run hlookup)]
  dsimp only
  rw [Eff.bind_of_ok hread]
  simp [hactive, hrole]

end SmartHome
