import SmartHome.Users.Model

/-! # The user service

`UserRepository`, `UserService` and `get_db` (`app/users/repository.py`, `app/users/service.py`,
`app/dependencies.py`). A user is an object that some session loaded; the service works in a session of its own. -/

namespace SmartHome.Users
open Orm

/-! ## `get_db` -/

/-- Commits when the body returns, rolls back when the body or the commit raises, and closes the session. -/
def getDb {α : Type} (body : SessionId → Py World α) : Py World α :=
  withSession fun session =>
    (do let a ← body session; commit mapper session; pure a : Py World α).attempt fun e => do
      rollback session
      Eff.raise e

/-! ## `UserRepository` -/

namespace UserRepository

/-- `UserRepository.get_by_id`. -/
def getById (session : SessionId) (userId : Uuid) : Py World (Option Ref) := do
  let result ← select mapper session (List.filter fun row => row.id == userId)
  scalarOneOrNone mapper result

/-- `UserRepository.get_by_email`. -/
def getByEmail (session : SessionId) (email : String) : Py World (Option Ref) := do
  let result ← select mapper session (List.filter fun row => row.email == email)
  scalarOneOrNone mapper result

/-- `UserRepository.create`. -/
def create (session : SessionId) (user : User) : Py World Ref := do
  let r ← add session user
  flush mapper session
  refresh mapper session r
  pure r

/-- `UserRepository.update`. -/
def update (session : SessionId) (user : Ref) : Py World Ref := do
  flush mapper session
  refresh mapper session user
  pure user

/-- `UserRepository.delete`. -/
def delete (session : SessionId) (user : Ref) : Py World Unit := do
  Orm.delete mapper session user
  flush mapper session

end UserRepository

/-! ## `UserService` -/

namespace UserService

variable (passwords : Passwords) (session : SessionId)

/-- `id` is the new `uuid4()`, `salt` the one that bcrypt draws. -/
def createUser (id : Uuid) (salt : String) (data : UserCreate) : Py World Ref := do
  match ← UserRepository.getByEmail session data.email with
  | some _ => Eff.raise (.app (.conflict s!"Email '{data.email}' is already registered."))
  | none =>
    let hashedPassword ← Py.ofOutcome (passwords.hashPassword salt data.password)
    UserRepository.create session
      { id, email := data.email, hashedPassword, fullName := data.fullName, role := data.role.value }

/-- `UserService.get_by_id`. -/
def getById (userId : Uuid) : Py World Ref := do
  match ← UserRepository.getById session userId with
  | some user => pure user
  | none => Eff.raise (.app (.notFound s!"User {Uuid.text userId} not found."))

/-- `UserService.update_profile`. -/
def updateProfile (user : Ref) (data : UserUpdate) : Py World Ref := do
  let row ← read mapper user
  (match data.email with
    | none => pure ()
    | some email =>
      if email = row.email then pure ()
      else do
        match ← UserRepository.getByEmail session email with
        | some _ => Eff.raise (.app (.conflict s!"Email '{email}' is already taken."))
        | none => assign user fun row => { row with email })
  (match data.fullName with
    | none => pure ()
    | some name => assign user fun row => { row with fullName := some name })
  UserRepository.update session user

/-- `UserService.change_password`. -/
def changePassword (salt : String) (user : Ref) (data : PasswordChange) : Py World Ref := do
  let row ← read mapper user
  if !(← Py.ofOutcome (passwords.verifyPassword data.currentPassword row.hashedPassword)) then
    Eff.raise (.app (.unauthorized "Current password is incorrect."))
  else do
    let hashedPassword ← Py.ofOutcome (passwords.hashPassword salt data.newPassword)
    assign user fun row => { row with hashedPassword }
    UserRepository.update session user

/-- `UserService.set_role`. -/
def setRole (user : Ref) (role : Role) (requestingUser : Ref) : Py World Ref := do
  let requesting ← read mapper requestingUser
  if requesting.role ≠ Role.admin.value then
    Eff.raise (.app (.forbidden "Only admins can change roles."))
  else do
    assign user fun row => { row with role := role.value }
    UserRepository.update session user

/-- `UserService.deactivate`. -/
def deactivate (user : Ref) : Py World Ref := do
  assign user fun row => { row with isActive := false }
  UserRepository.update session user

/-- `UserService.delete`. -/
def delete (userId : Uuid) : Py World Unit := do
  let user ← getById session userId
  UserRepository.delete session user

/-- `UserService.authenticate`. -/
def authenticate (email password : String) : Py World Ref := do
  match ← UserRepository.getByEmail session email with
  | none => Eff.raise (.app (.unauthorized "Invalid email or password."))
  | some user =>
    let row ← read mapper user
    if !(← Py.ofOutcome (passwords.verifyPassword password row.hashedPassword)) then
      Eff.raise (.app (.unauthorized "Invalid email or password."))
    else if !row.isActive then Eff.raise (.app (.forbidden "Account is deactivated."))
    else pure user

end UserService
end SmartHome.Users
