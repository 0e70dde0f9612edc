import SmartHome.Auth.Rbac

/-! # The user endpoints

The handlers of `app/api/v1/users.py` that write, with the token that `oauth2_scheme` hands them. -/

namespace SmartHome.Api
open Orm Users

/-- What an endpoint shows of a user. -/
structure UserRead where
  id : Uuid
  email : String
  fullName : Option String
  role : String
  isActive : Bool
  deriving DecidableEq, Repr

/-- The response model reads the attributes off the returned object. -/
def userRead (user : Ref) : Py Users.World UserRead := do
  let row ← read mapper user
  pure { id := row.id, email := row.email, fullName := row.fullName, role := row.role, isActive := row.isActive }

variable (passwords : Passwords) (jwt : Jwt) (token : String)

/-- `PUT /users/me`. -/
def updateMe (data : UserUpdate) : Py Users.World UserRead := do
  let currentUser ← requireRole jwt .viewer token
  getDb fun session => do
    let user ← UserService.updateProfile session currentUser data
    userRead user

/-- `POST /users/me/password`. -/
def changePassword (salt : String) (data : PasswordChange) : Py Users.World Unit := do
  let currentUser ← requireRole jwt .viewer token
  getDb fun session => do
    let _ ← UserService.changePassword passwords session salt currentUser data
    pure ()

/-- `POST /users`. -/
def createUser (id : Uuid) (salt : String) (data : UserCreate) : Py Users.World UserRead := do
  let _ ← requireRole jwt .admin token
  getDb fun session => do
    let user ← UserService.createUser passwords session id salt data
    userRead user

/-- `PUT /users/{user_id}/role`. -/
def updateUserRole (userId : Uuid) (data : UserUpdateRole) : Py Users.World UserRead := do
  let currentUser ← requireRole jwt .admin token
  getDb fun session => do
    let user ← UserService.getById session userId
    let user ← UserService.setRole session user data.role currentUser
    userRead user

/-- `DELETE /users/{user_id}`. -/
def deleteUser (userId : Uuid) : Py Users.World Unit := do
  let _ ← requireRole jwt .admin token
  getDb fun session => UserService.delete session userId

end SmartHome.Api
