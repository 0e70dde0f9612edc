import SmartHome.Exceptions
import SmartHome.Lib.Orm

/-! # Users

The roles, the `users` table and the request bodies of the user domain (`app/auth/rbac.py`,
`app/users/models.py`, `app/users/schemas.py`, `migrations/versions/0001_initial_schema.py`). -/

namespace SmartHome

/-- The roles. -/
inductive Role where
  | admin
  | user
  | viewer
  deriving DecidableEq, Repr

namespace Role

/-- The value of the enumeration. -/
def value : Role → String
  | admin => "admin"
  | user => "user"
  | viewer => "viewer"

/-- The place of the role in the hierarchy. -/
def rank (role : String) (default : Int) : Int :=
  if role = viewer.value then 0
  else if role = user.value then 1
  else if role = admin.value then 2
  else default

end Role

/-- `has_role`: at least the required role. -/
def hasRole (userRole requiredRole : String) : Bool := Role.rank userRole (-1) ≥ Role.rank requiredRole 999

namespace Users

/-- A row of `users`. -/
structure User where
  id : Uuid
  email : String
  hashedPassword : String
  role : String := Role.viewer.value
  isActive : Bool := true
  fullName : Option String := none
  deriving DecidableEq, Repr

/-- The table: `email` is unique, and the texts are bounded. -/
def mapper : Orm.Mapper Uuid User PyError where
  key := User.id
  clash a b := a.email == b.email
  fits row :=
    row.email.length ≤ 255 && row.hashedPassword.length ≤ 255 && row.role.length ≤ 20 &&
      row.fullName.all fun name => name.length ≤ 255
  error
    | .integrity => .integrityError
    | .data => .external
    | .invalidRequest => .invalidRequest
    | .stale => .staleData

/-- The table with its sessions. -/
abbrev World := Orm.World User PyError

/-- An administrator who can log in. -/
def User.UsableAdmin (user : User) : Prop := user.role = Role.admin.value ∧ user.isActive = true

instance (user : User) : Decidable user.UsableAdmin := inferInstanceAs (Decidable (_ ∧ _))

/-! ### Request bodies -/

/-- The check of a new password. -/
def passwordStrength (v : String) : Bool := 8 ≤ v.length

/-- The body that creates a user. -/
structure UserCreate where
  email : String
  password : String
  fullName : Option String := none
  role : Role := .viewer
  strong : passwordStrength password = true

/-- The body that changes the own account. -/
structure UserUpdate where
  fullName : Option String := none
  email : Option String := none

/-- The body that changes a role. -/
structure UserUpdateRole where
  role : Role

/-- The body that changes the own password. -/
structure PasswordChange where
  currentPassword : String
  newPassword : String
  strong : passwordStrength newPassword = true

/-! ### Passwords -/

/-- `app/auth/password.py` over bcrypt, which raises on some passwords. A hash depends on a random salt. -/
structure Passwords where
  hashPassword : String → String → Except PyError String
  verifyPassword : String → String → Except PyError Bool

/-- Passwords that are stored in the clear after a fixed salt, for examples. -/
def saltedPasswords : Passwords where
  hashPassword salt password := .ok (salt ++ password)
  verifyPassword password hashed := .ok (hashed == "$2b$" ++ password)

end Users
end SmartHome
