import Mathlib.Logic.Function.Basic
import SmartHome.Auth.Jwt

/-! # The authentication endpoints

`login`, `refresh` and `logout` (`app/api/v1/auth.py`), and what a browser does with their cookie. -/

namespace SmartHome.Api
open Orm Users

/-- The body of a login. -/
structure LoginRequest where
  email : String
  password : String

/-- `TokenResponse` and `RefreshResponse`. -/
structure TokenResponse where
  accessToken : String
  tokenType : String := "bearer"
  expiresIn : Int

/-! ## Cookies -/

/-- A `Set-Cookie` header. -/
structure SetCookie where
  key : String
  value : String
  maxAge : Int
  path : String
  httponly : Bool := false
  secure : Bool := false
  samesite : String := "lax"

/-- `Response.delete_cookie`. -/
def deleteCookie (key path : String) : SetCookie := { key, value := "", maxAge := 0, path }

/-- The cookies of a browser under their key and path, each with the time from which on it is not sent. -/
structure CookieJar where
  cookie : String × String → Option (String × DateTime) := fun _ => none

namespace CookieJar

/-- The jar after a `Set-Cookie`; one that is no longer valid removes the cookie. -/
def receive (now : DateTime) (header : SetCookie) (jar : CookieJar) : CookieJar where
  cookie := Function.update jar.cookie (header.key, header.path)
    (if header.maxAge ≤ 0 then none else some (header.value, now + header.maxAge))

/-- The value that the browser sends with a request for the path. -/
def send (now : DateTime) (key path : String) (jar : CookieJar) : Option String :=
  (jar.cookie (key, path)).bind fun cookie => if now < cookie.2 then some cookie.1 else none

end CookieJar

/-- The name of the cookie with the refresh token. -/
def refreshCookieName : String := "refresh_token"

/-- The path that the cookie is sent to. -/
def refreshPath : String := "/api/v1/auth/refresh"

/-! ## The handlers -/

section
variable (jose : Jose) (settings : TokenSettings) (isProduction : Bool) (passwords : Passwords) (now : DateTime)

/-- `POST /auth/login`: the access token, and the cookie with the refresh token. -/
def login (data : LoginRequest) : Py Users.World (TokenResponse × SetCookie) :=
  getDb fun session => do
    let user ← UserService.authenticate passwords session data.email data.password
    let row ← read mapper user
    let accessToken := createAccessToken jose settings now row.id row.role
    let refreshToken := createRefreshToken jose settings now row.id
    pure ({ accessToken, expiresIn := settings.accessTokenExpireMinutes * 60 },
      { key := refreshCookieName, value := refreshToken, maxAge := settings.refreshTokenExpireDays * 86400,
        path := refreshPath, httponly := true, secure := isProduction })

/-- `POST /auth/refresh`: a new access token for a valid refresh token. -/
def refresh (refreshToken : Option String) : Py Users.World TokenResponse :=
  getDb fun session =>
    match refreshToken with
    | none => Eff.raise (.app (.unauthorized "Refresh token missing."))
    | some token =>
      match decodeRefreshToken (jose.jwt now) token with
      | none => Eff.raise (.app (.unauthorized "Invalid or expired refresh token."))
      | some payload =>
        match payload.sub with
        | none => Eff.raise (.app (.unauthorized "Token missing subject."))
        | some userId => do
          let user ← UserService.getById session userId
          let row ← read mapper user
          pure { accessToken := createAccessToken jose settings now row.id row.role,
                 expiresIn := settings.accessTokenExpireMinutes * 60 }

end

/-- `logout` touches neither the database nor any other state: its response is the header that deletes the cookie. -/
def logout : SetCookie := deleteCookie refreshCookieName refreshPath

end SmartHome.Api
