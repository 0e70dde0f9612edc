import SmartHome.Auth.Jwt
import SmartHome.Lib.Run

/-! # The proactive refresh

`_scheduleProactiveRefresh` and `_tryRefreshToken` (`app/static/js/app.js`) on a page that stays open. Times are in
milliseconds of the browser's clock; what a token says, and what the server compares it with, is in seconds of the
server's clock. The user of the cookie is stored. -/

namespace SmartHome.Ui
open Run

/-- The answer to a refresh: a token issued at this time of the server, or 401. -/
inductive RefreshAnswer where
  | token (issued : Int)
  | refused

/-- A call of `_tryRefreshToken`. -/
structure Refresh where
  started : Int
  /-- A call of `authFetch` waits for it. -/
  awaited : Bool := false
  answer : Option RefreshAnswer := none

/-- A page, from its loading on. -/
structure OpenPage where
  now : Int
  /-- The time at which the server issued the token in `localStorage`. -/
  issued : Option Int
  /-- The time for which `_tokenRefreshTimer` is set. -/
  timer : Option Int
  refreshes : List Refresh := []

/-- What happens on a page, and to its refreshes. -/
inductive OpenPageEvent where
  | tick (now : Int)
  /-- The timer fires. -/
  | fire
  /-- A call of `authFetch` has been answered 401. -/
  | refresh
  | serve (i : ℕ)
  | receive (i : ℕ)

section
variable (jose : Jose) (settings : TokenSettings) (ahead : Int) (cookie : String)

/-- The clock of the server, in seconds. -/
def serverTime (now : Int) : Int := (now + ahead) / 1000

/-- `_getTokenExpiry` of a token that was issued then. -/
def tokenExpiry (issued : Int) : Int := (issued + settings.accessTokenExpireMinutes * 60) * 1000

/-- `Date.now() + delay`. -/
def refreshTime (issued : Int) (now : Int) : Int := now + max (tokenExpiry settings issued - now - 90000) 10000

namespace OpenPage

/-- `DOMContentLoaded`, with a token in `localStorage`. -/
def loaded (now : Int) (issued : Int) : OpenPage :=
  { now, issued := some issued, timer := some (refreshTime settings issued now) }

/-- `POST /api/v1/auth/refresh` with the cookie of the browser. -/
def answer (time : Int) : RefreshAnswer :=
  if (decodeRefreshToken (jose.jwt time) cookie).isSome then .token time else .refused

/-- The page after an event. -/
def step (p : OpenPage) : OpenPageEvent → Option OpenPage
  | .tick now => if p.now ≤ now then some { p with now } else none
  | .fire => do
    let due ← p.timer
    if p.now < due then none else some { p with timer := none, refreshes := p.refreshes ++ [{ started := p.now }] }
  | .refresh => some { p with refreshes := p.refreshes ++ [{ started := p.now, awaited := true }] }
  | .serve i => do
    let refresh ← p.refreshes[i]?
    let answer := some (answer jose cookie (serverTime ahead p.now))
    if refresh.answer.isSome then none else some { p with refreshes := p.refreshes.set i { refresh with answer } }
  | .receive i => do
    let refresh ← p.refreshes[i]?
    match ← refresh.answer with
    | .token issued =>
      some { p with
        issued := some issued
        timer := some (refreshTime settings issued p.now)
        refreshes := p.refreshes.eraseIdx i }
    -- `authFetch` removes the token and leads to the login page; the timer only warns.
    | .refused =>
      some { p with issued := if refresh.awaited then none else p.issued, refreshes := p.refreshes.eraseIdx i }

end OpenPage
end

/-! ## Pages in time -/

/-- The timer fires at most `late` after its time, and a refresh takes at most `trip`. -/
structure Pace where
  late : Int
  trip : Int

namespace OpenPage
variable {jose : Jose} {settings : TokenSettings} {ahead : Int} {pace : Pace} {p q : OpenPage}

/-- A timer, or a refresh that is on its way, brings a new token before the one at hand expires. -/
inductive Covered (settings : TokenSettings) (ahead : Int) (pace : Pace) (issued : Int) (p : OpenPage) : Prop where
  | timer (due : Int) (set : p.timer = some due)
      (early : due + pace.late + pace.trip + ahead ≤ tokenExpiry settings issued) : Covered settings ahead pace issued p
  | refresh (refresh : Refresh) (mem : refresh ∈ p.refreshes)
      (early : refresh.started + pace.trip + ahead ≤ tokenExpiry settings issued) : Covered settings ahead pace issued p

end OpenPage
end SmartHome.Ui
