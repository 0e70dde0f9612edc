import SmartHome.Lib.Eff
import SmartHome.Lib.PyValue

/-! # Exceptions

The application's exceptions with their HTTP status, error code and default text (`app/exceptions.py`), and
the exceptions that reach the application from the libraries it uses. -/

namespace SmartHome

/-- The exceptions of the application, with their default texts. -/
inductive AppError where
  | base (detail : String := "An unexpected error occurred.")
  | notFound (detail : String := "Resource not found.")
  | conflict (detail : String := "Resource already exists.")
  | unauthorized (detail : String := "Authentication required.")
  | forbidden (detail : String := "Insufficient permissions.")
  | providerConnection (detail : String := "Could not connect to device provider.")
  | providerAuth (detail : String := "Provider authentication failed.")
  | deviceNotFound (ain : String := "")
  | deviceCommand (detail : String := "Device command failed.")
  deriving DecidableEq, Repr

namespace AppError

/-- The status of the answer. -/
def statusCode : AppError → Nat
  | base _ => 500
  | notFound _ => 404
  | conflict _ => 409
  | unauthorized _ => 401
  | forbidden _ => 403
  | providerConnection _ => 503
  | providerAuth _ => 503
  | deviceNotFound _ => 404
  | deviceCommand _ => 502

/-- The code in the answer. -/
def errorCode : AppError → String
  | base _ => "internal_error"
  | notFound _ => "not_found"
  | conflict _ => "conflict"
  | unauthorized _ => "unauthorized"
  | forbidden _ => "forbidden"
  | providerConnection _ => "provider_connection_error"
  | providerAuth _ => "provider_auth_error"
  | deviceNotFound _ => "device_not_found"
  | deviceCommand _ => "device_command_error"

/-- The text in the answer. -/
def detail : AppError → String
  | base d | notFound d | conflict d | unauthorized d | forbidden d | providerConnection d | providerAuth d
  | deviceCommand d => d
  | deviceNotFound ain => if ain ≠ "" then "Device not found: " ++ ain else "Device not found."

end AppError

/-- An exception that a function of the application can raise. -/
inductive PyError where
  | app (e : AppError)
  | builtin (e : BuiltinError)
  /-- SQLAlchemy: a constraint of the database is violated at flush. -/
  | integrityError
  /-- SQLAlchemy: the object is not attached to the session, or its row is gone. -/
  | invalidRequest
  | staleData
  /-- Any other failure of the database, the network or the FRITZ!Box. -/
  | external
  deriving DecidableEq, Repr

/-- A coroutine of the application that runs without overlap. -/
abbrev Py (σ α : Type) := Eff σ PyError α

namespace Py

/-- A result of a built-in function, as a program. -/
def ofExcept {σ α : Type} : Except BuiltinError α → Py σ α
  | .ok a => pure a
  | .error e => Eff.raise (.builtin e)

/-- An outcome that is known before, as a program. -/
def ofOutcome {σ α : Type} : Except PyError α → Py σ α
  | .ok a => pure a
  | .error e => Eff.raise e

theorem ofOutcome_ok {σ α : Type} {outcome : Except PyError α} {a : α} {s t : σ}
    (h : ofOutcome outcome s = (.ok a, t)) : outcome = .ok a ∧ t = s := by
  cases outcome <;> cases h
  exact ⟨rfl, rfl⟩

end Py
end SmartHome
