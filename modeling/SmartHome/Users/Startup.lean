import SmartHome.Lib.Run
import SmartHome.Users.Service

/-! # The administrator at startup

`_ensure_admin_user` (`app/main.py`) on the tables that user management leaves behind. -/

namespace SmartHome.Users
open Orm Run

/-- The settings of the first administrator. -/
structure AdminSettings where
  adminEmail : String
  adminPassword : String

/-- The first administrator. -/
def AdminSettings.admin (settings : AdminSettings) (id : Uuid) (hashedPassword : String) : User where
  id
  email := settings.adminEmail
  hashedPassword
  role := Role.admin.value
  fullName := some "Administrator"

/-- The part of `_ensure_admin_user` under its `async with`. -/
def lookForAdmin (passwords : Passwords) (settings : AdminSettings) (id : Uuid) (salt : String)
    (session : SessionId) : Py World Unit := do
  let result ← select mapper session fun rows => (rows.filter fun row => row.role == Role.admin.value).take 1
  match ← scalarOneOrNone mapper result with
  | some _ => pure ()
  | none =>
    let hashedPassword ← Py.ofOutcome (passwords.hashPassword salt settings.adminPassword)
    let _ ← add session (settings.admin id hashedPassword)
    commit mapper session

/-- `_ensure_admin_user`: an exception is logged and goes no further. -/
def ensureAdminUser (passwords : Passwords) (settings : AdminSettings) (id : Uuid) (salt : String) : Py World Unit :=
  (withSession fun session => lookForAdmin passwords settings id salt session).attempt fun _ => pure ()

variable {passwords : Passwords} {settings : AdminSettings} {w : World}

/-- Someone can administer the application. -/
def HasUsableAdmin (rows : List User) : Prop := ∃ user ∈ rows, user.UsableAdmin

/-- The startup creates an administrator: nobody has the role, the address and the id are free, the row fits its
    columns, and neither the hash nor the database fails. -/
structure CreatesAdmin (passwords : Passwords) (settings : AdminSettings) (id : Uuid) (salt : String) (w : World) :
    Prop where
  works : w.fails .select = none ∧ w.fails .flush = none ∧ w.fails .commit = none
  noAdmin : ∀ row ∈ w.rows, row.role ≠ Role.admin.value
  emailFree : ∀ row ∈ w.rows, row.email ≠ settings.adminEmail
  idFree : ∀ row ∈ w.rows, row.id ≠ id
  fits : ∃ hashed, passwords.hashPassword salt settings.adminPassword = .ok hashed ∧
    mapper.fits (settings.admin id hashed) = true

theorem admits_admin_iff {rows : List User} {id : Uuid} {hashed : String} :
    mapper.Admits rows (settings.admin id hashed) ↔
      mapper.fits (settings.admin id hashed) = true ∧
        ∀ row ∈ rows, row.id ≠ id ∧ row.email ≠ settings.adminEmail := by
  have hcollides : ∀ row, mapper.collides (settings.admin id hashed) row = false ↔
      row.id ≠ id ∧ row.email ≠ settings.adminEmail := fun row => by
    rw [Mapper.collides, Bool.or_eq_false_iff, Mapper.sameKey, beq_eq_false_iff_ne]
    exact and_congr_right fun _ => beq_eq_false_iff_ne.trans ne_comm
  simp only [Mapper.Admits, List.any_eq_false, Bool.not_eq_true, hcollides]

/-! ### What the startup does to the table -/

theorem ensureAdminUser_rows (id : Uuid) (salt : String) (w : World) :
    (ensureAdminUser passwords settings id salt w).2.rows =
      (lookForAdmin passwords settings id salt w.sessions w.openSession).2.rows := by
  unfold ensureAdminUser
  rw [Eff.attempt_pure_state]
  rfl

theorem lookForAdmin_fails {id : Uuid} {salt : String} {e : PyError} (hselect : w.fails .select = some e) :
    (lookForAdmin passwords settings id salt w.sessions w.openSession).2.rows = w.rows := by
  have hfails : select mapper w.sessions (fun rows => (rows.filter fun row => row.role == Role.admin.value).take 1)
      w.openSession = (.error e, w.openSession) := select_of_fails (by simp) hselect
  rw [lookForAdmin, Eff.bind_of_error hfails]
  rfl

theorem lookForAdmin_found {id : Uuid} {salt : String} {admin : User} (hadmin : admin ∈ w.rows)
    (hrole : admin.role = Role.admin.value) :
    (lookForAdmin passwords settings id salt w.sessions w.openSession).2.rows = w.rows := by
  have hmem : admin ∈ w.rows.filter fun row => row.role == Role.admin.value := by
    simp [hadmin, hrole]
  obtain ⟨first, rest, hfilter⟩ := List.exists_cons_of_ne_nil (List.ne_nil_of_mem hmem)
  cases hselect : w.fails .select with
  | some e => exact lookForAdmin_fails hselect
  | none =>
    have hquery : select mapper w.sessions (fun rows => (rows.filter fun row => row.role == Role.admin.value).take 1)
        w.openSession = (.ok [w.refs], w.openSession.attach w.sessions { value := first, loaded := some first }) :=
      select_singleton (by simp) (by simp) hselect (by simp [hfilter])
    rw [lookForAdmin, Eff.bind_of_ok hquery]
    rfl

theorem selectAdmin_missing (hselect : w.fails .select = none) (hnone : ∀ row ∈ w.rows, row.role ≠ Role.admin.value) :
    select mapper w.sessions (fun rows => (rows.filter fun row => row.role == Role.admin.value).take 1) w.openSession =
      (.ok [], w.openSession) := by
  refine select_nil (by simp) hselect ?_
  have hfilter : w.rows.filter (fun row => row.role == Role.admin.value) = [] := by
    simpa using hnone
  simp [hfilter]

theorem lookForAdmin_missing {id : Uuid} {salt hashed : String} (hselect : w.fails .select = none)
    (hnone : ∀ row ∈ w.rows, row.role ≠ Role.admin.value)
    (hhash : passwords.hashPassword salt settings.adminPassword = .ok hashed) :
    (lookForAdmin passwords settings id salt w.sessions w.openSession).2.rows =
      if w.fails .flush = none ∧ w.fails .commit = none ∧ mapper.Admits w.rows (settings.admin id hashed) then
        w.rows ++ [settings.admin id hashed]
      else w.rows := by
  rw [lookForAdmin, Eff.bind_of_ok (selectAdmin_missing hselect hnone), hhash]
  have hadd : ((do let _ ← add w.sessions (settings.admin id hashed); commit mapper w.sessions : Py World Unit)
      w.openSession).2.rows = _ := add_commit_rows (by simp) (by simp)
  rw [World.openSession_session] at hadd
  exact hadd

theorem lookForAdmin_no_hash {id : Uuid} {salt : String} {e : PyError} (hselect : w.fails .select = none)
    (hnone : ∀ row ∈ w.rows, row.role ≠ Role.admin.value)
    (hhash : passwords.hashPassword salt settings.adminPassword = .error e) :
    (lookForAdmin passwords settings id salt w.sessions w.openSession).2.rows = w.rows := by
  rw [lookForAdmin, Eff.bind_of_ok (selectAdmin_missing hselect hnone), hhash]
  rfl

theorem ensureAdminUser_creates {id : Uuid} {salt : String} (h : CreatesAdmin passwords settings id salt w) :
    ∃ hashed, (ensureAdminUser passwords settings id salt w).2.rows = w.rows ++ [settings.admin id hashed] := by
  obtain ⟨⟨hselect, hflush, hcommit⟩, hnone, hemail, hid, hashed, hhash, hfits⟩ := h
  refine ⟨hashed, ?_⟩
  have hadmits : mapper.Admits w.rows (settings.admin id hashed) :=
    admits_admin_iff.mpr ⟨hfits, fun row hrow => ⟨hid row hrow, hemail row hrow⟩⟩
  rw [ensureAdminUser_rows, lookForAdmin_missing hselect hnone hhash, if_pos ⟨hflush, hcommit, hadmits⟩]

theorem ensureAdminUser_keeps {id : Uuid} {salt : String} (h : ¬ CreatesAdmin passwords settings id salt w) :
    (ensureAdminUser passwords settings id salt w).2.rows = w.rows := by
  rw [ensureAdminUser_rows]
  by_cases hnone : ∀ row ∈ w.rows, row.role ≠ Role.admin.value
  · cases hselect : w.fails .select with
    | some e => exact lookForAdmin_fails hselect
    | none =>
      cases hhash : passwords.hashPassword salt settings.adminPassword with
      | error e => exact lookForAdmin_no_hash hselect hnone hhash
      | ok hashed =>
        rw [lookForAdmin_missing hselect hnone hhash, if_neg]
        rintro ⟨hflush, hcommit, hadmits⟩
        obtain ⟨hfits, hfree⟩ := admits_admin_iff.mp hadmits
        exact h ⟨⟨hselect, hflush, hcommit⟩, hnone, fun row hrow => (hfree row hrow).2,
          fun row hrow => (hfree row hrow).1, hashed, hhash, hfits⟩
  · push Not at hnone
    obtain ⟨admin, hadmin, hrole⟩ := hnone
    exact lookForAdmin_found hadmin hrole

/-- After a startup there is a usable administrator exactly if there was one before, or the startup creates one. -/
theorem ensureAdminUser_iff (passwords : Passwords) (settings : AdminSettings) (id : Uuid) (salt : String) (w : World) :
    HasUsableAdmin (ensureAdminUser passwords settings id salt w).2.rows ↔
      HasUsableAdmin w.rows ∨ CreatesAdmin passwords settings id salt w := by
  by_cases hcreates : CreatesAdmin passwords settings id salt w
  · obtain ⟨hashed, hrows⟩ := ensureAdminUser_creates hcreates
    rw [hrows]
    exact ⟨fun _ => Or.inr hcreates, fun _ =>
      ⟨settings.admin id hashed, List.mem_append_right _ (List.mem_singleton_self _), rfl, rfl⟩⟩
  · rw [ensureAdminUser_keeps hcreates]
    exact ⟨Or.inl, fun h => h.resolve_right hcreates⟩

/-! ## Runs -/

/-- What happens to the table of users. -/
inductive UserEvent where
  | startup (id : Uuid) (salt : String)
  | createUser (id : Uuid) (salt : String) (data : UserCreate)
  | setRole (userId : Uuid) (role : Role) (requestedBy : Uuid)
  | deactivate (userId : Uuid)
  | delete (userId : Uuid)

namespace UserEvent

/-- The operation, in a session of its own; the requesting user comes from an earlier session. -/
def serve (passwords : Passwords) (settings : AdminSettings) : UserEvent → Py World Unit
  | startup id salt => ensureAdminUser passwords settings id salt
  | createUser id salt data => getDb fun session => do
    let _ ← UserService.createUser passwords session id salt data
    pure ()
  | setRole userId role requestedBy => do
    match ← withSession fun session => UserRepository.getById session requestedBy with
    | none => Eff.raise (.app (.unauthorized "User not found."))
    | some requestingUser => getDb fun session => do
      let user ← UserService.getById session userId
      let _ ← UserService.setRole session user role requestingUser
      pure ()
  | deactivate userId => getDb fun session => do
    let user ← UserService.getById session userId
    let _ ← UserService.deactivate session user
    pure ()
  | delete userId => getDb fun session => UserService.delete session userId

end UserEvent

/-- An event, and the calls of the database that fail in it. -/
structure UserStep where
  event : UserEvent
  fails : DbCall → Option PyError := fun _ => none

/-- The table after an event. -/
def step (passwords : Passwords) (settings : AdminSettings) (w : World) (e : UserStep) : Option World :=
  some (e.event.serve passwords settings { w with fails := e.fails }).2

/-- The step, when it is a startup, leaves a usable administrator. -/
def LeavesAdmin (passwords : Passwords) (settings : AdminSettings) (w : World) (e : UserStep) : Prop :=
  match e.event with
  | .startup _ _ => ∀ t, step passwords settings w e = some t → HasUsableAdmin t.rows
  | _ => True

/-- The step, when it is a startup, finds a usable administrator or can create one. -/
def AdminPossible (passwords : Passwords) (settings : AdminSettings) (w : World) (e : UserStep) : Prop :=
  match e.event with
  | .startup id salt => HasUsableAdmin w.rows ∨ CreatesAdmin passwords settings id salt { w with fails := e.fails }
  | _ => True

theorem leavesAdmin_iff (e : UserStep) :
    LeavesAdmin passwords settings w e ↔ AdminPossible passwords settings w e := by
  obtain ⟨event, fails⟩ := e
  cases event with
  | startup id salt =>
    have hiff := ensureAdminUser_iff passwords settings id salt { w with fails }
    exact ⟨fun h => hiff.mp (h _ rfl), fun h t ht => by
      cases ht
      exact hiff.mpr h⟩
  | createUser | setRole | deactivate | delete => exact Iff.rfl

/-- In every run, the startups leave a usable administrator exactly if each finds one or can create one. -/
theorem startups_leave_admin_iff (passwords : Passwords) (settings : AdminSettings) (rows : List User)
    (es : List UserStep) :
    Meets (step passwords settings) (LeavesAdmin passwords settings) { rows } es ↔
      Meets (step passwords settings) (AdminPossible passwords settings) { rows } es :=
  meets_iff (I := fun _ => True) (fun _ _ _ => trivial) (fun _ => leavesAdmin_iff _) trivial

/-! ### A run -/

/-- The settings as they are delivered. -/
def exampleSettings : AdminSettings where
  adminEmail := "admin@example.com"
  adminPassword := "changeme"

/-- The first start creates the administrator, who then takes the role from the own account. -/
def selfDemotion : List UserStep :=
  [{ event := .startup 1 "$2b$" }, { event := .setRole 1 .viewer 1 }, { event := .startup 2 "$2b$" }]

/-- The address of the demoted account is taken, so that the second start fails to insert, and says nothing. -/
theorem self_demotion_leaves_no_admin :
    ∃ w, run (step saltedPasswords exampleSettings) { rows := [] } selfDemotion = some w ∧ ¬ HasUsableAdmin w.rows := by
  have hrun : ((run (step saltedPasswords exampleSettings) { rows := [] } selfDemotion).map fun w => w.rows) =
      some [{ exampleSettings.admin 1 "$2b$changeme" with role := Role.viewer.value }] := by
    decide
  obtain ⟨w, hrun, hrows⟩ := Option.map_eq_some_iff.mp hrun
  refine ⟨w, hrun, ?_⟩
  rintro ⟨user, hmem, hrole, -⟩
  rw [hrows, List.mem_singleton] at hmem
  subst hmem
  exact absurd hrole (by decide)

end SmartHome.Users
