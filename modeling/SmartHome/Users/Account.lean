import SmartHome.Api.Users

/-! # One's own account

`require_role` hands the handler a user that a closed session loaded; the service refreshes this user in the session
of the request, which does not know it. -/

namespace SmartHome.Users
open Orm

variable {passwords : Passwords} {jwt : Jwt} {session : SessionId} {user : Ref} {w : World}

/-! ### Queries -/

theorem getById_within (userId : Uuid) : Eff.Keeps (Within session) (UserRepository.getById session userId) :=
  .bind (R := Within session) Within.trans (select_within _) scalarOneOrNone_within

theorem getByEmail_within (email : String) : Eff.Keeps (Within session) (UserRepository.getByEmail session email) :=
  .bind (R := Within session) Within.trans (select_within _) scalarOneOrNone_within

theorem scalarOneOrNone_some {rs : List Ref} {r : Ref} {t : World}
    (h : scalarOneOrNone mapper rs w = (.ok (some r), t)) : t = w ∧ r ∈ rs := by
  unfold scalarOneOrNone at h
  split at h
  · cases h
  · cases h
    exact ⟨rfl, List.mem_singleton_self _⟩
  · cases h

theorem getById_attached {userId : Uuid} {r : Ref} {t : World}
    (h : UserRepository.getById session userId w = (.ok (some r), t)) : r ∈ (t.session session).objects := by
  obtain ⟨rs, u, hselect, hone⟩ := Eff.bind_eq_ok.mp h
  obtain ⟨rfl, hmem⟩ := scalarOneOrNone_some hone
  exact select_attached hselect r hmem

/-! ### `require_role` -/

/-- The table has not changed. -/
def SameRows (s t : World) : Prop := t.rows = s.rows

theorem sameRows_trans {s t u : World} (hst : SameRows s t) (htu : SameRows t u) : SameRows s u := htu.trans hst

theorem read_sameRows (r : Ref) : Eff.Keeps SameRows (read mapper r : Py World User) := fun w =>
  (read_within r w : Within 0 w _).rows

theorem requireRole_sameRows (jwt : Jwt) (role : Role) (token : String) : Eff.Keeps SameRows (requireRole jwt role token) := by
  unfold requireRole
  cases decodeAccessToken jwt token with
  | none => exact fun w => rfl
  | some payload =>
    dsimp only
    cases payload.sub with
    | none => exact fun w => rfl
    | some userId =>
      refine .bind (R := SameRows) sameRows_trans
        (fun w => (withSession_within (fun _ => getById_within userId) w).1) fun found => ?_
      cases found with
      | none => exact fun w => rfl
      | some user =>
        refine .bind (R := SameRows) sameRows_trans (read_sameRows user) fun row => ?_
        split
        · exact fun w => rfl
        split <;> exact fun w => rfl

theorem withSession_getById_lt {userId : Uuid} {r : Nat} {t : World}
    (h : withSession (fun session => UserRepository.getById session userId) w = (.ok (some r), t)) : r < t.refs := by
  rcases hrun : UserRepository.getById w.sessions userId w.openSession with ⟨result, u⟩
  rw [withSession_run hrun] at h
  cases h
  have hwithin : Within w.sessions w.openSession _ := getById_within userId w.openSession
  rw [hrun] at hwithin
  rcases hwithin.attached r (getById_attached hrun) with hr | hr
  · rw [World.openSession_session] at hr
    exact absurd hr List.not_mem_nil
  · exact hr.2

theorem requireRole_lt {role : Role} {token : String} {r : Nat} {t : World}
    (h : requireRole jwt role token w = (.ok r, t)) : r < t.refs := by
  unfold requireRole at h
  cases hdecode : decodeAccessToken jwt token with
  | none =>
    rw [hdecode] at h
    cases h
  | some payload =>
    cases hsub : payload.sub with
    | none =>
      simp only [hdecode, hsub] at h
      cases h
    | some userId =>
      simp only [hdecode, hsub] at h
      obtain ⟨found, u, hfound, h⟩ := Eff.bind_eq_ok.mp h
      cases found with
      | none => cases h
      | some user =>
        obtain ⟨row, v, hread, h⟩ := Eff.bind_eq_ok.mp h
        split at h
        · cases h
        split at h
        · cases h
        · cases h
          have hkeeps : Within 0 u (read mapper r u).2 := read_within r u
          rw [hread] at hkeeps
          exact Nat.lt_of_lt_of_le (withSession_getById_lt hfound) hkeeps.refs

/-! ### The service, on a user that its session does not know -/

theorem ofOutcome_within {α : Type} (outcome : Except PyError α) :
    Eff.Keeps (Within session) (Py.ofOutcome outcome : Py World α) := fun w => by
  cases outcome <;> exact .refl session w

theorem update_within (user : Ref) : Eff.Keeps (Within session) (UserRepository.update session user) :=
  flush_refresh_within user user

theorem update_raises (user : Ref) : RaisesOn session user (UserRepository.update session user) :=
  .bind_within flush_within fun _ => .bind (.refresh mapper user)

/-- The programs that end in an update of the user: they keep what is committed, and raise on a user that the
    session does not know. -/
structure EndsInUpdate {α : Type} (session : SessionId) (user : Ref) (p : Py World α) : Prop where
  within : Eff.Keeps (Within session) p
  raises : RaisesOn session user p

namespace EndsInUpdate
variable {α β : Type}

theorem update (session : SessionId) (user : Ref) : EndsInUpdate session user (UserRepository.update session user) :=
  ⟨update_within user, update_raises user⟩

theorem raise (e : PyError) : EndsInUpdate session user (Eff.raise e : Py World α) :=
  ⟨.raise (Within.refl session) e, .raise e⟩

theorem bind {p : Py World α} {f : α → Py World β} (hp : Eff.Keeps (Within session) p)
    (hf : ∀ a, EndsInUpdate session user (f a)) : EndsInUpdate session user (p >>= f) :=
  ⟨.bind (R := Within session) Within.trans hp fun a => (hf a).within, .bind_within hp fun a => (hf a).raises⟩

theorem andThen {p : Py World α} {f : α → Py World β} (hp : EndsInUpdate session user p)
    (hf : ∀ a, Eff.Keeps (Within session) (f a)) : EndsInUpdate session user (p >>= f) :=
  ⟨.bind (R := Within session) Within.trans hp.within hf, hp.raises.bind⟩

end EndsInUpdate

theorem updateProfile_endsInUpdate (data : UserUpdate) :
    EndsInUpdate session user (UserService.updateProfile session user data) := by
  unfold UserService.updateProfile
  refine .bind (read_within user) fun row => .bind ?_ fun _ => .bind ?_ fun _ => .update session user
  · cases data.email with
    | none => exact .pure (Within.refl session) _
    | some email =>
      dsimp only
      split
      · exact .pure (Within.refl session) _
      · refine .bind (R := Within session) Within.trans (getByEmail_within email) fun found => ?_
        cases found with
        | none => exact assign_within user _
        | some other => exact .raise (Within.refl session) _
  · cases data.fullName with
    | none => exact .pure (Within.refl session) _
    | some name => exact assign_within user _

theorem changePassword_endsInUpdate (salt : String) (data : PasswordChange) :
    EndsInUpdate session user (UserService.changePassword passwords session salt user data) := by
  unfold UserService.changePassword
  refine .bind (read_within user) fun row => .bind (ofOutcome_within _) fun correct => ?_
  split
  · exact .raise _
  · exact .bind (ofOutcome_within _) fun hashed => .bind (assign_within user _) fun _ => .update session user

/-! ### The requests -/

theorem getDb_error {α : Type} {body : SessionId → Py World α} {t : World} {e : PyError}
    (h : body w.sessions w.openSession = (.error e, t)) :
    (getDb body w).1 = .error e ∧ (getDb body w).2.rows = t.rows := by
  have hrun : getDb body w =
      (.error e, (rollback w.sessions t : Except PyError Unit × World).2.putSession w.sessions {}) := by
    apply withSession_run
    simp only [Eff.attempt, Eff.bind_of_error h]
    rfl
  rw [hrun]
  exact ⟨rfl, rfl⟩

/-- A request that updates a user from another session raises, and commits nothing. -/
theorem getDb_raises {α : Type} {user : Nat} {body : SessionId → Py World α} (huser : user < w.refs)
    (hbody : ∀ session, EndsInUpdate session user (body session)) :
    (∀ a t, getDb body w ≠ (.ok a, t)) ∧ (getDb body w).2.rows = w.rows := by
  rcases hrun : body w.sessions w.openSession with ⟨e | a, t⟩
  · have hwithin := (hbody w.sessions).within w.openSession
    rw [hrun] at hwithin
    obtain ⟨herror, hrows⟩ := getDb_error hrun
    refine ⟨fun a u h => ?_, hrows.trans hwithin.rows⟩
    rw [h] at herror
    cases herror
  · exact absurd hrun ((hbody w.sessions).raises _ (detached_openSession huser) a t)

theorem ownUpdate_raises {α : Type} {body : Ref → SessionId → Py World α} (role : Role) (token : String) (w : World)
    (hbody : ∀ user session, EndsInUpdate session user (body user session)) :
    (∀ a t, (do let user ← requireRole jwt role token; getDb (body user)) w ≠ (.ok a, t)) ∧
      ((do let user ← requireRole jwt role token; getDb (body user)) w).2.rows = w.rows := by
  have hrows := requireRole_sameRows jwt role token w
  rcases hrun : requireRole jwt role token w with ⟨e | user, t⟩ <;> rw [hrun] at hrows
  · rw [Eff.bind_of_error hrun]
    exact ⟨nofun, hrows⟩
  · obtain ⟨hraises, hkeeps⟩ := getDb_raises (requireRole_lt hrun) (hbody user)
    rw [Eff.bind_of_ok hrun]
    exact ⟨hraises, hkeeps.trans hrows⟩

theorem userRead_within (user : Ref) : Eff.Keeps (Within session) (Api.userRead user) :=
  .bind (R := Within session) Within.trans (read_within user) fun _ => .pure (Within.refl session) _

theorem updateMe_raises (jwt : Jwt) (token : String) (data : UserUpdate) (w : World) :
    (∀ a t, Api.updateMe jwt token data w ≠ (.ok a, t)) ∧ (Api.updateMe jwt token data w).2.rows = w.rows :=
  ownUpdate_raises .viewer token w fun _ _ => (updateProfile_endsInUpdate data).andThen userRead_within

theorem changePassword_raises (passwords : Passwords) (jwt : Jwt) (token salt : String) (data : PasswordChange)
    (w : World) :
    (∀ a t, Api.changePassword passwords jwt token salt data w ≠ (.ok a, t)) ∧
      (Api.changePassword passwords jwt token salt data w).2.rows = w.rows :=
  ownUpdate_raises .viewer token w fun _ _ =>
    (changePassword_endsInUpdate salt data).andThen fun _ => .pure (Within.refl _) _

/-! ### What a user expects -/

/-- The token is an access token of this active user. -/
structure SignedIn (jwt : Jwt) (w : World) (token : String) (user : User) : Prop where
  token : ∃ payload, decodeAccessToken jwt token = some payload ∧ payload.sub = some user.id
  row : w.rows.filter (fun row => row.id == user.id) = [user]
  active : user.isActive = true
  role : hasRole user.role Role.viewer.value = true

/-- A login with the password succeeds, as this user. -/
def Authenticates (passwords : Passwords) (w : World) (email password : String) (id : Uuid) : Prop :=
  ∃ r t o, getDb (fun session => UserService.authenticate passwords session email password) w = (.ok r, t) ∧
    t.object r = some o ∧ o.value.id = id

/-- A login with the password is refused. -/
def Rejects (passwords : Passwords) (w : World) (email password : String) : Prop :=
  (getDb (fun session => UserService.authenticate passwords session email password) w).1 =
    .error (.app (.unauthorized "Invalid email or password."))

/-- `POST /users/me/password` puts the new password in the place of the old one. -/
structure PasswordChanges (passwords : Passwords) (jwt : Jwt) (w : World) (token salt : String) (user : User)
    (data : PasswordChange) : Prop where
  succeeds : (Api.changePassword passwords jwt token salt data w).1 = .ok ()
  newPassword : Authenticates passwords (Api.changePassword passwords jwt token salt data w).2 user.email
    data.newPassword user.id
  oldPassword : data.currentPassword ≠ data.newPassword →
    Rejects passwords (Api.changePassword passwords jwt token salt data w).2 user.email data.currentPassword

/-- `PUT /users/me` stores the new values. -/
structure ProfileUpdates (jwt : Jwt) (w : World) (token : String) (user : User) (data : UserUpdate) : Prop where
  succeeds : ∃ read, (Api.updateMe jwt token data w).1 = .ok read
  stored : ∃ row ∈ (Api.updateMe jwt token data w).2.rows, row.id = user.id ∧
    (∀ email, data.email = some email → row.email = email) ∧
    ∀ name, data.fullName = some name → row.fullName = some name

/-- A session with nothing attached updates no user: the flush writes nothing, and the refresh raises. -/
theorem update_of_nothing_attached (h : (w.session session).objects = []) :
    UserRepository.update session user w = (.error .invalidRequest, w.settle session (w.session session).rows) := by
  have hflush : flush mapper session w = (.ok (), w.settle session (w.session session).rows) := by
    simp [flush, World.flushed, World.dirty, h]
  have hdetached : user ∉ ((w.settle session (w.session session).rows).session session).objects := by
    simp [World.settle, h]
  rw [UserRepository.update, Eff.bind_of_ok hflush, Eff.bind_of_error (refresh_of_not_attached hdetached)]
  rfl

theorem changePassword_of_nothing_attached {salt hashed : String} {o : Obj User} {data : PasswordChange}
    (hobjects : (w.session session).objects = []) (hobject : w.object user = some o)
    (hcorrect : passwords.verifyPassword data.currentPassword o.value.hashedPassword = .ok true)
    (hhash : passwords.hashPassword salt data.newPassword = .ok hashed) :
    ∃ t, UserService.changePassword passwords session salt user data w = (.error .invalidRequest, t) := by
  rw [UserService.changePassword, Eff.bind_of_ok (read_run hobject), hcorrect, hhash]
  simp only [Py.ofOutcome, Eff.pure_bind_run, Bool.not_true, Bool.false_eq_true, if_false, assign, hobject,
    Eff.modify_bind_run]
  exact ⟨_, update_of_nothing_attached (by simpa using hobjects)⟩

/-- What the request answers to a user who is let in: never a success. -/
theorem changePassword_answer {token salt : String} {row : User} {data : PasswordChange} (h : SignedIn jwt w token row)
    (hfails : w.fails .select = none) :
    (Api.changePassword passwords jwt token salt data w).1 =
      (passwords.verifyPassword data.currentPassword row.hashedPassword).bind fun correct =>
        if !correct then .error (.app (.unauthorized "Current password is incorrect."))
        else (passwords.hashPassword salt data.newPassword).bind fun _ => .error .invalidRequest := by
  obtain ⟨payload, hdecode, hsub⟩ := h.token
  have hguard := requireRole_run hdecode hsub h.row h.active h.role hfails
  have hobject : ((w.openSession.attach w.sessions { value := row, loaded := some row }).putSession
      w.sessions {}).object w.refs = some { value := row, loaded := some row } := by
    simp [World.attach]
  generalize (w.openSession.attach w.sessions { value := row, loaded := some row }).putSession w.sessions {} = entered
    at hguard hobject
  have hopened : entered.openSession.object w.refs = some { value := row, loaded := some row } := hobject
  have hread : ∀ f : User → Py World Ref, (read mapper w.refs >>= f) entered.openSession = f row entered.openSession :=
    fun f => Eff.bind_of_ok (read_run hopened)
  have hraises : ∀ {e t}, UserService.changePassword passwords entered.sessions salt w.refs data entered.openSession =
      (.error e, t) → (Api.changePassword passwords jwt token salt data w).1 = .error e := by
    intro e t hrun
    rw [Api.changePassword, Eff.bind_of_ok hguard]
    exact (getDb_error (Eff.bind_of_error hrun)).1
  rcases hverify : passwords.verifyPassword data.currentPassword row.hashedPassword with e | correct
  · refine hraises (t := entered.openSession) ?_
    rw [UserService.changePassword, hread, hverify]
    rfl
  cases correct with
  | false =>
    refine hraises (t := entered.openSession) ?_
    rw [UserService.changePassword, hread, hverify]
    rfl
  | true =>
    rcases hhash : passwords.hashPassword salt data.newPassword with e | hashed
    · refine hraises (t := entered.openSession) ?_
      rw [UserService.changePassword, hread, hverify, hhash]
      rfl
    · have hfresh : (entered.openSession.session entered.sessions).objects = [] := by rw [World.openSession_session]
      obtain ⟨t, hrun⟩ := changePassword_of_nothing_attached hfresh hobject hverify hhash
      exact hraises hrun

/-- No request of a user changes the own password or profile: each raises, and the committed rows stay. -/
theorem own_account_never_changes (passwords : Passwords) (jwt : Jwt) (w : World) (token : String) (user : User) :
    (∀ salt data, ¬ PasswordChanges passwords jwt w token salt user data ∧
      (Api.changePassword passwords jwt token salt data w).2.rows = w.rows) ∧
    ∀ data, ¬ ProfileUpdates jwt w token user data ∧ (Api.updateMe jwt token data w).2.rows = w.rows := by
  refine ⟨fun salt data => ?_, fun data => ?_⟩
  · obtain ⟨hraises, hrows⟩ := changePassword_raises passwords jwt token salt data w
    exact ⟨fun h => hraises _ _ (Prod.ext h.succeeds rfl), hrows⟩
  · obtain ⟨hraises, hrows⟩ := updateMe_raises jwt token data w
    refine ⟨fun h => ?_, hrows⟩
    obtain ⟨read, hread⟩ := h.succeeds
    exact hraises _ _ (Prod.ext hread rfl)

/-! ### An example -/

namespace Anna

/-- A user. -/
def anna : User where
  id := 1
  email := "anna@example.com"
  hashedPassword := "$2b$sunny-day"

/-- Anna's token is the only valid one. -/
def tokens : Jwt := fun token =>
  if token = "anna's token" then some { sub := some anna.id, type := some "access" } else none

/-- Anna is the only user. -/
def world : World where
  rows := [anna]

/-- Anna wants another password. -/
def newPassword : PasswordChange where
  currentPassword := "sunny-day"
  newPassword := "rainy-day"
  strong := by decide

theorem signedIn : SignedIn tokens world "anna's token" anna where
  token := ⟨{ sub := some anna.id, type := some "access" }, rfl, rfl⟩
  row := rfl
  active := rfl
  role := by decide

/-- Anna gives her password and a new one: the request raises, and the old password stays. -/
theorem new_password_is_lost :
    SignedIn tokens world "anna's token" anna ∧
      saltedPasswords.verifyPassword newPassword.currentPassword anna.hashedPassword = .ok true ∧
      (Api.changePassword saltedPasswords tokens "anna's token" "$2b$" newPassword world).1 = .error .invalidRequest ∧
      ¬ PasswordChanges saltedPasswords tokens world "anna's token" "$2b$" anna newPassword := by
  have hcorrect : saltedPasswords.verifyPassword newPassword.currentPassword anna.hashedPassword = .ok true := by
    decide
  have herror : (Api.changePassword saltedPasswords tokens "anna's token" "$2b$" newPassword world).1 = .error .invalidRequest :=
    (changePassword_answer signedIn rfl).trans (by rw [hcorrect]; rfl)
  refine ⟨signedIn, hcorrect, herror, fun h => ?_⟩
  rw [h.succeeds] at herror
  cases herror

end Anna

end SmartHome.Users
