import SmartHome.Auth.Sessions
import SmartHome.Groups.Integrity
import SmartHome.House.Tables

/-! # The tables stay consistent

Keys and references over whole runs of requests, jobs and passes over the rules, with any failures of the database
among them. -/

namespace SmartHome
open Orm Keyed Run

/-- Every key is unique, and each membership is of a group and of a device that there are. -/
structure House.Intact {σ T : Type} (h : House σ T) : Prop where
  devices : Devices.mapper.Distinct h.devices.rows
  users : h.users.Distinct Users.mapper
  rules : Unique (fun rule : RuleRecord => rule.id) h.rules
  groups : h.groups.Intact (fun row : Devices.DeviceRow => row.id) h.devices.rows

/-! ## Devices -/

namespace Devices
variable {w t : World}

/-- Deactivation keeps what users and other tables know of a device. -/
theorem missing_keeps (flushed : Uuid → DateTime) (ains : List String) (row : DeviceRow) :
    row.Keeps (DeviceRepository.afterMissing flushed ains row) := by
  unfold DeviceRepository.afterMissing
  split
  · obtain ⟨updatedAt, heq⟩ := DeviceRepository.deactivate_eq flushed row
    rw [heq]
    exact ⟨rfl, rfl, rfl, rfl, rfl, rfl⟩
  · exact .refl row

theorem syncFound_keeps {session : SessionId} {draws : Draws} {infos : List DeviceInfo} {result : DiscoveryResult}
    (h : Synced mapper session w) (hrun : DeviceService.syncFound session draws infos w = (.ok result, t)) :
    ∀ row ∈ (w.session session).rows, ∃ row' ∈ (t.session session).rows, row.Keeps row' := by
  obtain ⟨⟨added, updated⟩, u, hsync, hrest⟩ := Eff.bind_eq_ok.mp hrun
  obtain ⟨deactivated, v, hdeactivate, hpure⟩ := Eff.bind_eq_ok.mp hrest
  cases hpure
  obtain ⟨hsynced, hfollows, -⟩ := DeviceService.syncDevices_ok h hsync
  obtain ⟨-, -, hafter⟩ := DeviceRepository.deactivateMissing_ok hsynced hdeactivate
  intro row hrow
  obtain ⟨mid, hmid, hkeeps⟩ := hfollows.kept row hrow
  rw [hafter]
  exact ⟨_, List.mem_map_of_mem hmid, hkeeps.trans (missing_keeps draws.deactivated _ mid)⟩

/-- A discovery loses no device, whatever becomes of it, and keeps what was known of each. -/
theorem discoverDevices_keeps (answer : Except PyError (List DeviceInfo)) (draws : Draws) (h : mapper.Distinct w.rows) :
    mapper.Distinct (discoverDevices answer draws w).2.rows ∧
      ∀ row ∈ w.rows, ∃ row' ∈ (discoverDevices answer draws w).2.rows, row.Keeps row' := by
  rcases hrun : discoverDevices answer draws w with ⟨e | result, t⟩
  · dsimp only
    rw [discoverDevices_error hrun]
    exact ⟨h, fun row hrow => ⟨row, hrow, .refl row⟩⟩
  · refine ⟨(discoverDevices_ok h hrun).1, ?_⟩
    obtain ⟨u, v, hbody, hcommit, hrows⟩ := transaction_ok hrun
    obtain ⟨infos, u', hanswer, hsync⟩ := Eff.bind_eq_ok.mp hbody
    cases answer with
    | error e => cases hanswer
    | ok devicesInfo =>
      cases hanswer
      obtain ⟨hsynced, -⟩ := DeviceService.syncFound_ok (synced_openSession h) hsync
      have hkeeps := syncFound_keeps (synced_openSession h) hsync
      dsimp only
      rw [hrows, commit_synced hsynced hcommit]
      rwa [World.openSession_session] at hkeeps

/-- The row after an update of the device with this id. -/
structure DeviceRow.Updated (deviceId : Uuid) (old new : DeviceRow) : Prop where
  ain : new.ain = old.ain
  id : new.id = old.id
  createdAt : new.createdAt = old.createdAt
  others : old.id ≠ deviceId → new = old

/-- `new` is the device of `old`; only an update changes what users know of it. -/
structure DeviceRow.Stays (updated : Uuid → Prop) (old new : DeviceRow) : Prop where
  ain : new.ain = old.ain
  id : new.id = old.id
  createdAt : new.createdAt = old.createdAt
  known : ¬ updated old.id → old.Keeps new

theorem DeviceRow.Stays.refl {updated : Uuid → Prop} (row : DeviceRow) : row.Stays updated row :=
  ⟨rfl, rfl, rfl, fun _ => .refl row⟩

theorem DeviceRow.Stays.trans {updated : Uuid → Prop} {a b c : DeviceRow} (hab : a.Stays updated b)
    (hbc : b.Stays updated c) : a.Stays updated c where
  ain := hbc.ain.trans hab.ain
  id := hbc.id.trans hab.id
  createdAt := hbc.createdAt.trans hab.createdAt
  known h := (hab.known h).trans (hbc.known (hab.id.symm ▸ h))

theorem DeviceRow.Keeps.stays {updated : Uuid → Prop} {old new : DeviceRow} (h : old.Keeps new) : old.Stays updated new :=
  ⟨h.ain, h.id, h.createdAt, fun _ => h⟩

/-- An update writes the row of its device and no other. -/
theorem updateDevice_updated (deviceId : Uuid) (data : DeviceUpdate) (flushed : DateTime) (h : mapper.Distinct w.rows) :
    ∃ f : DeviceRow → DeviceRow, (updateDevice deviceId data flushed w).2.rows = w.rows.map f ∧
      ∀ row, DeviceRow.Updated deviceId row (f row) := by
  rcases hrun : updateDevice deviceId data flushed w with ⟨e | _, t⟩
  · have hrows : t.rows = w.rows := transaction_error (fun session =>
      .bind (R := Within session) Within.trans (DeviceService.updateDevice_within _ _ _) fun _ =>
        .pure (Within.refl session) _) hrun
    exact ⟨id, by rw [List.map_id]; exact hrows, fun _ => ⟨rfl, rfl, rfl, fun _ => rfl⟩⟩
  · obtain ⟨u, v, hbody, hcommit, hrows⟩ := transaction_ok hrun
    obtain ⟨r, u', hupdate, hpure⟩ := Eff.bind_eq_ok.mp hbody
    cases hpure
    obtain ⟨hsynced, row, -, hid, htable⟩ := DeviceService.updateDevice_ok (synced_openSession h) hupdate
    rw [World.openSession_session] at htable
    dsimp only
    rw [hrows, commit_synced hsynced hcommit]
    refine ⟨_, htable, fun other => ?_⟩
    unfold editing
    split
    · next hother =>
      obtain ⟨updatedAt, htouch⟩ := touch_eq flushed data.apply other
      rw [id, htouch]
      refine ⟨rfl, rfl, rfl, fun hne => ?_⟩
      rw [List.mem_singleton.mp hother] at hne
      exact absurd hid hne
    · exact ⟨rfl, rfl, rfl, fun _ => rfl⟩

end Devices

/-! ## Rules -/

section
variable {fails : DbCall → Option PyError} {s t : List RuleRecord}

theorem AutomationRuleRepository.refresh_ok {ruleId : Uuid} {rule : RuleRecord}
    (h : AutomationRuleRepository.refresh fails ruleId s = (.ok rule, t)) : t = s := by
  obtain ⟨_, u, hcall, hrest⟩ := Eff.bind_eq_ok.mp h
  obtain rfl := Tables.call_ok hcall
  rw [Eff.gets_bind_run] at hrest
  cases hfound : u.find? fun row => row.id == ruleId <;> simp only [hfound] at hrest <;> cases hrest
  rfl

theorem AutomationRuleRepository.create_ok {rule read : RuleRecord}
    (hrun : AutomationRuleRepository.create fails rule s = (.ok read, t)) :
    t = s ++ [rule] ∧ ∀ other ∈ s, other.id ≠ rule.id := by
  obtain ⟨_, u, hcall, hrest⟩ := Eff.bind_eq_ok.mp hrun
  obtain rfl := Tables.call_ok hcall
  rw [Eff.gets_bind_run] at hrest
  obtain ⟨_, v, hinsert, hrefresh⟩ := Eff.bind_eq_ok.mp hrest
  obtain rfl := AutomationRuleRepository.refresh_ok hrefresh
  split at hinsert
  · cases hinsert
  split at hinsert
  · cases hinsert
  next hfree =>
  cases hinsert
  rw [Bool.not_eq_true, List.any_eq_false] at hfree
  exact ⟨rfl, fun other hother hid => hfree other hother (beq_iff_eq.mpr hid)⟩

/-- An update writes its rule, if a column changes. -/
theorem AutomationRuleRepository.update_ok {rule read : RuleRecord} {data : AutomationRuleUpdate}
    (hrun : AutomationRuleRepository.update fails rule data s = (.ok read, t)) :
    t = s ∨ t = s.map fun row => if row.id == rule.id then data.apply row else row := by
  obtain ⟨_, u, hwrite, hrefresh⟩ := Eff.bind_eq_ok.mp hrun
  obtain rfl := AutomationRuleRepository.refresh_ok hrefresh
  split at hwrite
  · cases hwrite
    exact Or.inl rfl
  obtain ⟨_, v, hcall, hrest⟩ := Eff.bind_eq_ok.mp hwrite
  obtain rfl := Tables.call_ok hcall
  rw [Eff.gets_bind_run] at hrest
  split at hrest
  · cases hrest
  split at hrest
  · cases hrest
  · cases hrest
    exact Or.inr rfl

theorem AutomationRuleRepository.delete_ok {rule : RuleRecord} {u : Unit}
    (hrun : AutomationRuleRepository.delete fails rule s = (.ok u, t)) : t = s.filter fun row => row.id != rule.id := by
  obtain ⟨_, v, hcall, hrest⟩ := Eff.bind_eq_ok.mp hrun
  obtain rfl := Tables.call_ok hcall
  cases hrest
  rfl

theorem RuleService.getRule_ok {ruleId : Uuid} {rule : RuleRecord} (h : RuleService.getRule fails ruleId s = (.ok rule, t)) :
    t = s := by
  obtain ⟨found, u, hget, hrest⟩ := Eff.bind_eq_ok.mp h
  obtain ⟨_, v, hcall, hfind⟩ := Eff.bind_eq_ok.mp hget
  obtain rfl := Tables.call_ok hcall
  cases hfind
  dsimp only at hrest
  cases hfound : u.find? fun row => row.id == ruleId <;> rw [hfound] at hrest <;> cases hrest
  rfl

/-- What a request leaves of the rules `s`. -/
def RuleRequest.Effect (s t : List RuleRecord) : RuleRequest → Prop
  | create id data => ∃ rule, t = s ++ [rule] ∧ rule.actionConfig = data.actionConfig ∧ rule.id = id ∧
      ∀ other ∈ s, other.id ≠ rule.id
  | update _ data => ∃ ruleId, t = s.map fun row => if row.id == ruleId then data.apply row else row
  | delete _ => ∃ ruleId, t = s.filter fun row => row.id != ruleId

/-- A request takes its effect, or changes nothing. -/
theorem RuleRequest.effect_or_same (currentUser : Uuid) (r : RuleRequest) (s : List RuleRecord) :
    (r.handle fails currentUser s).2 = s ∨ r.Effect s (r.handle fails currentUser s).2 := by
  rcases hrun : r.handle fails currentUser s with ⟨e | reply, t⟩
  · exact Or.inl (handle_of_error hrun)
  cases r with
  | create id data =>
    obtain ⟨rule, u, hcreate, hpure⟩ := Eff.bind_eq_ok.mp (Tables.transaction_ok hrun)
    cases hpure
    obtain ⟨hrows, hfree⟩ := AutomationRuleRepository.create_ok hcreate
    exact Or.inr ⟨_, hrows, rfl, rfl, hfree⟩
  | update ruleId data =>
    obtain ⟨rule, u, hupdate, hpure⟩ := Eff.bind_eq_ok.mp (Tables.transaction_ok hrun)
    cases hpure
    obtain ⟨loaded, v, hget, hwrite⟩ := Eff.bind_eq_ok.mp hupdate
    obtain rfl := RuleService.getRule_ok hget
    exact (AutomationRuleRepository.update_ok hwrite).imp_right fun hrows => ⟨_, hrows⟩
  | delete ruleId =>
    obtain ⟨_, u, hdelete, hpure⟩ := Eff.bind_eq_ok.mp (Tables.transaction_ok hrun)
    cases hpure
    obtain ⟨loaded, v, hget, hwrite⟩ := Eff.bind_eq_ok.mp hdelete
    obtain rfl := RuleService.getRule_ok hget
    exact Or.inr ⟨_, AutomationRuleRepository.delete_ok hwrite⟩

/-- A request leaves no two rules with one id. -/
theorem RuleRequest.handle_unique (currentUser : Uuid) (r : RuleRequest) (h : Unique (fun rule : RuleRecord => rule.id) s) :
    Unique (fun rule : RuleRecord => rule.id) (r.handle fails currentUser s).2 := by
  have hcases := @RuleRequest.effect_or_same fails currentUser r s
  rcases hcases with hsame | heffect
  · rwa [hsame]
  cases r with
  | create id data =>
    obtain ⟨rule, hrows, -, -, hfree⟩ := heffect
    rw [hrows]
    exact h.insert hfree
  | update _ data =>
    obtain ⟨ruleId, hrows⟩ := heffect
    rw [hrows]
    refine h.update fun other => ?_
    split <;> rfl
  | delete _ =>
    obtain ⟨ruleId, hrows⟩ := heffect
    rw [hrows]
    exact h.delete _

/-- The rules after the time stamps of a pass are the same ones. -/
theorem House.commitTriggered_rows (stamps : List (Uuid × DateTime)) (rules : List RuleRecord) :
    ∃ f : RuleRecord → RuleRecord, (House.commitTriggered fails stamps rules).2 = rules.map f ∧
      ∀ rule, ∃ lastTriggered, f rule = { rule with lastTriggered } := by
  rcases hrun : House.commitTriggered fails stamps rules with ⟨e | _, t⟩
  · have hsame : t = rules := Tables.transaction_of_error hrun
    exact ⟨id, by rw [List.map_id]; exact hsame, fun rule => ⟨rule.lastTriggered, rfl⟩⟩
  · obtain ⟨_, u, hcall, hmodify⟩ := Eff.bind_eq_ok.mp (Tables.transaction_ok hrun)
    obtain rfl := Tables.call_ok hcall
    cases hmodify
    refine ⟨_, rfl, fun rule => ?_⟩
    unfold RuleRow.stamp
    split
    · next stamp hfound => exact ⟨some stamp.2, rfl⟩
    · exact ⟨rule.lastTriggered, rfl⟩

end

/-! ## Users -/

namespace Auth
variable {passwords : Users.Passwords} {session : SessionId} {jwt : Jwt}
open Users

theorem requireRole_keepsDistinct (role : Role) (token : String) :
    Eff.Keeps (KeepsDistinct Users.mapper) (requireRole jwt role token) := by
  unfold requireRole
  cases decodeAccessToken jwt token with
  | none => exact keepsDistinct_raise _
  | some payload =>
    dsimp only
    cases payload.sub with
    | none => exact keepsDistinct_raise _
    | some userId =>
      refine keepsDistinct_seq (withSession_keepsDistinct fun session => lookup_keepsDistinct _) fun found => ?_
      cases found with
      | none => exact keepsDistinct_raise _
      | some user =>
        refine keepsDistinct_seq (read_keepsDistinct user) fun row => ?_
        split
        · exact keepsDistinct_raise _
        split
        · exact keepsDistinct_raise _
        · exact keepsDistinct_pure user

theorem updateProfile_keepsDistinct (user : Ref) (data : UserUpdate) :
    Eff.Keeps (KeepsDistinct Users.mapper) (UserService.updateProfile session user data) := by
  refine keepsDistinct_seq (read_keepsDistinct user) fun row => ?_
  refine keepsDistinct_seq ?_ fun _ => keepsDistinct_seq ?_ fun _ => repositoryUpdate_keepsDistinct user
  · cases data.email with
    | none => exact keepsDistinct_pure ()
    | some email =>
      dsimp only
      split
      · exact keepsDistinct_pure ()
      · refine keepsDistinct_seq (lookup_keepsDistinct _) fun found => ?_
        cases found with
        | none => exact assign_keepsDistinct user _
        | some other => exact keepsDistinct_raise _
  · cases data.fullName with
    | none => exact keepsDistinct_pure ()
    | some name => exact assign_keepsDistinct user _

theorem changePassword_keepsDistinct (salt : String) (user : Ref) (data : PasswordChange) :
    Eff.Keeps (KeepsDistinct Users.mapper) (UserService.changePassword passwords session salt user data) := by
  refine keepsDistinct_seq (read_keepsDistinct user) fun row => ?_
  refine keepsDistinct_seq (ofOutcome_keepsDistinct _) fun correct => ?_
  split
  · exact keepsDistinct_raise _
  · refine keepsDistinct_seq (ofOutcome_keepsDistinct _) fun hashedPassword => ?_
    exact keepsDistinct_seq (assign_keepsDistinct user _) fun _ => repositoryUpdate_keepsDistinct user

theorem userRead_keepsDistinct (user : Ref) : Eff.Keeps (KeepsDistinct Users.mapper) (Api.userRead user) :=
  keepsDistinct_seq (read_keepsDistinct user) fun _ => keepsDistinct_pure _

/-- A handler behind the guard, in the session of its request. -/
theorem guarded_keepsDistinct {α : Type} {body : Ref → SessionId → Py Users.World α} (role : Role) (token : String)
    (hbody : ∀ user session, Eff.Keeps (KeepsDistinct Users.mapper) (body user session)) :
    Eff.Keeps (KeepsDistinct Users.mapper) (do let user ← requireRole jwt role token; getDb (body user)) :=
  keepsDistinct_seq (requireRole_keepsDistinct role token) fun user => getDb_keepsDistinct (hbody user)

theorem usersAfter_distinct {σ R T : Type} (a : Setup σ R T) (token : String) (request : UserRequest) {w : Users.World}
    (h : w.Distinct Users.mapper) : (a.usersAfter token request w).Distinct Users.mapper := by
  cases request with
  | updateMe data =>
    exact guarded_keepsDistinct .viewer token (fun user session =>
      keepsDistinct_seq (updateProfile_keepsDistinct user data) userRead_keepsDistinct) w h
  | changePassword salt data =>
    exact guarded_keepsDistinct .viewer token (fun user session =>
      keepsDistinct_seq (changePassword_keepsDistinct salt user data) fun _ => keepsDistinct_pure ()) w h
  | createUser id salt data =>
    exact guarded_keepsDistinct .admin token (fun user session =>
      keepsDistinct_seq (createUser_keepsDistinct id salt data) userRead_keepsDistinct) w h
  | updateUserRole userId data =>
    exact guarded_keepsDistinct .admin token (fun user session =>
      keepsDistinct_seq (getById_keepsDistinct userId) fun found =>
        keepsDistinct_seq (setRole_keepsDistinct found data.role user) userRead_keepsDistinct) w h
  | deleteUser userId => exact guarded_keepsDistinct .admin token (fun user session => delete_keepsDistinct userId) w h

end Auth

/-! ## Runs -/

namespace Setup
variable {σ R T : Type} {a : Setup σ R T} {fails : DbCall → Option PyError}

/-- What is intact stays intact. -/
def KeepsIntact (h h' : House σ T) : Prop := h.Intact → h'.Intact

theorem keepsIntact_framed : a.Framed (T := T) KeepsIntact where
  refl _ := id
  trans h h' := h' ∘ h
  world _ _ h := ⟨h.devices, h.users, h.rules, h.groups⟩
  changes _ _ h := ⟨h.devices, h.users, h.rules, h.groups⟩
  guard token role h hintact := by
    have husers : Eff.Keeps (KeepsDistinct Users.mapper) (do
        let user ← requireRole a.jwt role token
        let row ← read Users.mapper user
        pure row.id : Py Users.World Uuid) :=
      Auth.keepsDistinct_seq (Auth.requireRole_keepsDistinct role token) fun user =>
        Auth.keepsDistinct_seq (read_keepsDistinct user) fun _ => Auth.keepsDistinct_pure _
    exact ⟨hintact.devices, husers h.users hintact.users, hintact.rules, hintact.groups⟩

theorem keepsIntact_stamped : Stamped (σ := σ) (T := T) fails KeepsIntact where
  commitTriggered stamps h hintact := by
    obtain ⟨f, hrows, hstamp⟩ := @House.commitTriggered_rows fails stamps h.rules
    refine ⟨hintact.devices, hintact.users, ?_, hintact.groups⟩
    rw [hrows]
    refine hintact.rules.update fun rule => ?_
    obtain ⟨lastTriggered, hrule⟩ := hstamp rule
    rw [hrule]
  stampSchedule now id h hintact := ⟨hintact.devices, hintact.users, hintact.rules, hintact.groups⟩

/-- Each operation keeps the keys and the references. -/
theorem keepsIntact_writes (op : Operation σ) : a.Writes (T := T) fails KeepsIntact op := by
  cases op with
  | turnOn | turnOff | setTemperature | setBrightness | writeEvent =>
    exact fun h audit _ hintact => ⟨hintact.devices, hintact.users, hintact.rules, hintact.groups⟩
  | discover token draws =>
    intro devicesInfo h hintact
    obtain ⟨hdistinct, hkeeps⟩ := Devices.discoverDevices_keeps (.ok devicesInfo) draws hintact.devices
    refine ⟨hdistinct, hintact.users, hintact.rules, { hintact.groups with device := ?_ }⟩
    refine hintact.groups.device.retarget fun row hrow => ?_
    obtain ⟨row', hrow', hkept⟩ := hkeeps row hrow
    exact ⟨row', hrow', hkept.id⟩
  | updateDevice token deviceId data flushed =>
    intro h hintact
    obtain ⟨hdistinct, -⟩ := Devices.updateDevice_rows deviceId data flushed hintact.devices
    obtain ⟨f, hrows, hupdated⟩ := Devices.updateDevice_updated deviceId data flushed hintact.devices
    refine ⟨hdistinct, hintact.users, hintact.rules, { hintact.groups with device := ?_ }⟩
    dsimp only
    rw [hrows]
    exact hintact.groups.device.updateTargets fun row => (hupdated row).id
  | group token request =>
    intro user h hintact
    refine ⟨hintact.devices, hintact.users, hintact.rules, ?_⟩
    have hcases := @Groups.GroupRequest.effect_or_same fails (fun id => h.devices.rows.any fun row => row.id == id)
      h.groups user request
    rcases hcases with hsame | heffect
    · dsimp only
      rw [hsame]
      exact hintact.groups
    · refine hintact.groups.effect (fun id hid => ?_) heffect
      obtain ⟨row, hrow, hsame⟩ := List.any_eq_true.mp hid
      exact ⟨row, hrow, beq_iff_eq.mp hsame⟩
  | schedule token body now => exact fun user h hintact => ⟨hintact.devices, hintact.users, hintact.rules, hintact.groups⟩
  | rule token request =>
    exact fun user h hintact => ⟨hintact.devices, hintact.users, request.handle_unique user hintact.rules, hintact.groups⟩
  | user token request =>
    exact fun h hintact =>
      ⟨hintact.devices, Auth.usersAfter_distinct a token request hintact.users, hintact.rules, hintact.groups⟩
  | job | evaluateAllRules => exact keepsIntact_stamped
  | elapse => trivial

theorem intact_failing {h : House σ T} (hintact : h.Intact) (fails : DbCall → Option PyError) : (h.failing fails).Intact :=
  ⟨hintact.devices, ⟨hintact.users.committed, hintact.users.seen⟩, hintact.rules, hintact.groups⟩

theorem after_intact [DeviceReading R] {s : Cached (House σ T) R} (hs : s.world.Intact) (e : AuditStep σ) :
    (a.after s e).world.Intact :=
  keepsIntact_framed.program (keepsIntact_writes e.op) { s with world := s.world.failing e.fails }
    (intact_failing hs e.fails)

/-- In every run, the tables are consistent in every state, whatever fails and whoever asks. -/
theorem runs_intact [DeviceReading R] (a : Setup σ R T) {h : House σ T} (hintact : h.Intact) (cache : TtlCache R)
    (es : List (AuditStep σ)) {t : Cached (House σ T) R} (hvisit : Visits a.step { world := h, cache } es t) :
    t.world.Intact := by
  refine invariant_of_steps (I := fun s : Cached (House σ T) R => s.world.Intact) ?_ hintact hvisit
  intro s e t hs hstep
  cases hstep
  exact after_intact hs e

/-! ### An example -/

/-- Anna's token is valid, and no other one is. -/
def home : Setup MockProvider DeviceState ClockTrigger :=
  { kitchen with jwt := Users.Anna.tokens }

/-- A plug in the kitchen. -/
def chargerRow : Devices.DeviceRow where
  id := 7
  ain := "08761 0374811"
  name := "Ladegerät"
  deviceType := "switch"
  capabilities := ["SWITCH"]
  location := some "Küche"
  isFavorite := true
  createdAt := 0
  updatedAt := 0

/-- Anna's house: one device, one group with it, one schedule. -/
def household : House MockProvider ClockTrigger :=
  { kitchenHouse with
    devices := { rows := [chargerRow] }
    users := { rows := [{ Users.Anna.anna with role := "admin" }] }
    groups := { groups := [{ id := 3, name := "Küche" }], members := [{ id := 4, groupId := 3, deviceId := 7 }] } }

theorem household_intact : household.Intact where
  devices := List.pairwise_singleton _ _
  users := ⟨List.pairwise_singleton _ _, fun _ => List.Pairwise.nil⟩
  rules := List.nodup_nil
  groups :=
    { groups := List.nodup_singleton _
      members := List.nodup_singleton _
      pairs := List.nodup_singleton _
      group := by simp [Refers, household]
      device := by simp [Refers, household, chargerRow] }

/-- Anna has the devices discovered. -/
def discovery : AuditStep MockProvider where
  op := .discover "anna's token"
    { device := fun i => { now := 100, id := 20 + i, transaction := 100, flushed := 100 }, deactivated := fun _ => 100 }

theorem household_stays_intact : (home.after { world := household, cache := .empty } discovery).world.Intact :=
  runs_intact home household_intact .empty [discovery] ⟨[discovery], List.prefix_rfl, rfl⟩

/-! ### Devices in runs -/

/-- No device is lost. -/
def KeepsDevices (updated : Uuid → Prop) (h h' : House σ T) : Prop :=
  h.Intact → h'.Intact ∧ ∀ row ∈ h.devices.rows, ∃ row' ∈ h'.devices.rows, row.Stays updated row'

variable {updated : Uuid → Prop}

theorem KeepsDevices.of_rows {h h' : House σ T} (hkeeps : KeepsIntact h h') (hrows : h'.devices.rows = h.devices.rows) :
    KeepsDevices updated h h' := fun hintact =>
  ⟨hkeeps hintact, fun row hrow => ⟨row, hrows.symm ▸ hrow, .refl row⟩⟩

theorem keepsDevices_framed : a.Framed (T := T) (KeepsDevices updated) where
  refl h := .of_rows id rfl
  trans h h' hintact := by
    obtain ⟨hintact₁, hstays⟩ := h hintact
    obtain ⟨hintact₂, hstays'⟩ := h' hintact₁
    refine ⟨hintact₂, fun row hrow => ?_⟩
    obtain ⟨mid, hmid, hrowMid⟩ := hstays row hrow
    obtain ⟨row', hrow', hmidRow⟩ := hstays' mid hmid
    exact ⟨row', hrow', hrowMid.trans hmidRow⟩
  world h world := .of_rows ((keepsIntact_framed (a := a)).world h world) rfl
  changes h changes := .of_rows ((keepsIntact_framed (a := a)).changes h changes) rfl
  guard token role h := .of_rows (keepsIntact_framed.guard token role h) rfl

/-- The operation is an update of the device with this id. -/
def updatesDevice (id : Uuid) : Operation σ → Prop
  | .updateDevice _ deviceId _ _ => deviceId = id
  | _ => False

theorem keepsDevices_writes {op : Operation σ} (hop : ∀ id, updatesDevice id op → updated id) :
    a.Writes (T := T) fails (KeepsDevices updated) op := by
  have hintact : a.Writes (T := T) fails KeepsIntact op := keepsIntact_writes op
  cases op with
  | turnOn | turnOff | setTemperature | setBrightness | writeEvent =>
    exact fun h audit hwritten => .of_rows (hintact h audit hwritten) rfl
  | discover token draws =>
    intro devicesInfo h hbefore
    obtain ⟨-, hkeeps⟩ := Devices.discoverDevices_keeps (.ok devicesInfo) draws hbefore.devices
    refine ⟨hintact devicesInfo h hbefore, fun row hrow => ?_⟩
    obtain ⟨row', hrow', hkept⟩ := hkeeps row hrow
    exact ⟨row', hrow', hkept.stays⟩
  | updateDevice token deviceId data flushed =>
    intro h hbefore
    obtain ⟨f, hrows, hupdated⟩ := Devices.updateDevice_updated deviceId data flushed hbefore.devices
    refine ⟨hintact h hbefore, fun row hrow => ⟨f row, ?_, ?_⟩⟩
    · dsimp only
      rw [hrows]
      exact List.mem_map_of_mem hrow
    · refine ⟨(hupdated row).ain, (hupdated row).id, (hupdated row).createdAt, fun hnot => ?_⟩
      have hother : row.id ≠ deviceId := fun heq => hnot (hop row.id heq.symm)
      rw [(hupdated row).others hother]
      exact .refl row
  | group token request | schedule token body now | rule token request =>
    exact fun user h => .of_rows (hintact user h) rfl
  | user token request => exact fun h => .of_rows (hintact h) rfl
  | job | evaluateAllRules =>
    exact ⟨fun stamps h => .of_rows (keepsIntact_stamped.commitTriggered stamps h) rfl,
      fun now id h => .of_rows (keepsIntact_stamped.stampSchedule now id h) rfl⟩
  | elapse => trivial

/-- No device is lost in a run, and it keeps its AIN. What users have set for it stays as it is, whatever is
    discovered, until they update it. -/
theorem runs_keep_devices [DeviceReading R] (a : Setup σ R T) {h : House σ T} (hintact : h.Intact) (cache : TtlCache R)
    (es : List (AuditStep σ)) {t : Cached (House σ T) R} (hvisit : Visits a.step { world := h, cache } es t) :
    ∀ row ∈ h.devices.rows, ∃ row' ∈ t.world.devices.rows, row.Stays (fun id => ∃ e ∈ es, updatesDevice id e.op) row' := by
  let updated : Uuid → Prop := fun id => ∃ e ∈ es, updatesDevice id e.op
  let I : Cached (House σ T) R → Prop := fun s =>
    s.world.Intact ∧ ∀ row ∈ h.devices.rows, ∃ row' ∈ s.world.devices.rows, row.Stays updated row'
  have hstart : I { world := h, cache } := ⟨hintact, fun row hrow => ⟨row, hrow, .refl row⟩⟩
  have hmeets : Meets a.step (fun _ e => e ∈ es) { world := h, cache } es := meets_of_mem fun e he _ => he
  refine (invariant_of_visits (I := I) ?_ hstart hmeets hvisit).2
  intro s e t ⟨hs, hkept⟩ he hstep
  cases hstep
  have hkeeps : KeepsDevices updated (s.world.failing e.fails) (a.after s e).world :=
    keepsDevices_framed.program (keepsDevices_writes fun id hid => ⟨e, he, hid⟩)
      { s with world := s.world.failing e.fails }
  obtain ⟨hintact', hstays⟩ := hkeeps (intact_failing hs e.fails)
  refine ⟨hintact', fun row hrow => ?_⟩
  obtain ⟨mid, hmid, hrowMid⟩ := hkept row hrow
  obtain ⟨row', hrow', hmidRow⟩ := hstays mid hmid
  exact ⟨row', hrow', hrowMid.trans hmidRow⟩

theorem household_keeps_charger :
    ∃ row' ∈ (home.after { world := household, cache := .empty } discovery).world.devices.rows,
      chargerRow.Stays (fun id => ∃ e ∈ [discovery], updatesDevice id e.op) row' :=
  runs_keep_devices home household_intact .empty [discovery] ⟨[discovery], List.prefix_rfl, rfl⟩ chargerRow
    (List.mem_singleton_self _)

end Setup
end SmartHome
