import SmartHome.Api.Access
import SmartHome.Auth.Authorisation
import SmartHome.Users.Account
import SmartHome.Devices.Updates
import SmartHome.Lib.Routing

/-! # The order of the devices

The routes under `/api/v1` as they are declared (`app/api/v1/__init__.py` and the routers that it includes), and the
request that saves the order of the devices after drag and drop (`PATCH /devices/reorder`, `app/api/v1/devices.py`). -/

namespace SmartHome.Api
open Orm Devices Routing

/-- The methods of the routes. -/
inductive Method where
  | get | post | put | patch | delete
  deriving DecidableEq, Repr

/-- A handler under `/api/v1`. -/
inductive Handler where
  | login | refresh | logout
  | endpoint (e : Endpoint)
  deriving DecidableEq, Repr

/-- Routes in the order of their declaration. -/
abbrev Routes := List (Route Method Handler)

namespace Routes

/-- The route of an endpoint. -/
def route (method : Method) (template : List Segment) (e : Endpoint) : Route Method Handler :=
  { method, template, handler := .endpoint e }

/-- The routes of `auth.py`. -/
def authRouter : Routes :=
  [{ method := .post, template := [.literal "login"], handler := .login },
    { method := .post, template := [.literal "refresh"], handler := .refresh },
    { method := .post, template := [.literal "logout"], handler := .logout }]

/-- The routes of `users.py`. -/
def usersRouter : Routes :=
  [route .get [.literal "me"] .getMe,
    route .put [.literal "me"] .updateMe,
    route .post [.literal "me", .literal "password"] .changePassword,
    route .get [] .listUsers,
    route .post [] .createUser,
    route .put [.parameter "user_id", .literal "role"] .updateUserRole,
    route .delete [.parameter "user_id"] .deleteUser]

/-- The routes of `devices.py`. -/
def devicesRouter : Routes :=
  [route .get [] .listDevices,
    route .post [.literal "discover"] .discoverDevices,
    route .get [.parameter "ain", .literal "state"] .getDeviceState,
    route .patch [.parameter "device_id"] .updateDevice,
    route .post [.parameter "ain", .literal "on"] .turnOn,
    route .post [.parameter "ain", .literal "off"] .turnOff,
    route .put [.parameter "ain", .literal "temperature"] .setTemperature,
    route .put [.parameter "ain", .literal "brightness"] .setBrightness,
    route .get [.parameter "ain", .literal "snapshots"] .getDeviceSnapshots,
    route .patch [.literal "reorder"] .reorderDevices]

/-- The routes of `schedules.py`. -/
def schedulesRouter : Routes :=
  [route .get [] .listSchedules,
    route .post [] .createSchedule,
    route .get [.parameter "schedule_id"] .getSchedule,
    route .put [.parameter "schedule_id"] .updateSchedule,
    route .delete [.parameter "schedule_id"] .deleteSchedule]

/-- The routes of `automations.py`. -/
def automationsRouter : Routes :=
  [route .get [] .listRules,
    route .post [] .createRule,
    route .get [.parameter "rule_id"] .getRule,
    route .put [.parameter "rule_id"] .updateRule,
    route .delete [.parameter "rule_id"] .deleteRule]

/-- The routes of `groups.py`. -/
def groupsRouter : Routes :=
  [route .get [] .listGroups,
    route .post [] .createGroup,
    route .get [.parameter "group_id"] .getGroup,
    route .put [.parameter "group_id"] .updateGroup,
    route .delete [.parameter "group_id"] .deleteGroup,
    route .post [.parameter "group_id", .literal "members"] .addMember,
    route .delete [.parameter "group_id", .literal "members", .parameter "device_id"] .removeMember]

/-- The routes of `dashboard.py`. -/
def dashboardRouter : Routes :=
  [route .get [.literal "stats"] .dashboardStats, route .get [.literal "activity"] .dashboardActivity]

/-- The route of `audit.py`. -/
def auditRouter : Routes := [route .get [] .listAuditEvents]

/-- The routes of `settings.py`. -/
def settingsRouter : Routes :=
  [route .get [.literal "provider"] .getProviderSettings,
    route .post [.literal "provider", .literal "test"] .testProviderConnection,
    route .get [.literal "system"] .getSystemInfo]

/-- The route of `weather.py`. -/
def weatherRouter : Routes := [route .get [.literal "current"] .getCurrentWeather]

/-- The routes of `analytics.py`. -/
def analyticsRouter : Routes :=
  [route .get [.literal "power", .literal "history"] .powerHistory,
    route .get [.literal "temperature", .literal "history"] .temperatureHistory,
    route .get [.literal "devices", .literal "top-consumers"] .topConsumers]

/-- The routes of `phone.py`. -/
def phoneRouter : Routes :=
  [route .get [.literal "stats"] .phoneStats,
    route .get [.literal "calls"] .phoneCalls,
    route .get [.literal "partials", .literal "calls"] .partialsCalls]

/-- The routes of `network.py`. -/
def networkRouter : Routes :=
  [route .get [.literal "status"] .networkStatus,
    route .get [.literal "wlan"] .networkWlan,
    route .get [.literal "hosts"] .networkHosts,
    route .get [.literal "partials", .literal "status"] .partialsNetworkStatus,
    route .get [.literal "partials", .literal "hosts"] .partialsHosts]

/-- The routers in the order in which they are included. -/
def v1 : Routes :=
  mount [.literal "auth"] authRouter ++
    (mount [.literal "users"] usersRouter ++
    (mount [.literal "devices"] devicesRouter ++
    (mount [.literal "schedules"] schedulesRouter ++
    (mount [.literal "automations"] automationsRouter ++
    (mount [.literal "groups"] groupsRouter ++
    (mount [.literal "dashboard"] dashboardRouter ++
    (mount [.literal "audit"] auditRouter ++
    (mount [.literal "settings"] settingsRouter ++
    (mount [.literal "weather"] weatherRouter ++
    (mount [.literal "analytics"] analyticsRouter ++
    (mount [.literal "phone"] phoneRouter ++
    mount [.literal "network"] networkRouter)))))))))))

end Routes

/-- The path `/api/v1/devices/reorder`, below `/api/v1`. -/
def reorderPath : List String := ["devices", "reorder"]

/-- No request is dispatched to `reorder_devices`: the route of `update_device` stands before it. -/
theorem reorderDevices_unreachable (method : Method) (path : List String) (parameters : List (String × String)) :
    dispatch Routes.v1 method path ≠ some (.endpoint .reorderDevices, parameters) := by
  have hsplit : Routes.v1 = Routes.v1.take 19 ++ Routes.v1.drop 19 := (List.take_append_drop 19 _).symm
  rw [hsplit]
  refine @dispatch_ne_of_covered _ _ _ _ _ _
    (Routes.route .patch [.literal "devices", .parameter "device_id"] .updateDevice) ?_ ?_ ?_ method path parameters
  · decide
  · decide
  · decide

example : dispatch Routes.v1 .patch reorderPath = some (.endpoint .updateDevice, [("device_id", "reorder")]) := by decide

/-! ## The handler -/

/-- A device and its new place. -/
structure ReorderItem where
  id : Uuid
  displayOrder : Int

/-- `flushed` gives the clock at each flush. -/
def reorderDevices (session : SessionId) (flushed : ℕ → DateTime) : List ReorderItem → Py Devices.World Unit
  | [] => pure ()
  | item :: items => do
    let _ ← DeviceService.updateDevice session (flushed 0) item.id { displayOrder := some item.displayOrder }
    reorderDevices session (fun i => flushed (i + 1)) items

/-- The order that the last item for the device gives it. -/
def lastOrder (items : List ReorderItem) (id : Uuid) : Option Int :=
  (items.reverse.find? fun item => item.id = id).map ReorderItem.displayOrder

/-- What the items make of a row; an UPDATE sets `updated_at` too. -/
structure Reordered (items : List ReorderItem) (old new : DeviceRow) : Prop where
  frame : ∃ updatedAt, new = { old with displayOrder := new.displayOrder, updatedAt }
  order : new.displayOrder = (lastOrder items old.id).getD old.displayOrder
  other : lastOrder items old.id = none → new = old

theorem lastOrder_cons (item : ReorderItem) (items : List ReorderItem) (id : Uuid) :
    lastOrder (item :: items) id = (lastOrder items id).or (if item.id = id then some item.displayOrder else none) := by
  unfold lastOrder
  rw [List.reverse_cons, List.find?_append, List.find?_singleton, Option.map_or]
  by_cases hid : item.id = id <;> simp [hid]

theorem reordered_nil (row : DeviceRow) : Reordered [] row row where
  frame := ⟨row.updatedAt, rfl⟩
  order := rfl
  other _ := rfl

theorem Reordered.cons {item : ReorderItem} {items : List ReorderItem} {a b c : DeviceRow} (h : Reordered [item] a b)
    (h' : Reordered items b c) : Reordered (item :: items) a c := by
  obtain ⟨updatedAt, hframe⟩ := h.frame
  obtain ⟨updatedAt', hframe'⟩ := h'.frame
  have hid : b.id = a.id := by rw [hframe]
  have hone : lastOrder [item] a.id = if item.id = a.id then some item.displayOrder else none := by
    rw [lastOrder_cons]
    rfl
  constructor
  · exact ⟨updatedAt', by rw [hframe', hframe]⟩
  · rw [h'.order, hid, h.order, hone, lastOrder_cons]
    cases lastOrder items a.id <;> rfl
  · intro hnone
    rw [lastOrder_cons, Option.or_eq_none_iff] at hnone
    rw [h'.other (hid ▸ hnone.1), h.other (hone.trans hnone.2)]

/-- The update of one device. -/
theorem reordered_update {flushed : DateTime} {item : ReorderItem} {rows : List DeviceRow} {row : DeviceRow}
    (h : mapper.Distinct rows) (hrow : row ∈ rows) (hid : row.id = item.id) :
    List.Forall₂ (Reordered [item]) rows (rows.map (editing
      (touch flushed (DeviceUpdate.apply { displayOrder := some item.displayOrder })) id [row])) := by
  have hone : ∀ id, lastOrder [item] id = if item.id = id then some item.displayOrder else none := fun id => by
    rw [lastOrder_cons]
    rfl
  rw [List.forall₂_map_right_iff, List.forall₂_same]
  intro other hother
  by_cases hsame : other = row
  · rw [hsame, editing, if_pos (List.mem_singleton_self row)]
    obtain ⟨updatedAt, htouch⟩ := touch_eq flushed (DeviceUpdate.apply { displayOrder := some item.displayOrder }) row
    rw [id, htouch]
    refine ⟨⟨updatedAt, rfl⟩, ?_, fun hnone => ?_⟩
    · rw [hone, if_pos hid.symm]
      rfl
    · rw [hone, if_pos hid.symm] at hnone
      cases hnone
  · rw [editing, if_neg (by simpa using hsame)]
    have hne : item.id ≠ other.id := fun heq => hsame (h.eq_of_key hother hrow (heq.symm.trans hid.symm))
    refine ⟨⟨other.updatedAt, rfl⟩, ?_, fun _ => rfl⟩
    rw [hone, if_neg hne]
    rfl

theorem forall₂_comp {α : Type} {p q r : α → α → Prop} (hpqr : ∀ {a b c}, p a b → q b c → r a c) {as bs cs : List α}
    (h : List.Forall₂ p as bs) (h' : List.Forall₂ q bs cs) : List.Forall₂ r as cs := by
  induction h generalizing cs with
  | nil =>
    cases h'
    exact .nil
  | cons hab _ ih =>
    cases h' with
    | cons hbc hrest => exact .cons (hpqr hab hbc) (ih hrest)

/-- No row is lost, added or given another id. -/
theorem reordered_ids {items : List ReorderItem} {old new : List DeviceRow} (h : List.Forall₂ (Reordered items) old new) :
    new.map (·.id) = old.map (·.id) := by
  induction h with
  | nil => rfl
  | cons hrow _ ih =>
    obtain ⟨_, hframe⟩ := hrow.frame
    rw [List.map_cons, List.map_cons, ih, hframe]

/-- The loop, when no item raises. -/
theorem reorderDevices_ok {session : SessionId} {flushed : ℕ → DateTime} {items : List ReorderItem}
    {w t : Devices.World} (h : Synced mapper session w) (hrun : reorderDevices session flushed items w = (.ok (), t)) :
    Synced mapper session t ∧ List.Forall₂ (Reordered items) (w.session session).rows (t.session session).rows ∧
      ∀ item ∈ items, item.id ∈ (w.session session).rows.map (·.id) := by
  induction items generalizing flushed w with
  | nil =>
    cases hrun
    exact ⟨h, List.forall₂_same.mpr fun row _ => reordered_nil row, nofun⟩
  | cons item items ih =>
    obtain ⟨_, u, hupdate, hrest⟩ := Eff.bind_eq_ok.mp hrun
    obtain ⟨hsynced, row, hrow, hid, hrows⟩ := DeviceService.updateDevice_ok h hupdate
    obtain ⟨ht, hreordered, hfound⟩ := ih hsynced hrest
    have hfirst := @reordered_update (flushed 0) _ _ _ h.distinct hrow hid
    rw [← hrows] at hfirst
    refine ⟨ht, forall₂_comp (fun hab hbc => hab.cons hbc) hfirst hreordered, List.forall_mem_cons.mpr ⟨?_, ?_⟩⟩
    · exact List.mem_map.mpr ⟨row, hrow, hid⟩
    · rwa [reordered_ids hfirst] at hfound

theorem reorderDevices_within {session : SessionId} (flushed : ℕ → DateTime) (items : List ReorderItem) :
    Eff.Keeps (Within session) (reorderDevices session flushed items) := by
  induction items generalizing flushed with
  | nil => exact .pure (Within.refl session) _
  | cons item items ih =>
    exact .bind (R := Within session) Within.trans (DeviceService.updateDevice_within _ _ _) fun _ => ih _

/-- In a transaction of its own the handler saves the whole order. -/
theorem reorderDevices_committed {flushed : ℕ → DateTime} {items : List ReorderItem} {w t : Devices.World}
    (h : mapper.Distinct w.rows)
    (hrun : transaction mapper (fun session => reorderDevices session flushed items) w = (.ok (), t)) :
    List.Forall₂ (Reordered items) w.rows t.rows ∧ ∀ item ∈ items, item.id ∈ w.rows.map (·.id) := by
  obtain ⟨u, v, hbody, hcommit, hrows⟩ := transaction_ok hrun
  obtain ⟨hsynced, hreordered, hfound⟩ := reorderDevices_ok (synced_openSession h) hbody
  have hopened : (w.openSession.session w.sessions).rows = w.rows := by simp
  rw [hopened] at hreordered hfound
  rw [hrows, commit_synced hsynced hcommit]
  exact ⟨hreordered, hfound⟩

/-- If it raises, it saves nothing. -/
theorem reorderDevices_rolled_back {flushed : ℕ → DateTime} {items : List ReorderItem} {w t : Devices.World} {e : PyError}
    (hrun : transaction mapper (fun session => reorderDevices session flushed items) w = (.error e, t)) :
    t.rows = w.rows :=
  transaction_error (fun _ => reorderDevices_within flushed items) hrun

/-! ## The request -/

/-- The two tables that the request meets. -/
structure Site where
  users : Users.World
  devices : Devices.World

namespace Site
variable {α : Type}

/-- A program over the table of users. -/
def withUsers (m : Py Users.World α) : Py Site α := Eff.zoom Site.users (fun users s => { s with users }) m

/-- A program over the table of devices. -/
def withDevices (m : Py Devices.World α) : Py Site α := Eff.zoom Site.devices (fun devices s => { s with devices }) m

end Site

/-- The bodies of the two PATCH handlers, as pydantic reads them. -/
inductive PatchBody where
  | items (items : List ReorderItem)
  | update (data : DeviceUpdate)

/-- What the request uses besides the tables. -/
structure PatchEnv where
  jwt : Jwt
  /-- What pydantic makes of a text that should be a UUID. -/
  uuid : String → Option Uuid
  flushed : ℕ → DateTime

namespace PatchEnv
variable (env : PatchEnv)

/-- The endpoints answer with a status; a parameter or a body that does not validate comes after the guard. -/
def updateDevice (token : String) (deviceId : String) (body : PatchBody) : Py Site ℕ := do
  let _ ← Site.withUsers (requireRole env.jwt .user token)
  match env.uuid deviceId, body with
  | some deviceId, .update data => do
    Site.withDevices (transaction mapper fun session => do
      let _ ← DeviceService.updateDevice session (env.flushed 0) deviceId data
      pure ())
    pure 200
  | _, _ => pure 422

/-- `PATCH /devices/reorder`, as its handler is declared. -/
def reorderDevices (token : String) (body : PatchBody) : Py Site ℕ := do
  let _ ← Site.withUsers (requireRole env.jwt .user token)
  match body with
  | .items items => do
    Site.withDevices (transaction mapper fun session => Api.reorderDevices session env.flushed items)
    pure 204
  | .update _ => pure 422

/-- `PATCH /api/v1/devices/reorder`. -/
def patchReorder (token : String) (body : PatchBody) : Py Site ℕ :=
  match dispatch Routes.v1 .patch reorderPath with
  | some (.endpoint .updateDevice, [(_, deviceId)]) => env.updateDevice token deviceId body
  | some (.endpoint .reorderDevices, _) => env.reorderDevices token body
  | _ => pure 404

end PatchEnv

/-- The status of the answer. -/
def statusOf : Except PyError ℕ → ℕ
  | .ok status => status
  | .error (.app e) => e.statusCode
  | .error _ => 500

/-- The request saves the order, all of it or nothing. -/
structure OrderSaved (env : PatchEnv) (token : String) (items : List ReorderItem) (s : Site) : Prop where
  dispatched : ∃ parameters, dispatch Routes.v1 .patch reorderPath = some (.endpoint .reorderDevices, parameters)
  saved : (∀ item ∈ items, item.id ∈ s.devices.rows.map (·.id)) →
    statusOf (env.patchReorder token (.items items) s).1 = 204 ∧
      List.Forall₂ (Reordered items) s.devices.rows (env.patchReorder token (.items items) s).2.devices.rows
  missing : (∃ item ∈ items, item.id ∉ s.devices.rows.map (·.id)) →
    statusOf (env.patchReorder token (.items items) s).1 = 404 ∧
      (env.patchReorder token (.items items) s).2.devices.rows = s.devices.rows

/-- A list of items is no update of a device: past the guard the request is unprocessable. -/
theorem patchReorder_run {env : PatchEnv} {token : String} {items : List ReorderItem} {s : Site} {user : Ref}
    {users : Users.World} (h : requireRole env.jwt .user token s.users = (.ok user, users)) :
    env.patchReorder token (.items items) s = (.ok 422, { s with users }) := by
  have hdispatch : dispatch Routes.v1 .patch reorderPath = some (.endpoint .updateDevice, [("device_id", "reorder")]) := by
    decide
  have hguard : Site.withUsers (requireRole env.jwt .user token) s = (.ok user, { s with users }) := by
    rw [Site.withUsers, Eff.zoom, h]
  rw [PatchEnv.patchReorder, hdispatch]
  dsimp only
  unfold PatchEnv.updateDevice
  rw [Eff.bind_of_ok hguard]
  cases env.uuid "reorder" <;> rfl

/-- Whoever may enter is refused, whatever the items and the table. -/
theorem order_never_saved {env : PatchEnv} {token : String} {s : Site} (henters : Enters env.jwt s.users .user token)
    (items : List ReorderItem) :
    statusOf (env.patchReorder token (.items items) s).1 = 422 ∧
      (env.patchReorder token (.items items) s).2.devices = s.devices ∧ ¬ OrderSaved env token items s := by
  obtain ⟨user, users, hguard⟩ := henters
  rw [patchReorder_run hguard]
  refine ⟨rfl, rfl, fun h => ?_⟩
  obtain ⟨parameters, hdispatch⟩ := h.dispatched
  exact reorderDevices_unreachable .patch reorderPath parameters hdispatch

/-! ### An example -/

/-- Anna's only device. -/
def annasThermostat : DeviceRow where
  id := 7
  ain := "11630 0206488"
  name := "Heizung"
  deviceType := "thermostat"
  createdAt := 0
  updatedAt := 0

/-- Anna is a user, and there is one device. -/
def annasSite : Site where
  users := { rows := [{ Users.Anna.anna with role := "user" }] }
  devices := { rows := [annasThermostat] }

/-- Nothing but Anna's token is valid, and no text is a UUID. -/
def annasEnv : PatchEnv where
  jwt := Users.Anna.tokens
  uuid _ := none
  flushed _ := 100

theorem anna_enters : Enters annasEnv.jwt annasSite.users .user "anna's token" := ⟨_, _, rfl⟩

/-- Anna moves her only device, and gets the answer 422. -/
theorem annas_order_is_refused :
    statusOf (annasEnv.patchReorder "anna's token" (.items [{ id := 7, displayOrder := 3 }]) annasSite).1 = 422 ∧
      ¬ OrderSaved annasEnv "anna's token" [{ id := 7, displayOrder := 3 }] annasSite := by
  have hstatus : statusOf (annasEnv.patchReorder "anna's token" (.items [{ id := 7, displayOrder := 3 }]) annasSite).1 =
      422 := by decide
  refine ⟨hstatus, fun h => ?_⟩
  have hsaved := (h.saved (by decide)).1
  rw [hstatus] at hsaved
  cases hsaved

theorem annas_order_never_saved :
    statusOf (annasEnv.patchReorder "anna's token" (.items [{ id := 7, displayOrder := 3 }]) annasSite).1 = 422 ∧
      (annasEnv.patchReorder "anna's token" (.items [{ id := 7, displayOrder := 3 }]) annasSite).2.devices =
        annasSite.devices ∧
      ¬ OrderSaved annasEnv "anna's token" [{ id := 7, displayOrder := 3 }] annasSite :=
  order_never_saved anna_enters [{ id := 7, displayOrder := 3 }]

end SmartHome.Api
