import SmartHome.Api.Pages
import SmartHome.Auth.Rbac

/-! # What a request without a token learns

The endpoints of the `/api/v1` routers other than `auth`, and of `/partials/devices`, with the role that each
asks for (`app/api/v1/*.py`). The handlers that ask for none are modelled in full; of the others only that they
run behind `require_role`. The box is in live mode. -/

namespace SmartHome.Api
open Orm Users Phone Network

/-! ## Endpoints -/

/-- The endpoints under `/api/v1`, but for those of the login. -/
inductive Endpoint where
  -- users.py
  | getMe | updateMe | changePassword | listUsers | createUser | updateUserRole | deleteUser
  -- devices.py
  | listDevices | discoverDevices | getDeviceState | updateDevice | turnOn | turnOff | setTemperature | setBrightness
  | getDeviceSnapshots | reorderDevices
  -- schedules.py
  | listSchedules | createSchedule | getSchedule | updateSchedule | deleteSchedule
  -- automations.py
  | listRules | createRule | getRule | updateRule | deleteRule
  -- groups.py
  | listGroups | createGroup | getGroup | updateGroup | deleteGroup | addMember | removeMember
  -- dashboard.py
  | dashboardStats | dashboardActivity
  -- audit.py
  | listAuditEvents
  -- settings.py
  | getProviderSettings | testProviderConnection | getSystemInfo
  -- weather.py
  | getCurrentWeather
  -- analytics.py
  | powerHistory | temperatureHistory | topConsumers
  -- phone.py
  | phoneStats | phoneCalls | partialsCalls
  -- network.py
  | networkStatus | networkWlan | networkHosts | partialsNetworkStatus | partialsHosts
  -- pages.py
  | partialsDeviceState | partialsDevices
  deriving DecidableEq, Repr

/-- The argument of `Depends(require_role(..))`, if the handler has this dependency. -/
def Endpoint.minimumRole : Endpoint → Option Role
  | getMe | updateMe | changePassword => some .viewer
  | listUsers | createUser | updateUserRole | deleteUser => some .admin
  | listDevices | getDeviceState | getDeviceSnapshots => some .viewer
  | discoverDevices => some .admin
  | updateDevice | turnOn | turnOff | setTemperature | setBrightness | reorderDevices => some .user
  | listSchedules | getSchedule => some .viewer
  | createSchedule | updateSchedule | deleteSchedule => some .user
  | listRules | getRule => some .viewer
  | createRule | updateRule | deleteRule => some .user
  | listGroups | getGroup => some .viewer
  | createGroup | updateGroup | addMember | removeMember => some .user
  | deleteGroup => some .admin
  | dashboardStats | dashboardActivity => some .viewer
  | listAuditEvents => some .admin
  | getProviderSettings | testProviderConnection | getSystemInfo => some .admin
  | getCurrentWeather => some .viewer
  | powerHistory | temperatureHistory | topConsumers => some .viewer
  | phoneStats | phoneCalls | partialsCalls => none
  | networkStatus | networkWlan | networkHosts | partialsNetworkStatus | partialsHosts => none
  | partialsDeviceState | partialsDevices => none

/-! ## Requests and responses -/

/-- What an endpoint answers with. -/
inductive Body where
  | detail (text : String)
  | error (detail code : String)
  | serverError
  | stats (stats : CallStats)
  | calls (calls : List CallDict)
  | dslStatus (status : DslStatus)
  | wlanNetworks (networks : List WlanNetwork)
  | hosts (hosts : List Host)
  | page (markup : Markup)
  | other (content : String)
  deriving DecidableEq, Repr

/-- An answer with its status. -/
structure Response where
  status : Nat := 200
  body : Body
  deriving DecidableEq, Repr

/-- The parameters that the handlers without a guard read, each with its default when it is missing. -/
structure Params where
  calltype : Int := 0
  days : Int := 30
  num : Int := 100
  force : Bool := false
  activeOnly : Bool := false
  ain : String := ""

/-- A request, as the server has read it. -/
structure Request where
  authorization : Option String := none
  /-- The answer to a body that is not JSON, which is read first. -/
  malformed : Option Response := none
  /-- The answer to parameters or to a body that do not validate, given after the dependencies. -/
  invalid : Option Response := none
  params : Params := {}

/-- The token in the header, whatever stands before it in any case of `Bearer`. -/
def oauth2Scheme (authorization : Option String) : Option String :=
  authorization.bind fun value =>
    let scheme := value.toList.takeWhile (· ≠ ' ')
    if (String.ofList scheme).toLower = "bearer" then some (String.ofList (value.toList.drop (scheme.length + 1)))
    else none

/-! ## The system -/

/-- The household data: what the FRITZ!Box yields, and the tables of devices and snapshots. -/
structure Household where
  calls : (days num : Int) → Except PyError (List Call)
  status : Except PyError FritzStatus
  wlan : (idx : Nat) → Except PyError FritzWlan
  hosts : (activeOnly : Bool) → Except PyError (List FritzHost)
  devices : List Device
  states : (ain : String) → Except PyError DeviceState
  snapshots : List DeviceStateSnapshot

/-- What the cached reads work on. -/
structure Outside where
  household : Household
  clock : ℚ

/-- The state of the application; `rest` is all that the handlers without a guard do not use. -/
structure System (ρ : Type) where
  outside : Outside
  phoneCache : TtlCache (List CallDict)
  dslCache : TtlCache DslStatus
  wlanCache : TtlCache (List WlanNetwork)
  hostsCache : TtlCache (List Host)
  stateCache : TtlCache DeviceState
  users : Users.World
  rest : ρ

/-- What the modelled handlers use of the rest of the application. -/
structure App (ρ : Type) where
  jwt : Jwt
  collate : String → String → Bool
  /-- The environment of the device service, but for the reads of devices and the clock. -/
  env : DeviceEnv Outside DeviceState
  mockCalls : List CallDict
  mockDslStatus : DslStatus
  mockWlanNetworks : List WlanNetwork
  mockHosts : List Host
  /-- The handlers that `require_role` guards, with the user it returns. -/
  handler : Endpoint → Option Ref → Request → Py (System ρ) Response

namespace App
variable {ρ : Type}

/-- A look at the devices and the box outside. -/
def reads {α : Type} (f : Household → Except PyError α) : Py Outside α := fun w => (f w.household, w)

/-- What the phone service uses, over the household. -/
def phoneEnv (app : App ρ) : PhoneEnv Outside where
  fritzMockMode := false
  monotonic := Outside.clock
  fritzCalls days num := reads fun h => h.calls days num
  mockCalls _ := app.mockCalls

/-- What the network service uses, over the household. -/
def networkEnv (app : App ρ) : NetworkEnv Outside where
  fritzMockMode := false
  monotonic := Outside.clock
  fritzStatus := reads Household.status
  fritzWlan idx := reads fun h => h.wlan idx
  fritzHosts activeOnly := reads fun h => h.hosts activeOnly
  mockDslStatus := app.mockDslStatus
  mockWlanNetworks := app.mockWlanNetworks
  mockHosts := app.mockHosts

/-- What the device service uses, over the household. -/
def deviceEnv (app : App ρ) : DeviceEnv Outside DeviceState :=
  { app.env with
    provider := { app.env.provider with getDeviceState := fun ain => reads fun h => h.states ain.text }
    monotonic := Outside.clock }

end App

namespace System
variable {ρ α : Type}

/-- A program over the cache of the calls. -/
def withPhone (m : Py (Cached Outside (List CallDict)) α) : Py (System ρ) α :=
  Eff.zoom (fun s => { world := s.outside, cache := s.phoneCache })
    (fun c s => { s with outside := c.world, phoneCache := c.cache }) m

/-- A program over the cache of the DSL status. -/
def withDsl (m : Py (Cached Outside DslStatus) α) : Py (System ρ) α :=
  Eff.zoom (fun s => { world := s.outside, cache := s.dslCache })
    (fun c s => { s with outside := c.world, dslCache := c.cache }) m

/-- A program over the cache of the WLANs. -/
def withWlan (m : Py (Cached Outside (List WlanNetwork)) α) : Py (System ρ) α :=
  Eff.zoom (fun s => { world := s.outside, cache := s.wlanCache })
    (fun c s => { s with outside := c.world, wlanCache := c.cache }) m

/-- A program over the cache of the hosts. -/
def withHosts (m : Py (Cached Outside (List Host)) α) : Py (System ρ) α :=
  Eff.zoom (fun s => { world := s.outside, cache := s.hostsCache })
    (fun c s => { s with outside := c.world, hostsCache := c.cache }) m

/-- A program over the cache of the device states. -/
def withStates (m : Py (Cached Outside DeviceState) α) : Py (System ρ) α :=
  Eff.zoom (fun s => { world := s.outside, cache := s.stateCache })
    (fun c s => { s with outside := c.world, stateCache := c.cache }) m

/-- A program over the table of users. -/
def withUsers (m : Py Users.World α) : Py (System ρ) α :=
  Eff.zoom (fun s => s.users) (fun users s => { s with users }) m

end System

/-! ## Handlers -/

/-- The state that a snapshot holds. -/
def snapshotState (ain : String) (snapshot : DeviceStateSnapshot) : DeviceState where
  ain
  isOn := snapshot.isOn
  temperatureCelsius := snapshot.temperatureCelsius
  targetTemperature := snapshot.targetTemperature
  powerWatts := snapshot.powerWatts
  energyWh := snapshot.energyWh
  brightnessLevel := snapshot.brightnessLevel

namespace App
variable {ρ : Type} (app : App ρ)

/-- The live state of a device, else its latest snapshot. -/
def shownState (ain : String) : Py (System ρ) (Option DeviceState) :=
  (do let state ← System.withStates (DeviceService.getLiveState app.deviceEnv ain); pure (some state) :
    Py (System ρ) (Option DeviceState)).attempt fun _ => do
      let snapshots ← Eff.gets fun s => s.outside.household.snapshots
      pure ((DeviceRepository.getLatestSnapshot snapshots ain).map (snapshotState ain))

/-- What the endpoint does once the user is let in. -/
def handle (endpoint : Endpoint) (user : Option Ref) (request : Request) : Py (System ρ) Response :=
  let p := request.params
  match endpoint with
  | .phoneStats => do
    let stats ← System.withPhone (PhoneService.getStats app.phoneEnv p.force)
    pure { body := .stats stats }
  | .phoneCalls => do
    let calls ← System.withPhone (Phone.phoneCalls app.phoneEnv p.calltype p.days p.num p.force)
    pure { body := .calls calls }
  | .partialsCalls => do
    let calls ← System.withPhone (PhoneService.getCalls app.phoneEnv p.calltype (some p.days) (some 150) p.force)
    pure { body := .page (callRows calls) }
  | .networkStatus => do
    let status ← System.withDsl (NetworkService.getDslStatus app.networkEnv)
    pure { body := .dslStatus status }
  | .networkWlan => do
    let networks ← System.withWlan (NetworkService.getWlanNetworks app.networkEnv)
    pure { body := .wlanNetworks networks }
  | .networkHosts => do
    let hosts ← System.withHosts (NetworkService.getHosts app.networkEnv p.activeOnly)
    pure { body := .hosts hosts }
  | .partialsNetworkStatus => do
    let status ← System.withDsl (NetworkService.getDslStatus app.networkEnv)
    pure { body := .page (Api.networkStatus status) }
  | .partialsHosts => do
    -- The two reads are gathered; they have caches of their own.
    let hosts ← System.withHosts (NetworkService.getHosts app.networkEnv p.activeOnly)
    let _ ← System.withWlan (NetworkService.getWlanNetworks app.networkEnv)
    pure { body := .page (hostRows hosts) }
  | .partialsDeviceState => do
    match DeviceRepository.getByAin (← Eff.gets fun s => s.outside.household.devices) p.ain with
    | none => Eff.raise (.app (.notFound s!"Device with AIN '{p.ain}' not found."))
    | some device =>
      let state ← app.shownState p.ain
      pure { body := .page (deviceStatePanel device state) }
  | .partialsDevices => do
    let devices ← Eff.gets fun s => DeviceRepository.getAll app.collate s.outside.household.devices false
    pure { body := .page (deviceGrid devices) }
  | guarded => app.handler guarded user request

/-- The endpoint behind its dependencies: body, guard, parameters. -/
def serve (endpoint : Endpoint) (request : Request) : Py (System ρ) Response :=
  match request.malformed with
  | some response => pure response
  | none =>
    match endpoint.minimumRole with
    | none =>
      match request.invalid with
      | some response => pure response
      | none => app.handle endpoint none request
    | some role =>
      match oauth2Scheme request.authorization with
      | none => pure { status := 401, body := .detail "Not authenticated" }
      | some token => do
        let user ← System.withUsers (requireRole app.jwt role token)
        match request.invalid with
        | some response => pure response
        | none => app.handle endpoint (some user) request

/-- The answer that the exception handlers make of an error. -/
def respond : Except PyError Response → Response
  | .ok response => response
  | .error (.app e) => { status := e.statusCode, body := .error e.detail e.errorCode }
  | .error _ => { status := 500, body := .serverError }

/-- What the client gets. -/
def response (endpoint : Endpoint) (request : Request) (s : System ρ) : Response :=
  respond (app.serve endpoint request s).1

/-! ## Noninterference -/

/-- The request carries no token that decodes. -/
def WithoutToken (request : Request) : Prop :=
  ∀ token, oauth2Scheme request.authorization = some token → decodeAccessToken app.jwt token = none

/-- Apart from the household data, and from what the caches hold of it, the states are the same. -/
structure SameButHousehold (s t : System ρ) : Prop where
  clock : s.outside.clock = t.outside.clock
  users : s.users = t.users
  rest : s.rest = t.rest

/-- The response says nothing about the household. -/
def Noninterfering (endpoint : Endpoint) (request : Request) : Prop :=
  ∀ s t : System ρ, SameButHousehold s t → app.response endpoint request s = app.response endpoint request t

/-- Behind `require_role` a request without a token ends before anything is read. -/
theorem noninterfering_of_guarded {endpoint : Endpoint} {role : Role} {request : Request}
    (h : endpoint.minimumRole = some role) (htoken : app.WithoutToken request) :
    app.Noninterfering endpoint request := by
  intro s t _
  unfold response serve
  rw [h]
  cases request.malformed with
  | some response => rfl
  | none =>
    dsimp only
    cases hscheme : oauth2Scheme request.authorization with
    | none => rfl
    | some token =>
      dsimp only
      rw [requireRole_of_no_payload role (htoken token hscheme)]
      rfl

theorem noninterfering_of_rejected {endpoint : Endpoint} {request : Request} (h : endpoint.minimumRole = none)
    (hrejected : request.malformed ≠ none ∨ request.invalid ≠ none) : app.Noninterfering endpoint request := by
  intro s t _
  unfold response serve
  rw [h]
  cases hmalformed : request.malformed with
  | some response => rfl
  | none =>
    cases hinvalid : request.invalid with
    | some response => rfl
    | none => exact absurd hrejected (by simp [hmalformed, hinvalid])

/-! ### Two households -/

/-- A box that answers no question but the one for calls. -/
def emptyHousehold : Household where
  calls _ _ := .ok []
  status := .error .external
  wlan _ := .error .external
  hosts _ := .ok []
  devices := []
  states _ := .error .external
  snapshots := []

/-- A call from a number that no contact has. -/
def strangerCall (ctype : Int) : Call where
  id := some "1"
  type := some ctype
  callerNumber := some "030123456"
  calledNumber := none
  name := none
  device := none
  date := none
  duration := none

/-- The box is connected. -/
def online : FritzStatus where
  isConnected := some true
  isLinked := some true
  externalIp := some "93.184.216.34"
  externalIpv6 := none
  connectionUptime := none
  modelname := none
  physicalLinkStatus := none
  wanAccessType := none
  maxBitRate := some (0, 0)
  addonSpeeds := none
  noiseMargin := none
  attenuation := none

/-- A WLAN of the box. -/
def homeNet : FritzWlan where
  channel := some 6
  ssid := some "HomeNet"
  isEnabled := true
  isHidden := false
  totalHostNumber := none

/-- A host in the WLAN. -/
def printer : FritzHost where
  ip := some "192.168.178.30"
  name := some "Drucker"
  mac := none
  interfaceType := some "802.11n"
  status := some true
  addressSource := none

/-- A device with this AIN. -/
def plug (ain : String) : Device where
  id := 1
  ain
  name := "Kaffeemaschine"
  deviceType := "switch"

/-- There is a call of the type that is asked for, the box is online, and there are a network, a host and the
    device that is asked for. -/
def lively (p : Params) : Household where
  calls _ _ := .ok [strangerCall p.calltype]
  status := .ok online
  wlan _ := .ok homeNet
  hosts _ := .ok [printer]
  devices := [plug p.ain]
  states ain := .ok { ain, isOn := some true }
  snapshots := []

/-- The application after its start: nothing is cached. -/
def justStarted (household : Household) (rest : ρ) : System ρ where
  outside := { household, clock := 0 }
  phoneCache := .empty
  dslCache := .empty
  wlanCache := .empty
  hostsCache := .empty
  stateCache := .empty
  users := { rows := [] }
  rest

section Open
variable {request : Request}

theorem serve_open {endpoint : Endpoint} (hopen : endpoint.minimumRole = none) (hmalformed : request.malformed = none)
    (hinvalid : request.invalid = none) : app.serve endpoint request = app.handle endpoint none request := by
  unfold serve
  rw [hmalformed, hopen, hinvalid]

/-- A request to an open endpoint interferes when two households are answered differently. -/
theorem interferes {endpoint : Endpoint} (here there : Household) (rest : ρ) {answer answer' : Except PyError Response}
    {s t : System ρ} (hserve : app.serve endpoint request = app.handle endpoint none request)
    (hhere : app.handle endpoint none request (justStarted here rest) = (answer, s))
    (hthere : app.handle endpoint none request (justStarted there rest) = (answer', t))
    (hne : respond answer ≠ respond answer') : ¬ app.Noninterfering endpoint request := by
  intro hsame
  have h := hsame (justStarted here rest) (justStarted there rest) ⟨rfl, rfl, rfl⟩
  unfold response at h
  rw [hserve, hhere, hthere] at h
  exact hne h

theorem withPhone_run {α : Type} {m : Py (Cached Outside (List CallDict)) α} {household : Household} (rest : ρ)
    {result : Except PyError α} {t : Cached Outside (List CallDict)}
    (h : m { world := { household, clock := 0 }, cache := .empty } = (result, t)) :
    System.withPhone m (justStarted household rest) =
      (result, { justStarted household rest with outside := t.world, phoneCache := t.cache }) := by
  unfold System.withPhone Eff.zoom justStarted
  dsimp only
  rw [h]

theorem getCalls_empty (calltype days num : Int) (force : Bool) :
    ∃ t, PhoneService.getCalls app.phoneEnv calltype (some days) (some num) force
      { world := { household := emptyHousehold, clock := 0 }, cache := .empty } = (.ok [], t) := by
  obtain ⟨t, ht⟩ := PhoneService.getCalls_of_fetch app.phoneEnv calltype (some days) (some num) force
    { world := { household := emptyHousehold, clock := 0 }, cache := .empty } rfl (Or.inr rfl) rfl
  refine ⟨t, ht.trans ?_⟩
  simp

theorem getCalls_lively (p : Params) (days num : Int) (force : Bool) :
    ∃ t, PhoneService.getCalls app.phoneEnv p.calltype (some days) (some num) force
      { world := { household := lively p, clock := 0 }, cache := .empty } =
        (.ok [callToDict (strangerCall p.calltype)], t) := by
  obtain ⟨t, ht⟩ := PhoneService.getCalls_of_fetch app.phoneEnv p.calltype (some days) (some num) force
    { world := { household := lively p, clock := 0 }, cache := .empty } rfl (Or.inr rfl) rfl
  refine ⟨t, ht.trans ?_⟩
  have htype : ((callToDict (strangerCall p.calltype)).type == p.calltype) = true := beq_self_eq_true p.calltype
  simp [htype]

theorem not_noninterfering_of_open (rest : ρ) {endpoint : Endpoint} (hopen : endpoint.minimumRole = none)
    (hmalformed : request.malformed = none) (hinvalid : request.invalid = none) :
    ¬ app.Noninterfering endpoint request := by
  have hserve := app.serve_open hopen hmalformed hinvalid
  obtain ⟨authorization, malformed, invalid, p⟩ := request
  cases endpoint with
  | phoneStats =>
    obtain ⟨s, hs⟩ := app.getCalls_empty 0 30 100 p.force
    obtain ⟨t, ht⟩ := app.getCalls_lively { p with calltype := 0 } 30 100 p.force
    refine app.interferes emptyHousehold (lively { p with calltype := 0 }) rest hserve
      (Eff.bind_of_ok (withPhone_run rest (Eff.bind_of_ok hs)))
      (Eff.bind_of_ok (withPhone_run rest (Eff.bind_of_ok ht))) ?_
    simp [respond]
  | phoneCalls =>
    obtain ⟨s, hs⟩ := app.getCalls_empty p.calltype p.days p.num p.force
    obtain ⟨t, ht⟩ := app.getCalls_lively p p.days p.num p.force
    refine app.interferes emptyHousehold (lively p) rest hserve
      (Eff.bind_of_ok (withPhone_run rest (Eff.bind_of_ok hs)))
      (Eff.bind_of_ok (withPhone_run rest (Eff.bind_of_ok ht))) ?_
    simp [respond]
  | partialsCalls =>
    obtain ⟨s, hs⟩ := app.getCalls_empty p.calltype p.days 150 p.force
    obtain ⟨t, ht⟩ := app.getCalls_lively p p.days 150 p.force
    refine app.interferes emptyHousehold (lively p) rest hserve (Eff.bind_of_ok (withPhone_run rest hs))
      (Eff.bind_of_ok (withPhone_run rest ht)) ?_
    simp [respond, callRows, callRow]
  | networkStatus =>
    exact app.interferes emptyHousehold (lively p) rest hserve rfl rfl
      (beq_eq_false_iff_ne.mp rfl)
  | networkWlan =>
    exact app.interferes emptyHousehold (lively p) rest hserve rfl rfl
      (beq_eq_false_iff_ne.mp rfl)
  | networkHosts =>
    refine app.interferes emptyHousehold (lively p) rest hserve rfl rfl ?_
    cases p.activeOnly <;> exact beq_eq_false_iff_ne.mp rfl
  | partialsNetworkStatus =>
    exact app.interferes emptyHousehold (lively p) rest hserve rfl rfl
      (beq_eq_false_iff_ne.mp rfl)
  | partialsHosts =>
    refine app.interferes emptyHousehold (lively p) rest hserve rfl rfl ?_
    cases p.activeOnly <;> exact beq_eq_false_iff_ne.mp rfl
  | partialsDeviceState =>
    have hfind : DeviceRepository.getByAin (lively p).devices p.ain = some (plug p.ain) := by
      simp [DeviceRepository.getByAin, lively, plug]
    have hthere : app.handle .partialsDeviceState none ⟨authorization, malformed, invalid, p⟩
        (justStarted (lively p) rest) = (app.shownState p.ain >>= fun state =>
          pure { body := .page (deviceStatePanel (plug p.ain) state) }) (justStarted (lively p) rest) := by
      unfold handle
      dsimp only
      rw [Eff.gets_bind_run]
      dsimp only [justStarted]
      rw [hfind]
    refine app.interferes emptyHousehold (lively p) rest hserve rfl hthere ?_
    intro h
    exact absurd (congrArg Response.status h) (Nat.ne_of_beq_eq_false rfl)
  | partialsDevices =>
    have hhere : DeviceRepository.getAll app.collate emptyHousehold.devices false = [] := by
      simp [DeviceRepository.getAll, emptyHousehold]
    have hthere : DeviceRepository.getAll app.collate (lively p).devices false = [plug p.ain] := by
      simp [DeviceRepository.getAll, lively, plug]
    refine app.interferes emptyHousehold (lively p) rest hserve rfl rfl ?_
    change (⟨200, .page (deviceGrid (DeviceRepository.getAll app.collate emptyHousehold.devices false))⟩ : Response) ≠
      ⟨200, .page (deviceGrid (DeviceRepository.getAll app.collate (lively p).devices false))⟩
    rw [hhere, hthere]
    simp [deviceGrid, deviceCard]
  | _ => cases hopen

end Open

/-- A request without a token learns nothing exactly if the endpoint is behind `require_role`, or the request is
    turned down before its handler runs. -/
theorem noninterfering_iff (rest : ρ) (endpoint : Endpoint) (request : Request) (htoken : app.WithoutToken request) :
    app.Noninterfering endpoint request ↔
      endpoint.minimumRole ≠ none ∨ request.malformed ≠ none ∨ request.invalid ≠ none := by
  cases hrole : endpoint.minimumRole with
  | some role => exact iff_of_true (app.noninterfering_of_guarded hrole htoken) (Or.inl (Option.some_ne_none role))
  | none =>
    constructor
    · intro h
      by_contra hopen
      simp only [not_or, not_not] at hopen
      exact app.not_noninterfering_of_open rest hrole hopen.2.1 hopen.2.2 h
    · rintro (h | hrejected)
      · exact absurd rfl h
      · exact app.noninterfering_of_rejected hrole hrejected

/-! ### An example -/

/-- No device answers. -/
def idleEnv : DeviceEnv Outside DeviceState where
  provider :=
    { discoverDevices := pure []
      getDeviceState := fun ain => Eff.raise (.app (.deviceNotFound ain.text))
      setSwitch := fun ain _ => Eff.raise (.app (.deviceNotFound ain.text))
      setTemperature := fun ain _ => Eff.raise (.app (.deviceNotFound ain.text))
      setDimmer := fun ain _ => Eff.raise (.app (.deviceNotFound ain.text)) }
  getCurrent := pure none
  utcnow _ := 0
  enabledRules := pure []
  commitTriggered _ := pure ()
  stampSchedule _ := pure ()
  monotonic := Outside.clock
  activeDevices := pure []
  saveSnapshot _ := pure ()
  commitSnapshots := pure ()

/-- An application that accepts no token. -/
def idleApp : App Unit where
  jwt _ := none
  collate a b := a ≤ b
  env := idleEnv
  mockCalls := []
  mockDslStatus := {}
  mockWlanNetworks := []
  mockHosts := []
  handler _ _ _ := Eff.raise (.app (.notFound))

/-- Without a token, the list of devices is refused whatever the devices are. -/
theorem device_list_is_private : idleApp.Noninterfering .listDevices {} :=
  (idleApp.noninterfering_iff () .listDevices {} nofun).mpr (Or.inl (Option.some_ne_none _))

/-- The household after a missed call. -/
def missedCallHousehold : Household := { emptyHousehold with calls := fun _ _ => .ok [strangerCall callMissed] }

/-- Anyone who asks for the call list sees the missed call. -/
theorem call_list_is_public :
    idleApp.WithoutToken {} ∧
      idleApp.response .phoneCalls {} (justStarted emptyHousehold ()) = { body := .calls [] } ∧
      idleApp.response .phoneCalls {} (justStarted missedCallHousehold ()) =
        { body := .calls [callToDict (strangerCall callMissed)] } ∧
      ¬ idleApp.Noninterfering .phoneCalls {} := by
  refine ⟨nofun, rfl, rfl, fun h => ?_⟩
  have hsame := h (justStarted emptyHousehold ()) (justStarted missedCallHousehold ()) ⟨rfl, rfl, rfl⟩
  exact absurd hsame (beq_eq_false_iff_ne.mp rfl)

end App
end SmartHome.Api
