import SmartHome.Phone.Service

/-! # The network

`NetworkService` (`app/network/service.py`) over the shared `network_cache`, whose keys hold values of three
types. What `fritzconnection` reads from the box is given, and so are the values of mock mode. -/

namespace SmartHome.Network
open Phone (na textOr padded)

/-! ## Texts -/

/-- `round`: halves go to the even side. -/
def roundHalfEven (q : ℚ) : Int :=
  let low := ⌊q⌋
  if q - low < 1 / 2 then low
  else if q - low = 1 / 2 then (if low % 2 = 0 then low else low + 1)
  else low + 1

/-- `_fmt_kbps`. -/
def fmtKbps (kbps : Int) : String :=
  if kbps ≥ 1000 then s!"{roundHalfEven (kbps / 1000)} Mbit/s" else s!"{kbps} kbit/s"

/-- `_fmt_uptime`. -/
def fmtUptime (seconds : Nat) : String :=
  let days := seconds / 86400
  let rem := seconds % 86400
  let hours := rem / 3600
  let rem := rem % 3600
  let minutes := rem / 60
  let secs := rem % 60
  let time := s!"{padded 2 hours}:{padded 2 minutes}:{padded 2 secs}"
  let plural := if days ≠ 1 then "e" else ""
  if days ≠ 0 then s!"{days} Tag{plural}, {time}" else time

/-! ## What the box says -/

/-- The attributes of a `FritzStatus`, with two SOAP calls on its connection; `none` where reading raises. -/
structure FritzStatus where
  isConnected : Option Bool
  isLinked : Option Bool
  externalIp : Option String
  externalIpv6 : Option String
  connectionUptime : Option Nat
  modelname : Option String
  physicalLinkStatus : Option String
  wanAccessType : Option String
  maxBitRate : Option (Int × Int)
  /-- `NewLayer1DownstreamMaxBitRate` and `NewLayer1UpstreamMaxBitRate` of `GetAddonInfos`. -/
  addonSpeeds : Option (Option Int × Option Int)
  noiseMargin : Option (Option Int × Option Int)
  attenuation : Option (Option Int × Option Int)
  deriving DecidableEq, Repr

/-- What the library tells of a WLAN. -/
structure FritzWlan where
  channel : Option Int
  ssid : Option String
  isEnabled : Bool
  isHidden : Bool
  totalHostNumber : Option Int
  deriving DecidableEq, Repr

/-- An entry of `FritzHosts.get_hosts_info()`; `none` for a missing key. -/
structure FritzHost where
  ip : Option String
  name : Option String
  mac : Option String
  interfaceType : Option String
  status : Option Bool
  addressSource : Option String
  deriving DecidableEq, Repr

/-! ## What the service returns -/

/-- The status that the service answers with. -/
structure DslStatus where
  isConnected : Bool := false
  isLinked : Bool := false
  externalIp : String := na
  externalIpv6 : String := na
  uptimeStr : String := na
  uptimeSeconds : Nat := 0
  maxDownKbps : Int := 0
  maxUpKbps : Int := 0
  maxDownStr : String := na
  maxUpStr : String := na
  noiseMarginDown : String := na
  noiseMarginUp : String := na
  attenuationDown : String := na
  attenuationUp : String := na
  model : String := "FRITZ!Box"
  connectionType : String := "WAN"
  deriving DecidableEq, Repr

/-- A WLAN that the service answers with. -/
structure WlanNetwork where
  index : Nat
  ssid : String
  channel : Int
  isEnabled : Bool
  isHidden : Bool
  clientCount : Int
  band : String
  deriving DecidableEq, Repr

/-- A host that the service answers with. -/
structure Host where
  ip : String
  name : String
  mac : String
  interfaceType : String
  active : Bool
  addressSource : String
  deriving DecidableEq, Repr

/-- A value of the line, unless it is absent or zero. -/
def decibel (value : Option Int) : String :=
  match value with
  | none => na
  | some v => if v = 0 then na else s!"{v} dB"

/-- The name of the access type. -/
def connectionType (accessType : String) : String :=
  let lowered := accessType.toLower
  if lowered = "dsl" ∨ lowered = "adsl" ∨ lowered = "vdsl" then "DSL"
  else if lowered = "ethernet" then "Glasfaser / Kabel"
  else textOr (some accessType) "WAN"

/-- The bit rates of the add-on interface. -/
def addonSpeeds (fs : FritzStatus) : Int × Int :=
  match fs.addonSpeeds with
  | none => (0, 0)
  | some (down, up) => (down.getD 0, up.getD 0)

/-- The bit rates; those of the add-on interface where there are no others. -/
def speeds (fs : FritzStatus) : Int × Int :=
  let (maxDown, maxUp) := fs.maxBitRate.getD (0, 0)
  if maxDown = 0 then addonSpeeds fs else (maxDown, maxUp)

/-- The dictionary that `_fetch` of `_live_dsl_status` builds. -/
def dslStatus (fs : FritzStatus) : DslStatus :=
  let physStatus := fs.physicalLinkStatus.getD ""
  let isLinked := if physStatus ≠ "" then decide (physStatus.toLower = "up") else fs.isLinked.getD false
  let isConnected := fs.isConnected.getD false || (physStatus ≠ "" && isLinked)
  let uptime := fs.connectionUptime.getD 0
  let (maxDown, maxUp) := speeds fs
  let noise := fs.noiseMargin.getD (none, none)
  let atten := fs.attenuation.getD (none, none)
  { isConnected
    isLinked
    externalIp := textOr fs.externalIp na
    externalIpv6 := textOr fs.externalIpv6 na
    uptimeStr := if uptime ≠ 0 then fmtUptime uptime else na
    uptimeSeconds := uptime
    maxDownKbps := maxDown / 1000
    maxUpKbps := maxUp / 1000
    maxDownStr := if maxDown ≠ 0 then fmtKbps (maxDown / 1000) else na
    maxUpStr := if maxUp ≠ 0 then fmtKbps (maxUp / 1000) else na
    noiseMarginDown := decibel noise.1
    noiseMarginUp := decibel noise.2
    attenuationDown := decibel atten.1
    attenuationUp := decibel atten.2
    model := textOr fs.modelname "FRITZ!Box"
    connectionType := connectionType (fs.wanAccessType.getD "WAN") }

/-- The dictionary that `_fetch_one` builds. -/
def wlanNetwork (idx : Nat) (fw : FritzWlan) : WlanNetwork :=
  let channel := fw.channel.getD 0
  { index := idx
    ssid := textOr fw.ssid s!"WLAN {idx}"
    channel
    isEnabled := fw.isEnabled
    isHidden := fw.isHidden
    clientCount := fw.totalHostNumber.getD 0
    band := if channel > 14 then "5 GHz" else "2.4 GHz" }

/-- A host, with a dash for what is not known. -/
def host (h : FritzHost) : Host where
  ip := h.ip.getD na
  name := h.name.getD na
  mac := h.mac.getD na
  interfaceType := h.interfaceType.getD na
  active := h.status.getD false
  addressSource := h.addressSource.getD "DHCP"

/-- What the service uses of the settings, the clock and the box. -/
structure NetworkEnv (σ : Type) where
  fritzMockMode : Bool
  monotonic : σ → ℚ
  fritzStatus : Py σ FritzStatus
  fritzWlan : (idx : Nat) → Py σ FritzWlan
  /-- `get_active_hosts()` or `get_hosts_info()` of `FritzHosts(..)`. -/
  fritzHosts : (activeOnly : Bool) → Py σ (List FritzHost)
  mockDslStatus : DslStatus
  mockWlanNetworks : List WlanNetwork
  mockHosts : List Host

namespace NetworkService
variable {σ : Type}

/-- `_live_dsl_status`: after a failure, a status without values. -/
def liveDslStatus (env : NetworkEnv σ) : Py σ DslStatus :=
  (do let fs ← env.fritzStatus; pure (dslStatus fs) : Py σ DslStatus).attempt fun _ => pure {}

/-- `NetworkService.get_dsl_status`. -/
def getDslStatus (env : NetworkEnv σ) : Py (Cached σ DslStatus) DslStatus :=
  if env.fritzMockMode then pure env.mockDslStatus
  else Cached.getOrFetch env.monotonic "dsl" 15 (liveDslStatus env)

/-- `_fetch_one`: nothing after a failure. -/
def fetchOne (env : NetworkEnv σ) (idx : Nat) : Py σ (Option WlanNetwork) :=
  (do let fw ← env.fritzWlan idx; pure (some (wlanNetwork idx fw)) : Py σ (Option WlanNetwork)).attempt
    fun _ => pure none

/-- The WLANs of the box that can be read. -/
def liveWlanNetworks (env : NetworkEnv σ) : Py σ (List WlanNetwork) := do
  let one ← fetchOne env 1
  let two ← fetchOne env 2
  let three ← fetchOne env 3
  pure ([one, two, three].filterMap id)

/-- `NetworkService.get_wlan_networks`. -/
def getWlanNetworks (env : NetworkEnv σ) : Py (Cached σ (List WlanNetwork)) (List WlanNetwork) :=
  if env.fritzMockMode then pure env.mockWlanNetworks
  else Cached.getOrFetch env.monotonic "wlan" 60 (liveWlanNetworks env)

/-- `_live_hosts`: no hosts after a failure. -/
def liveHosts (env : NetworkEnv σ) (activeOnly : Bool) : Py σ (List Host) :=
  (do let raw ← env.fritzHosts activeOnly; pure (raw.map host) : Py σ (List Host)).attempt fun _ => pure []

/-- The cache key of a listing. -/
def hostsKey (activeOnly : Bool) : String := if activeOnly then "hosts:True" else "hosts:False"

/-- `NetworkService.get_hosts`. -/
def getHosts (env : NetworkEnv σ) (activeOnly : Bool) : Py (Cached σ (List Host)) (List Host) :=
  if env.fritzMockMode then
    pure (if activeOnly then env.mockHosts.filter fun h => h.active else env.mockHosts)
  else Cached.getOrFetch env.monotonic (hostsKey activeOnly) 30 (liveHosts env activeOnly)

end NetworkService
end SmartHome.Network
