import SmartHome.Devices.Service
import SmartHome.Network.Service

/-! # The partial pages

The templates under `app/templates/partials`, as the sequence of what they put out: literal parts, here only
named, and interpolated values. -/

namespace SmartHome.Api
open Phone Network

/-- A piece of a page: what the template holds, and what it inserts. -/
inductive Piece where
  /-- A literal part of the template. -/
  | html (part : String)
  | text (s : String)
  /-- `"%.1f"|format(x)`, with this number of digits. -/
  | fixed (digits : Nat) (x : PyFloat)
  | float (x : PyFloat)
  | int (z : Int)
  deriving DecidableEq, Repr

/-- A page, piece by piece. -/
abbrev Markup := List Piece

/-! ## Calls -/

/-- The part for the type of a call: the icon and the colour of the badge. -/
def typePart (ctype : Int) : String :=
  if ctype = callReceived then "incoming"
  else if ctype = callMissed then "missed"
  else if ctype = callOut then "outgoing"
  else "other"

/-- The row of a call in `partials/call_rows.html`. -/
def callRow (call : CallDict) : Markup :=
  [.html (if call.isMissed then "missed row" else "row"), .html (typePart call.type)] ++
  (if call.name ≠ "" then [.html "name and number", .text call.name, .text call.number]
    else [.html "number", .text call.number]) ++
  [.text call.typeLabel, .text (if call.device ≠ "" then call.device else na), .text call.dateStr,
    .text call.durationStr]

/-- The table of calls. -/
def callRows (calls : List CallDict) : Markup :=
  if calls.isEmpty then [.html "Keine Anrufe gefunden"] else calls.flatMap callRow

/-! ## Network -/

/-- A line that is shown unless its value is missing. -/
def optionalLine (part value : String) (rest : Markup) : Markup :=
  if value ≠ "" ∧ value ≠ na then .html part :: .text value :: rest else []

/-- `partials/network_status.html`. -/
def networkStatus (status : DslStatus) : Markup :=
  [.html (if status.isConnected then "Verbunden" else "Getrennt")] ++
  (if status.connectionType ≠ "" ∧ status.connectionType ≠ "WAN" then [.text status.connectionType] else []) ++
  [.text status.model, .text status.maxDownStr, .text status.maxUpStr, .text status.uptimeStr,
    .text status.externalIp] ++
  optionalLine "IPv6" status.externalIpv6 [] ++
  optionalLine "Rauschen" status.noiseMarginDown [.text status.noiseMarginUp] ++
  optionalLine "Dämpfung" status.attenuationDown [.text status.attenuationUp]

/-- `needle in text`. -/
def contains (text needle : String) : Bool := text.toList.tails.any needle.toList.isPrefixOf

/-- The icon for the interface of a host. -/
def interfacePart (host : Host) : Markup :=
  let itype := host.interfaceType.toLower
  if contains itype "ethernet" || contains itype "lan" then [.html "LAN"]
  else if contains itype "dect" then [.html "DECT"]
  else if contains itype "802.11" || contains itype "wlan" || contains itype "wifi" then
    [.html "wireless", .text host.interfaceType]
  else [.html "interface", .text (if host.interfaceType ≠ "" then host.interfaceType else na)]

/-- The row of a host in `partials/host_rows.html`. -/
def hostRow (host : Host) : Markup :=
  [.html (if host.active then "active" else "inactive"), .text (if host.name ≠ "" then host.name else na), .text host.ip,
    .text host.ip, .text (if host.mac ≠ "" then host.mac else na)] ++ interfacePart host

/-- `host_rows.html`; the number of WLAN clients that is passed to it is not shown. -/
def hostRows (hosts : List Host) : Markup :=
  if hosts.isEmpty then [.html "Keine Geräte gefunden"] else hosts.flatMap hostRow

/-! ## Devices -/

/-- What is shown only if there is a value. -/
def shown {α : Type} (value : Option α) (part : α → Markup) : Markup := value.elim [] part

/-- The energy, in kWh from more than 1000 Wh on. -/
def energyPart (wh : PyFloat) : Markup :=
  if (PyFloat.finite 1000).lt wh then
    match wh with
    | .finite q => [.fixed 2 (.finite (q / 1000)), .html "kWh"]
    | other => [.fixed 2 other, .html "kWh"]
  else [.fixed 0 wh, .html "Wh"]

/-- `partials/device_state_panel.html`. -/
def deviceStatePanel (device : Device) (state : Option DeviceState) : Markup :=
  match state with
  | none => [.html "Gerätestatus konnte nicht abgerufen werden."]
  | some state =>
    let parts :=
      shown state.isOn (fun on => [.html "Schalter", .text device.ain, .html (if on then "true" else "false")]) ++
      shown state.temperatureCelsius (fun x => [.html "Temperatur", .fixed 1 x]) ++
      shown state.targetTemperature (fun x => [.html "Soll-Temperatur", .text device.ain, .float x]) ++
      shown state.powerWatts (fun x => [.html "Leistung", .fixed 1 x]) ++
      shown state.energyWh (fun x => .html "Verbrauch" :: energyPart x) ++
      shown state.brightnessLevel (fun level => [.html "Helligkeit", .text device.ain, .int level])
    if parts.isEmpty then [.html "Dieses Gerät meldet keine messbaren Werte"] else .html "state" :: parts

/-- `device_card.html`, without a state. -/
def deviceCard (device : Device) : Markup :=
  [.html "card", .text device.ain, .text device.name] ++
  (match device.location with
    | none => []
    | some location => if location ≠ "" then [.html "location", .text location] else []) ++
  [.html (if device.lastSeen.isSome then "Online" else "Offline"),
    .html (if device.deviceType = "thermostat" then "thermostat"
      else if device.deviceType = "light" then "light" else "switch"),
    .text device.ain] ++
  (if "SWITCH" ∈ device.capabilities then [.html "toggle"] else [])

/-- `device_grid.html`, of cards without states. -/
def deviceGrid (devices : List Device) : Markup :=
  if devices.isEmpty then [.html "Keine Geräte gefunden."] else devices.flatMap deviceCard

end SmartHome.Api
