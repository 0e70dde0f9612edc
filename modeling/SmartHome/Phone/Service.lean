import SmartHome.Cache

/-! # The call list

`PhoneService` (`app/phone/service.py`) over the shared `phone_cache`. What `FritzCall` reads from the box is
given, and so are the made-up calls of mock mode. -/

namespace SmartHome.Phone

/-- What is shown for a value that is not known. -/
def na : String := "–"

/-- The type of an answered call. -/
def callReceived : Int := 1
/-- The type of a missed call. -/
def callMissed : Int := 2
/-- The type of an outgoing call. -/
def callOut : Int := 3
/-- The type of a rejected call. -/
def callRejected : Int := 10

/-- `CALL_TYPE_LABEL.get(ctype, str(ctype))`. -/
def callTypeLabel (ctype : Int) : String :=
  if ctype = callReceived then "eingehend"
  else if ctype = callMissed then "verpasst"
  else if ctype = callOut then "ausgehend"
  else if ctype = callRejected then "abgewiesen"
  else if ctype = 9 then "aktiv (eingehend)"
  else if ctype = 11 then "aktiv (ausgehend)"
  else toString ctype

/-- `CALL_TYPE_ICON.get(ctype, "phone")`. -/
def callTypeIcon (ctype : Int) : String :=
  if ctype = callReceived then "phone-incoming"
  else if ctype = callMissed then "phone-missed"
  else if ctype = callOut then "phone-outgoing"
  else if ctype = callRejected then "phone-off"
  else if ctype = 9 ∨ ctype = 11 then "phone-call"
  else "phone"

/-- A time without a zone, as the box gives it. -/
structure LocalTime where
  year : Nat
  month : Nat
  day : Nat
  hour : Nat
  minute : Nat
  second : Nat
  deriving DecidableEq, Repr

/-- The number with leading zeros. -/
def padded (width n : Nat) : String := String.ofList ((toString n).toList.leftpad width '0')

/-- `strftime("%d.%m.%Y %H:%M")`. -/
def LocalTime.text (t : LocalTime) : String :=
  s!"{padded 2 t.day}.{padded 2 t.month}.{padded 4 t.year} {padded 2 t.hour}:{padded 2 t.minute}"

/-- `isoformat()`. -/
def LocalTime.isoformat (t : LocalTime) : String :=
  s!"{padded 4 t.year}-{padded 2 t.month}-{padded 2 t.day}T{padded 2 t.hour}:{padded 2 t.minute}:{padded 2 t.second}"

/-- `str(timedelta)`. -/
def durationText (seconds : Nat) : String :=
  let time := s!"{seconds % 86400 / 3600}:{padded 2 (seconds % 3600 / 60)}:{padded 2 (seconds % 60)}"
  let days := seconds / 86400
  if days = 0 then time else if days = 1 then s!"1 day, {time}" else s!"{days} days, {time}"

/-- A `Call` of `fritzconnection`; `duration` is in seconds. -/
structure Call where
  id : Option String
  type : Option Int
  callerNumber : Option String
  calledNumber : Option String
  name : Option String
  device : Option String
  date : Option LocalTime
  duration : Option Nat
  deriving DecidableEq, Repr

/-- The value of `date`, which `phone_calls` turns from a `datetime` into a text. -/
inductive CallDate where
  | time (t : LocalTime)
  | text (s : String)
  deriving DecidableEq, Repr

/-- A date becomes its text, and a text stays. -/
def CallDate.serialisable : CallDate → CallDate
  | time t => text t.isoformat
  | text s => text s

/-- A call as the service answers it. -/
structure CallDict where
  id : Option String
  type : Int
  typeLabel : String
  typeIcon : String
  number : String
  name : String
  device : String
  date : Option CallDate
  dateStr : String
  durationStr : String
  isMissed : Bool
  isOut : Bool
  deriving DecidableEq, Repr

/-- `value or default`, for a string that may be missing. -/
def textOr (value : Option String) (default : String) : String :=
  match value with
  | none => default
  | some s => if s = "" then default else s

/-- `_call_to_dict`. -/
def callToDict (call : Call) : CallDict :=
  let ctype := call.type.getD 0
  let isOut := ctype = callOut || ctype = 11
  let duration := call.duration.getD 0
  { id := call.id
    type := ctype
    typeLabel := callTypeLabel ctype
    typeIcon := callTypeIcon ctype
    number := textOr (if isOut then call.calledNumber else call.callerNumber) na
    name := call.name.getD ""
    device := call.device.getD ""
    date := call.date.map .time
    dateStr := (call.date.map LocalTime.text).getD na
    durationStr := if 0 < duration then durationText duration else na
    isMissed := ctype = callMissed
    isOut }

/-- The call as an endpoint rewrites it. -/
def CallDict.serialisable (call : CallDict) : CallDict := { call with date := call.date.map CallDate.serialisable }

/-- What the service uses of the settings, the clock and the box. -/
structure PhoneEnv (σ : Type) where
  fritzMockMode : Bool
  monotonic : σ → ℚ
  /-- `FritzCall(..).get_calls(calltype=0, days=days, num=num)`. -/
  fritzCalls : (days num : Int) → Py σ (List Call)
  mockCalls : σ → List CallDict

/-- `value or default`. -/
def numberOr (value : Option Int) (default : Int) : Int :=
  match value with
  | none => default
  | some n => if n = 0 then default else n

/-- The numbers of the calls of each kind. -/
structure CallStats where
  total : Nat
  received : Nat
  missed : Nat
  outgoing : Nat
  rejected : Nat
  deriving DecidableEq, Repr

namespace PhoneService
variable {σ : Type}

/-- `_live_fetch`: a failure is logged, and the list is empty. -/
def liveFetch (env : PhoneEnv σ) (effectiveDays num : Int) : Py σ (List CallDict) :=
  (do let raw ← env.fritzCalls effectiveDays num; pure (raw.map callToDict) : Py σ (List CallDict)).attempt
    fun _ => pure []

/-- The cache key of the calls. -/
def cacheKey (effectiveDays : Int) : String := s!"calls:all:{effectiveDays}"

/-- `PhoneService.get_calls`: all calls of the days are cached, and chosen by their type afterwards. -/
def getCalls (env : PhoneEnv σ) (calltype : Int) (days num : Option Int) (forceRefresh : Bool) :
    Py (Cached σ (List CallDict)) (List CallDict) := do
  let effectiveDays := numberOr days 30
  (if forceRefresh then
    Eff.modify fun s => { s with cache := s.cache.invalidate (cacheKey effectiveDays) }
  else pure ())
  let allCalls ← if env.fritzMockMode then Eff.gets fun s => env.mockCalls s.world
    else Cached.getOrFetch env.monotonic (cacheKey effectiveDays) 120 (liveFetch env effectiveDays (numberOr num 100))
  pure (if calltype ≠ 0 then allCalls.filter fun c => c.type == calltype else allCalls)

/-- The box is asked, when the cache does not know the calls or is not to be used. -/
theorem getCalls_of_fetch (env : PhoneEnv σ) (calltype : Int) (days num : Option Int) (force : Bool)
    (s : Cached σ (List CallDict)) {calls : List CallDict} {w : σ} (hmock : env.fritzMockMode = false)
    (hmiss : force = true ∨ s.cache.lookup (env.monotonic s.world) (cacheKey (numberOr days 30)) = none)
    (hfetch : liveFetch env (numberOr days 30) (numberOr num 100) s.world = (.ok calls, w)) :
    ∃ t, getCalls env calltype days num force s =
      (.ok (if calltype ≠ 0 then calls.filter fun c => c.type == calltype else calls), t) := by
  have hcalls : ∀ c : TtlCache (List CallDict),
      c.lookup (env.monotonic s.world) (cacheKey (numberOr days 30)) = none →
      ∃ t, Cached.getOrFetch env.monotonic (cacheKey (numberOr days 30)) 120
        (liveFetch env (numberOr days 30) (numberOr num 100)) { s with cache := c } = (.ok calls, t) := by
    intro c hc
    rw [Cached.getOrFetch_of_fetch hc, hfetch]
    exact ⟨_, rfl⟩
  unfold getCalls
  rw [hmock]
  cases force with
  | true =>
    have hinvalidated : (s.cache.invalidate (cacheKey (numberOr days 30))).lookup (env.monotonic s.world)
        (cacheKey (numberOr days 30)) = none := by
      rw [TtlCache.lookup, TtlCache.store_invalidate_self]
      rfl
    obtain ⟨t, ht⟩ := hcalls _ hinvalidated
    refine ⟨t, ?_⟩
    dsimp only
    rw [if_pos rfl, Eff.modify_bind_run, if_neg Bool.false_ne_true, Eff.bind_of_ok ht]
    rfl
  | false =>
    obtain ⟨t, ht⟩ := hcalls s.cache (hmiss.resolve_left Bool.false_ne_true)
    refine ⟨t, ?_⟩
    dsimp only
    rw [if_neg Bool.false_ne_true, Eff.pure_bind_run, if_neg Bool.false_ne_true, Eff.bind_of_ok ht]
    rfl

/-- `PhoneService.get_stats`, over the last 30 days and 100 calls. -/
def getStats (env : PhoneEnv σ) (forceRefresh : Bool) : Py (Cached σ (List CallDict)) CallStats := do
  let allCalls ← getCalls env 0 (some 30) (some 100) forceRefresh
  pure { total := allCalls.length
         received := allCalls.countP fun c => c.type == callReceived
         missed := allCalls.countP fun c => c.type == callMissed
         outgoing := allCalls.countP fun c => c.type == callOut
         rejected := allCalls.countP fun c => c.type == callRejected }

end PhoneService

/-- `phone_calls` (`app/api/v1/phone.py`), with the parameters that the request has or their defaults. -/
def phoneCalls {σ : Type} (env : PhoneEnv σ) (calltype days num : Int) (forceRefresh : Bool) :
    Py (Cached σ (List CallDict)) (List CallDict) := do
  let calls ← PhoneService.getCalls env calltype (some days) (some num) forceRefresh
  -- The dictionaries of live mode are those of the cache.
  (if env.fritzMockMode then pure ()
  else Eff.modify fun s =>
    { s with
      cache := s.cache.mutate (PhoneService.cacheKey (numberOr (some days) 30)) (List.map fun c =>
        if calltype = 0 ∨ c.type = calltype then c.serialisable else c) })
  pure (calls.map CallDict.serialisable)

end SmartHome.Phone
