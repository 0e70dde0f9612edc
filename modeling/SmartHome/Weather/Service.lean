import SmartHome.Lib.OrmSolo
import SmartHome.Scheduler.Tasks
import SmartHome.Weather.Client

/-! # The weather service

`WeatherService` and its table (`app/weather/service.py`, `app/weather/models.py`, `app/weather/schemas.py`), and what
a call makes of the session that it works in. Of the database's answers the flush and the commit may fail. -/

namespace SmartHome.Weather
open Orm

/-- What an attribute of a column is for the driver: a value of the column's type, or one that it refuses at the flush. -/
inductive Attr (α : Type) where
  | value (a : Option α)
  | refused
  deriving DecidableEq

namespace Attr
variable {α : Type}

/-- The value of a column that is read back. -/
def get : Attr α → Option α
  | value a => a
  | refused => none

/-- The value goes into a column that may be NULL. -/
def fits : Attr α → Bool
  | value _ => true
  | refused => false

end Attr

/-- How the driver sends values to columns of the types FLOAT, INTEGER, VARCHAR and JSONB (the last as its text). What is of
    the column's type goes in as it is; of other values the driver takes some, in its way, and refuses others. -/
structure Driver where
  float : PyValue → Attr PyFloat
  int : PyValue → Attr Int
  varchar : ℕ → PyValue → Attr String
  jsonb : PyValue → Attr String
  float_none : float .none = .value none
  float_float : ∀ x, float (.float x) = .value (some x)
  int_none : int .none = .value none
  int_int : ∀ z : Int, -2 ^ 31 ≤ z → z < 2 ^ 31 → int (.int z) = .value (some z)
  varchar_none : ∀ n, varchar n .none = .value none
  varchar_str : ∀ n s, s.length ≤ n → '\x00' ∉ s.toList → varchar n (.str s) = .value (some s)

/-- The columns that a fetch fills. -/
structure Columns where
  data : Attr String
  temperatureCelsius : Attr PyFloat
  feelsLikeCelsius : Attr PyFloat
  humidityPercent : Attr Int
  condition : Attr String
  description : Attr String
  windSpeedMs : Attr PyFloat
  iconCode : Attr String
  deriving DecidableEq

/-- A row of `weather_cache`. -/
structure WeatherCache extends Columns where
  id : Uuid
  locationKey : String
  lat : PyFloat
  lon : PyFloat
  fetchedAt : DateTime
  expiresAt : DateTime
  deriving DecidableEq

/-- The row goes into its columns, of which `data` is not NULL. -/
def Columns.encodable (row : Columns) : Bool :=
  row.data.get.isSome && row.temperatureCelsius.fits && row.feelsLikeCelsius.fits && row.humidityPercent.fits &&
    row.condition.fits && row.description.fits && row.windSpeedMs.fits && row.iconCode.fits

/-- The raw answer and the parsed fields, for their columns. -/
def Driver.columns (driver : Driver) (raw : PyValue) (parsed : ParsedWeather) : Columns where
  data := driver.jsonb raw
  temperatureCelsius := driver.float parsed.temperatureCelsius
  feelsLikeCelsius := driver.float parsed.feelsLikeCelsius
  humidityPercent := driver.int parsed.humidityPercent
  condition := driver.varchar 64 parsed.condition
  description := driver.varchar 255 parsed.description
  windSpeedMs := driver.float parsed.windSpeedMs
  iconCode := driver.varchar 16 parsed.iconCode

/-- `location_key` is unique. -/
def mapper : Orm.Mapper Uuid WeatherCache PyError where
  key row := row.id
  clash a b := a.locationKey == b.locationKey
  fits row := row.locationKey.length ≤ 64 && row.encodable
  error
    | .integrity => .integrityError
    | .data => .external
    | .invalidRequest => .invalidRequest
    | .stale => .staleData

/-- The table with its sessions. -/
abbrev World := Orm.World WeatherCache PyError

/-- The schema with its times. -/
structure WeatherRead extends SmartHome.WeatherRead where
  fetchedAt : DateTime
  expiresAt : DateTime

/-- What a row holds. -/
def WeatherCache.content (row : WeatherCache) : WeatherRead where
  locationKey := row.locationKey
  temperatureCelsius := row.temperatureCelsius.get
  feelsLikeCelsius := row.feelsLikeCelsius.get
  humidityPercent := row.humidityPercent.get
  condition := row.condition.get
  description := row.description.get
  windSpeedMs := row.windSpeedMs.get
  iconCode := row.iconCode.get
  fetchedAt := row.fetchedAt
  expiresAt := row.expiresAt

/-- `WeatherRead.model_validate(cache)` -/
def modelValidate (cache : Ref) : Py World WeatherRead := do
  let row ← read mapper cache
  if row.encodable then pure row.content else Eff.raise (.builtin .valueError)

/-- `timedelta(minutes=_CACHE_TTL_MINUTES)` -/
def cacheTtl : DateTime := 30 * 60

/-- The assignments to a row that is there. -/
def WeatherCache.written (now : DateTime) (columns : Columns) (row : WeatherCache) : WeatherCache :=
  { row with toColumns := columns, fetchedAt := now, expiresAt := now + cacheTtl }

/-- The row that is added. -/
def newCache (settings : Settings) (id : Uuid) (now : DateTime) (columns : Columns) : WeatherCache :=
  { columns with
    id
    locationKey := settings.locationKey
    lat := settings.weatherLocationLat
    lon := settings.weatherLocationLon
    fetchedAt := now
    expiresAt := now + cacheTtl }

/-- What a call meets outside: the clock when it checks the cache, the answer to its HTTP request, the clock after it,
    a new `uuid4()`, the driver, and what another session inserts and commits between the look-up and the flush. -/
structure Call where
  checked : DateTime
  raw : Except PyError PyValue
  now : DateTime
  id : Uuid
  driver : Driver
  rival : Option (Uuid × DateTime × Columns) := none

/-- The rows when the other session has committed. -/
def joined (settings : Settings) (rows : List WeatherCache) : Option (Uuid × DateTime × Columns) → List WeatherCache
  | none => rows
  | some (id, now, columns) =>
    if mapper.Admits rows (newCache settings id now columns) then rows ++ [newCache settings id now columns] else rows

/-- The commit of another call in the meantime. -/
def commitMeanwhile (settings : Settings) (session : SessionId) (rival : Option (Uuid × DateTime × Columns)) :
    Py World Unit :=
  Eff.modify fun w =>
    { w.putSession session { w.session session with rows := joined settings (w.session session).rows rival } with
      rows := joined settings w.rows rival }

namespace WeatherService
variable (settings : Settings) (session : SessionId)

/-- `_get_cache`. -/
def getCache : Py World (Option Ref) := do
  let result ← select mapper session (List.filter fun row => row.locationKey == settings.locationKey)
  scalarOneOrNone mapper result

/-- `_is_valid`. -/
def isValid (cache : WeatherCache) (now : DateTime) : Bool := now < cache.expiresAt

/-- The cache that is there, whatever its age. -/
def staleCache : Py World (Option WeatherRead) := do
  match ← getCache settings session with
  | none => pure none
  | some cache =>
    let current ← modelValidate cache
    pure (some current)

/-- The object of the row, new or with the new values. -/
def fill (call : Call) (columns : Columns) : Py World Ref := do
  match ← getCache settings session with
  | none => add session (newCache settings call.id call.now columns)
  | some cache =>
    assign cache (WeatherCache.written call.now columns)
    pure cache

/-- The part of `_fetch_and_cache` that writes the row. -/
def store (call : Call) (columns : Columns) : Py World (Option WeatherRead) := do
  let cache ← fill settings session call columns
  commitMeanwhile settings session call.rival
  flush mapper session
  refresh mapper session cache
  let current ← modelValidate cache
  pure (some current)

/-- `_fetch_and_cache`; on an exception what is cached is answered. -/
def fetchAndCache (call : Call) : Py World (Option WeatherRead) :=
  if settings.weatherProvider ≠ "open-meteo" ∧ settings.openweathermapApiKey = "" then pure none
  else
    (do
      let raw ← Py.ofOutcome call.raw
      let parsed ← Py.ofOutcome (parseWeatherData settings raw)
      store settings session call (call.driver.columns raw parsed) : Py World (Option WeatherRead)).attempt fun _ =>
        staleCache settings session

/-- `WeatherService.get_current`. -/
def getCurrent (call : Call) : Py World (Option WeatherRead) := do
  match ← getCache settings session with
  | none => fetchAndCache settings session call
  | some cache =>
    let row ← read mapper cache
    if isValid row call.checked then do
      let current ← modelValidate cache
      pure (some current)
    else fetchAndCache settings session call

/-- `WeatherService.refresh`. -/
def refresh (call : Call) : Py World (Option WeatherRead) := fetchAndCache settings session call

end WeatherService

/-! ## The row of the location -/

/-- The row of the location. -/
def cached (settings : Settings) (rows : List WeatherCache) : Option WeatherCache :=
  rows.find? fun row => row.locationKey == settings.locationKey

/-- What the database holds: rows without duplicates, each of which it has accepted. -/
structure Table (rows : List WeatherCache) : Prop where
  distinct : mapper.Distinct rows
  fits : ∀ row ∈ rows, mapper.fits row = true

theorem mapper_symmetric : mapper.Symmetric := fun _ _ => Bool.beq_comm

theorem same_location_collides {settings : Settings} (a b : WeatherCache)
    (ha : (a.locationKey == settings.locationKey) = true) (hb : (b.locationKey == settings.locationKey) = true) :
    mapper.collides a b = true := by
  simp [Mapper.collides, mapper, beq_iff_eq.mp ha, beq_iff_eq.mp hb]

section
variable {settings : Settings} {rows : List WeatherCache}

theorem cached_none (h : cached settings rows = none) :
    rows.filter (fun row => row.locationKey == settings.locationKey) = [] :=
  List.filter_eq_nil_iff.mpr (List.find?_eq_none.mp h)

theorem cached_some {row : WeatherCache} (hdistinct : mapper.Distinct rows) (h : cached settings rows = some row) :
    row ∈ rows ∧ row.locationKey = settings.locationKey ∧
      rows.filter (fun row => row.locationKey == settings.locationKey) = [row] := by
  have hrow : row ∈ rows := List.mem_of_find?_eq_some h
  have hkey := List.find?_some (p := fun row : WeatherCache => row.locationKey == settings.locationKey) h
  refine ⟨hrow, beq_iff_eq.mp hkey, ?_⟩
  rcases hdistinct.filter_cases same_location_collides with ⟨-, hnone⟩ | ⟨other, -, -, hone⟩
  · rw [hnone row hrow] at hkey
    cases hkey
  · have hmem : row ∈ rows.filter fun row => row.locationKey == settings.locationKey :=
      List.mem_filter.mpr ⟨hrow, hkey⟩
    rw [hone, List.mem_singleton] at hmem
    rw [hone, hmem]

theorem cached_of_mem {row : WeatherCache} (hdistinct : mapper.Distinct rows) (hrow : row ∈ rows)
    (hkey : row.locationKey = settings.locationKey) : cached settings rows = some row := by
  cases hfound : cached settings rows with
  | none => exact absurd (beq_iff_eq.mpr hkey) (List.find?_eq_none.mp hfound row hrow)
  | some other =>
    obtain ⟨-, -, hone⟩ := cached_some hdistinct hfound
    have hmem : row ∈ rows.filter fun row => row.locationKey == settings.locationKey :=
      List.mem_filter.mpr ⟨hrow, beq_iff_eq.mpr hkey⟩
    rw [hone, List.mem_singleton] at hmem
    rw [hmem]

theorem Table.joined (h : Table rows) (rival : Option (Uuid × DateTime × Columns)) :
    Table (joined settings rows rival) := by
  cases rival with
  | none => exact h
  | some rival =>
    obtain ⟨id, now, columns⟩ := rival
    rw [Weather.joined]
    split
    · next hadmits =>
      have hwrite : mapper.write rows { value := newCache settings id now columns, loaded := none } =
          .ok (rows ++ [newCache settings id now columns]) := by
        simp [Mapper.write, hadmits.1, hadmits.2]
      refine ⟨h.distinct.write mapper_symmetric hwrite, fun row hrow => ?_⟩
      rw [List.mem_append, List.mem_singleton] at hrow
      rcases hrow with hrow | rfl
      · exact h.fits row hrow
      · exact hadmits.1
    · exact h

theorem mem_joined {row : WeatherCache} (h : row ∈ rows) (rival : Option (Uuid × DateTime × Columns)) :
    row ∈ joined settings rows rival := by
  cases rival with
  | none => exact h
  | some rival =>
    obtain ⟨id, now, columns⟩ := rival
    rw [joined]
    split
    · exact List.mem_append_left _ h
    · exact h

end

/-! ## What a call makes of its session -/

/-- The session has written nothing; it holds at most the object of the location's row. -/
def Looked (settings : Settings) (session : SessionId) (rows : List WeatherCache) (fails : DbCall → Option PyError)
    (w : World) : Prop :=
  Solo session rows rows fails none w ∨
    ∃ r row, cached settings rows = some row ∧ Solo session rows rows fails (some (r, { value := row, loaded := some row })) w

/-- The object that a call flushes. -/
def flushedObj (settings : Settings) (rows : List WeatherCache) (call : Call) (columns : Columns) : Obj WeatherCache :=
  match cached settings rows with
  | none => { value := newCache settings call.id call.now columns, loaded := none }
  | some row => { value := row.written call.now columns, loaded := some row }

/-- What a call gets for the columns from its HTTP request. -/
def encodedAnswer (settings : Settings) (call : Call) : Except PyError Columns :=
  call.raw.bind fun raw => (parseWeatherData settings raw).map (call.driver.columns raw)

namespace WeatherService
variable {settings : Settings} {session : SessionId} {rows : List WeatherCache} {fails : DbCall → Option PyError} {w : World}

theorem getCache_none (h : Looked settings session rows fails w) (hselect : fails .select = none)
    (hnone : cached settings rows = none) :
    getCache settings session w = (.ok none, w) ∧ Solo session rows rows fails none w := by
  rcases h with h | ⟨r, row, hsome, -⟩
  · exact ⟨lookup_solo_nil h hselect (cached_none hnone), h⟩
  · rw [hnone] at hsome
    cases hsome

theorem getCache_some {row : WeatherCache} (h : Looked settings session rows fails w) (hselect : fails .select = none)
    (hdistinct : mapper.Distinct rows) (hsome : cached settings rows = some row) :
    ∃ r t, getCache settings session w = (.ok (some r), t) ∧
      Solo session rows rows fails (some (r, { value := row, loaded := some row })) t := by
  obtain ⟨-, -, hquery⟩ := cached_some hdistinct hsome
  rcases h with h | ⟨r, row', hsome', h⟩
  · obtain ⟨t, hrun, ht⟩ := lookup_solo_first (m := mapper) h hselect hquery
    exact ⟨_, t, hrun, ht⟩
  · rw [hsome] at hsome'
    cases hsome'
    exact ⟨r, w, lookup_solo_again h hselect hquery rfl, h⟩

theorem modelValidate_run {r : Ref} {o : Obj WeatherCache} {committed table : List WeatherCache}
    (h : Solo session committed table fails (some (r, o)) w) (hencodable : o.value.encodable = true) :
    modelValidate r w = (.ok o.value.content, w) := by
  rw [modelValidate, Eff.bind_of_ok (read_solo h), if_pos hencodable]
  rfl

theorem encodable_of_fits {row : WeatherCache} (h : mapper.fits row = true) : row.encodable = true :=
  (Bool.and_eq_true_iff.mp h).2

theorem encodable_of_cached {row : WeatherCache} (htable : Table rows) (hcached : cached settings rows = some row) :
    row.encodable = true :=
  encodable_of_fits (htable.fits row (cached_some htable.distinct hcached).1)

theorem staleCache_run (h : Looked settings session rows fails w) (hselect : fails .select = none) (htable : Table rows) :
    ∃ t, staleCache settings session w = (.ok ((cached settings rows).map WeatherCache.content), t) ∧
      Looked settings session rows fails t := by
  cases hcached : cached settings rows with
  | none =>
    obtain ⟨hrun, hsolo⟩ := getCache_none h hselect hcached
    refine ⟨w, ?_, Or.inl hsolo⟩
    rw [staleCache, Eff.bind_of_ok hrun]
    rfl
  | some row =>
    obtain ⟨r, t, hrun, hsolo⟩ := getCache_some h hselect htable.distinct hcached
    have hvalidate := modelValidate_run hsolo (encodable_of_cached htable hcached)
    refine ⟨t, ?_, Or.inr ⟨r, row, hcached, hsolo⟩⟩
    rw [staleCache, Eff.bind_of_ok hrun]
    dsimp only
    rw [Eff.bind_of_ok hvalidate]
    rfl

/-- Whether a fetch is configured: the one provider needs a key. -/
def fetchable (settings : Settings) : Bool :=
  settings.weatherProvider = "open-meteo" || settings.openweathermapApiKey ≠ ""

theorem fetchAndCache_unconfigured {call : Call} (h : fetchable settings = false) :
    fetchAndCache settings session call w = (.ok none, w) := by
  have hunconfigured : settings.weatherProvider ≠ "open-meteo" ∧ settings.openweathermapApiKey = "" := by
    simpa [fetchable] using h
  rw [fetchAndCache, if_pos hunconfigured]
  rfl

theorem fetchAndCache_attempt {call : Call} (h : fetchable settings = true) :
    fetchAndCache settings session call =
      (do
        let columns ← Py.ofOutcome (encodedAnswer settings call)
        store settings session call columns : Py World (Option WeatherRead)).attempt fun _ => staleCache settings session := by
  have hconfigured : ¬ (settings.weatherProvider ≠ "open-meteo" ∧ settings.openweathermapApiKey = "") := by
    simpa [fetchable, or_iff_not_imp_left] using h
  rw [fetchAndCache, if_neg hconfigured, encodedAnswer]
  cases call.raw with
  | error e => rfl
  | ok raw =>
    show Eff.attempt (Py.ofOutcome (parseWeatherData settings raw) >>= fun parsed =>
        store settings session call (call.driver.columns raw parsed)) _ =
      Eff.attempt (Py.ofOutcome ((parseWeatherData settings raw).map (call.driver.columns raw)) >>= _) _
    cases parseWeatherData settings raw with
    | error e => rfl
    | ok parsed => rfl

/-- The fetch or the parsing failed: the call hands out what is there. -/
theorem fetchAndCache_stale {call : Call} {e : PyError} (h : Looked settings session rows fails w)
    (hselect : fails .select = none) (htable : Table rows) (hfetch : fetchable settings = true)
    (hparsed : encodedAnswer settings call = .error e) :
    ∃ t, fetchAndCache settings session call w = (.ok ((cached settings rows).map WeatherCache.content), t) ∧
      Looked settings session rows fails t := by
  obtain ⟨t, hrun, ht⟩ := staleCache_run h hselect htable
  refine ⟨t, ?_, ht⟩
  rw [fetchAndCache_attempt hfetch, hparsed]
  exact (Eff.attempt_of_error (Eff.bind_of_error rfl)).trans hrun

theorem commitMeanwhile_run {held : Option (Ref × Obj WeatherCache)} (rival : Option (Uuid × DateTime × Columns))
    (h : Solo session rows rows fails held w) :
    ∃ t, commitMeanwhile settings session rival w = (.ok (), t) ∧
      Solo session (joined settings rows rival) (joined settings rows rival) fails held t := by
  refine ⟨_, rfl, ?_, ?_, h.fails, ?_, ?_, h.object⟩
  · rw [← h.rows]
  · rw [← h.table]
    exact congrArg Session.rows (World.putSession_self ..)
  · exact (congrArg Session.failed (World.putSession_self ..)).trans h.working
  · exact (congrArg Session.objects (World.putSession_self ..)).trans h.objects

theorem fill_run {call : Call} {columns : Columns} (h : Looked settings session rows fails w)
    (hselect : fails .select = none) (htable : Table rows) :
    ∃ r t, fill settings session call columns w = (.ok r, t) ∧
      Solo session rows rows fails (some (r, flushedObj settings rows call columns)) t := by
  unfold flushedObj
  cases hcached : cached settings rows with
  | none =>
    obtain ⟨hget, hsolo⟩ := getCache_none h hselect hcached
    obtain ⟨t, hadd, ht⟩ := add_solo (v := newCache settings call.id call.now columns) hsolo
    refine ⟨w.refs, t, ?_, ht⟩
    rw [fill, Eff.bind_of_ok hget]
    exact hadd
  | some row =>
    obtain ⟨r, u, hget, hsolo⟩ := getCache_some h hselect htable.distinct hcached
    obtain ⟨t, hassign, ht⟩ := assign_solo (WeatherCache.written call.now columns) hsolo
    refine ⟨r, t, ?_, ht⟩
    rw [fill, Eff.bind_of_ok hget]
    dsimp only
    rw [Eff.bind_of_ok hassign]
    rfl

theorem flushedObj_live (call : Call) (columns : Columns) : (flushedObj settings rows call columns).doomed = false := by
  unfold flushedObj
  split <;> rfl

theorem flushedObj_old {call : Call} {columns : Columns} (htable : Table rows) {old : WeatherCache}
    (h : (flushedObj settings rows call columns).loaded = some old) : old ∈ joined settings rows call.rival := by
  unfold flushedObj at h
  split at h
  · cases h
  · next row hcached =>
    cases h
    exact mem_joined (cached_some htable.distinct hcached).1 _

theorem flushedObj_location {call : Call} {columns : Columns} (htable : Table rows) :
    (flushedObj settings rows call columns).value.locationKey = settings.locationKey := by
  unfold flushedObj
  split
  · rfl
  · next row hcached => exact (cached_some htable.distinct hcached).2.1

theorem store_run {call : Call} {columns : Columns} {rows' : List WeatherCache}
    (h : Looked settings session rows fails w) (hselect : fails .select = none) (hrefresh : fails .refresh = none)
    (htable : Table rows)
    (hwrites : mapper.writes (joined settings rows call.rival) fails (flushedObj settings rows call columns) = .ok rows') :
    ∃ r t, store settings session call columns w = (.ok (some (flushedObj settings rows call columns).value.content), t) ∧
      Solo session (joined settings rows call.rival) rows' fails
        (some (r, { value := (flushedObj settings rows call columns).value
                    loaded := some (flushedObj settings rows call columns).value })) t := by
  obtain ⟨r, u, hfill, hfilled⟩ := @fill_run _ _ _ _ _ call columns h hselect htable
  obtain ⟨v, hmeanwhile, hjoined⟩ := @commitMeanwhile_run settings _ _ _ _ _ call.rival hfilled
  obtain ⟨t, hflush, ht⟩ := flush_solo_ok hjoined (flushedObj_live call columns) hwrites
  have htable' : Table (joined settings rows call.rival) := htable.joined call.rival
  obtain ⟨hdistinct, hmem, -, hfits⟩ := writes_ok mapper_symmetric htable'.distinct (flushedObj_live call columns)
    (fun _ hold => flushedObj_old htable hold) hwrites
  have hfits : mapper.fits (flushedObj settings rows call columns).value = true := hfits.elim id (htable'.fits _)
  have hreread := refresh_solo (m := mapper) ht hrefresh hdistinct hmem
  have hvalidate := modelValidate_run ht (encodable_of_fits hfits)
  refine ⟨r, t, ?_, ht⟩
  rw [store, Eff.bind_of_ok hfill, Eff.bind_of_ok hmeanwhile, Eff.bind_of_ok hflush, Eff.bind_of_ok hreread,
    Eff.bind_of_ok hvalidate]
  rfl

/-- When the flush fails, the session of the handler does not answer any more. -/
theorem store_error {call : Call} {columns : Columns} {e : PyError}
    (h : Looked settings session rows fails w) (hselect : fails .select = none) (htable : Table rows)
    (hwrites : mapper.writes (joined settings rows call.rival) fails (flushedObj settings rows call columns) = .error e) :
    ∃ t, store settings session call columns w = (.error e, t) ∧ t.rows = joined settings rows call.rival ∧
      staleCache settings session t = (.error .invalidRequest, t) := by
  obtain ⟨r, u, hfill, hfilled⟩ := @fill_run _ _ _ _ _ call columns h hselect htable
  obtain ⟨v, hmeanwhile, hjoined⟩ := @commitMeanwhile_run settings _ _ _ _ _ call.rival hfilled
  obtain ⟨t, hflush, hrows, hbroken⟩ := flush_solo_error hjoined hwrites
  refine ⟨t, ?_, hrows, ?_⟩
  · rw [store, Eff.bind_of_ok hfill, Eff.bind_of_ok hmeanwhile, Eff.bind_of_error hflush]
  · exact Eff.bind_of_error (hbroken _)

/-- The fetch succeeded, and the row is flushed. -/
theorem fetchAndCache_written {call : Call} {columns : Columns} {rows' : List WeatherCache}
    (h : Looked settings session rows fails w) (hselect : fails .select = none) (hrefresh : fails .refresh = none)
    (htable : Table rows) (hfetch : fetchable settings = true) (hparsed : encodedAnswer settings call = .ok columns)
    (hwrites : mapper.writes (joined settings rows call.rival) fails (flushedObj settings rows call columns) = .ok rows') :
    ∃ r t, fetchAndCache settings session call w =
        (.ok (some (flushedObj settings rows call columns).value.content), t) ∧
      Solo session (joined settings rows call.rival) rows' fails
        (some (r, { value := (flushedObj settings rows call columns).value
                    loaded := some (flushedObj settings rows call columns).value })) t := by
  obtain ⟨r, t, hstore, ht⟩ := store_run h hselect hrefresh htable hwrites
  refine ⟨r, t, ?_, ht⟩
  rw [fetchAndCache_attempt hfetch, hparsed]
  exact Eff.attempt_of_ok hstore

/-- The fetch succeeded, and the flush does not: the call raises. -/
theorem fetchAndCache_unwritten {call : Call} {columns : Columns} {e : PyError}
    (h : Looked settings session rows fails w) (hselect : fails .select = none) (htable : Table rows)
    (hfetch : fetchable settings = true) (hparsed : encodedAnswer settings call = .ok columns)
    (hwrites : mapper.writes (joined settings rows call.rival) fails (flushedObj settings rows call columns) = .error e) :
    ∃ t, fetchAndCache settings session call w = (.error .invalidRequest, t) ∧ t.rows = joined settings rows call.rival := by
  obtain ⟨t, hstore, hrows, hstale⟩ := store_error h hselect htable hwrites
  refine ⟨t, ?_, hrows⟩
  rw [fetchAndCache_attempt hfetch, hparsed]
  exact (Eff.attempt_of_error hstore).trans hstale

/-! ### `get_current` -/

/-- The row of the location is there and has not expired. -/
def valid (settings : Settings) (rows : List WeatherCache) (now : DateTime) : Bool :=
  (cached settings rows).any fun row => isValid row now

theorem getCurrent_valid {call : Call} (h : Looked settings session rows fails w) (hselect : fails .select = none)
    (htable : Table rows) (hvalid : valid settings rows call.checked = true) :
    ∃ t, getCurrent settings session call w = (.ok ((cached settings rows).map WeatherCache.content), t) ∧
      Looked settings session rows fails t := by
  obtain ⟨row, hcached, hfresh⟩ := (Option.any_eq_true _ _).mp hvalid
  obtain ⟨r, t, hget, hsolo⟩ := getCache_some h hselect htable.distinct hcached
  have hvalidate := modelValidate_run hsolo (encodable_of_cached htable hcached)
  refine ⟨t, ?_, Or.inr ⟨r, row, hcached, hsolo⟩⟩
  rw [getCurrent, Eff.bind_of_ok hget]
  dsimp only
  rw [Eff.bind_of_ok (read_solo hsolo), if_pos hfresh, Eff.bind_of_ok hvalidate, hcached]
  rfl

theorem getCurrent_expired {call : Call} (h : Looked settings session rows fails w) (hselect : fails .select = none)
    (htable : Table rows) (hexpired : valid settings rows call.checked = false) :
    ∃ t, getCurrent settings session call w = fetchAndCache settings session call t ∧
      Looked settings session rows fails t := by
  cases hcached : cached settings rows with
  | none =>
    obtain ⟨hget, hsolo⟩ := getCache_none h hselect hcached
    refine ⟨w, ?_, Or.inl hsolo⟩
    rw [getCurrent, Eff.bind_of_ok hget]
  | some row =>
    obtain ⟨r, t, hget, hsolo⟩ := getCache_some h hselect htable.distinct hcached
    have hstale : isValid row call.checked = false := by
      rw [valid, hcached] at hexpired
      exact hexpired
    refine ⟨t, ?_, Or.inr ⟨r, row, hcached, hsolo⟩⟩
    rw [getCurrent, Eff.bind_of_ok hget]
    dsimp only
    rw [Eff.bind_of_ok (read_solo hsolo), if_neg (Bool.eq_false_iff.mp hstale)]

end WeatherService

end SmartHome.Weather
