import SmartHome.Weather.Callers

/-! # Weather errors

When a call of the weather service degrades to stale data. The handler of `_fetch_and_cache` asks the session of the
call, which answers nothing after a flush that failed. -/

namespace SmartHome.Weather
open Orm Run

namespace WeatherStep
variable (settings : Settings) (w : World) (e : WeatherStep)

/-- The request fails, or its answer cannot be columns. -/
def FetchFails : Prop := e.fetches settings w.rows = true ∧ ∃ err, encodedAnswer settings e.call = .error err

/-- The row cannot be written: the flush fails, a value does not fit its column, or the new row has come too late. -/
def Refused (columns : Columns) : Prop :=
  (flushedObj settings w.rows e.call columns).dirty = true ∧
    (e.flushFails ≠ none ∨ mapper.fits (flushedObj settings w.rows e.call columns).value = false ∨
      cached settings w.rows = none ∧
        (joined settings w.rows e.call.rival).any (mapper.collides (newCache settings e.call.id e.call.now columns)) = true)

/-- The answer is there, but its row cannot be written. -/
def WriteFails : Prop :=
  e.fetches settings w.rows = true ∧ ∃ columns, encodedAnswer settings e.call = .ok columns ∧ e.Refused settings w columns

/-- The call returns; when a step failed it returns what was there, and commits nothing. -/
structure Degrades : Prop where
  returns : ∃ v, e.answer settings w = .ok v
  fetch : e.FetchFails settings w → e.answer settings w = .ok ((cached settings w.rows).map WeatherCache.content) ∧
    (e.perform settings (e.database w)).2.rows = w.rows
  write : e.WriteFails settings w → e.answer settings w = .ok ((cached settings w.rows).map WeatherCache.content) ∧
    (e.perform settings (e.database w)).2.rows = joined settings w.rows e.call.rival

variable {settings w e}

/-- The new values leave the unique columns alone. -/
theorem written_collides {rows : List WeatherCache} (hdistinct : mapper.Distinct rows) {row : WeatherCache} (hrow : row ∈ rows)
    (now : DateTime) (columns : Columns) :
    (rows.any fun other => !mapper.sameKey row other && mapper.collides (row.written now columns) other) = false := by
  rw [List.any_eq_false]
  intro other hother hcollides
  rw [Bool.and_eq_true, Bool.not_eq_true'] at hcollides
  have hdiffers : row ≠ other := by
    rintro rfl
    have hself : mapper.sameKey row row = true := beq_self_eq_true row.id
    rw [hself] at hcollides
    cases hcollides.1
  have hapart : mapper.collides row other = false := hdistinct.not_collides mapper_symmetric hrow hother hdiffers
  exact Bool.false_ne_true (hapart.symm.trans hcollides.2)

theorem write_error_iff {columns : Columns} (h : Table w.rows)
    (hdirty : (flushedObj settings w.rows e.call columns).dirty = true) :
    (∃ err, mapper.write (joined settings w.rows e.call.rival) (flushedObj settings w.rows e.call columns) = .error err) ↔
      (mapper.fits (flushedObj settings w.rows e.call columns).value = false ∨
        cached settings w.rows = none ∧
          (joined settings w.rows e.call.rival).any (mapper.collides (newCache settings e.call.id e.call.now columns)) =
            true) := by
  unfold flushedObj at hdirty ⊢
  cases hcached : cached settings w.rows with
  | none =>
    rw [Mapper.write]
    dsimp only
    cases mapper.fits (newCache settings e.call.id e.call.now columns) with
    | false => simp
    | true =>
      cases (joined settings w.rows e.call.rival).any (mapper.collides (newCache settings e.call.id e.call.now columns)) <;>
        simp
  | some row =>
    rw [hcached] at hdirty
    obtain ⟨hrow, -, -⟩ := cached_some h.distinct hcached
    have hmem : row ∈ joined settings w.rows e.call.rival := mem_joined hrow _
    have hne : row.written e.call.now columns ≠ row := by
      intro hsame
      dsimp only at hdirty
      rw [hsame, loaded_clean] at hdirty
      cases hdirty
    have hthere : (joined settings w.rows e.call.rival).any (mapper.sameKey row) = true :=
      List.any_eq_true.mpr ⟨row, hmem, beq_self_eq_true row.id⟩
    have hfree := written_collides (@Table.joined settings _ h e.call.rival).distinct hmem e.call.now columns
    rw [Mapper.write]
    dsimp only
    rw [if_neg Bool.false_ne_true, if_neg hne, hthere, hfree]
    cases mapper.fits (row.written e.call.now columns) <;> simp

theorem writes_error_iff {columns : Columns} (h : Table w.rows) :
    (∃ err, e.writes settings w.rows columns = .error err) ↔ e.Refused settings w columns := by
  rw [writes, Mapper.writes, Refused]
  cases hdirty : (flushedObj settings w.rows e.call columns).dirty with
  | false => simp
  | true =>
    have hflush : e.fails .flush = e.flushFails := rfl
    rw [hflush]
    cases e.flushFails with
    | some err => simp
    | none =>
      have hwrite := @write_error_iff _ _ e columns h hdirty
      simp only [Bool.not_true, Bool.false_eq_true, if_false, true_and, ne_eq, not_true_eq_false, false_or]
      rw [← hwrite]
      rcases mapper.write (joined settings w.rows e.call.rival) (flushedObj settings w.rows e.call columns) with err | rows
      · exact ⟨fun _ => ⟨err, rfl⟩, fun _ => ⟨_, rfl⟩⟩
      · constructor
        · rintro ⟨err, herr⟩
          cases herr
        · rintro ⟨err, herr⟩
          cases herr

theorem degrades_iff (h : Table w.rows) : e.Degrades settings w ↔ ¬ e.WriteFails settings w := by
  have heffect := @perform_effect settings _ e h
  generalize hanswer : e.answer settings w = answer at heffect
  generalize hrows : (e.perform settings (e.database w)).2.rows = rows at heffect
  cases heffect with
  | kept hfetches v =>
    have hidle : ¬ e.fetches settings w.rows = true := Bool.eq_false_iff.mp hfetches
    exact iff_of_true ⟨⟨v, hanswer⟩, fun hfails => absurd hfails.1 hidle, fun hfails => absurd hfails.1 hidle⟩
      fun hfails => hidle hfails.1
  | stale hfetches err hparsed =>
    have hunparsed : ¬ e.WriteFails settings w := by
      rintro ⟨-, columns, hok, -⟩
      rw [hparsed] at hok
      cases hok
    exact iff_of_true ⟨⟨_, hanswer⟩, fun _ => ⟨hanswer, hrows⟩, fun hfails => absurd hfails hunparsed⟩ hunparsed
  | unwritten hfetches columns hparsed err hwrites =>
    refine iff_of_false ?_ (not_not_intro ⟨hfetches, columns, hparsed, (writes_error_iff h).mp ⟨err, hwrites⟩⟩)
    rintro ⟨⟨v, hreturns⟩, -, -⟩
    rw [hanswer] at hreturns
    cases hreturns
  | written hfetches columns hparsed rows' hwrites =>
    have hparses : ¬ e.FetchFails settings w := by
      rintro ⟨-, err, herr⟩
      rw [hparsed] at herr
      cases herr
    have hwritten : ¬ e.WriteFails settings w := by
      rintro ⟨-, columns', hok, hrefused⟩
      rw [hparsed] at hok
      cases hok
      obtain ⟨err, herr⟩ := (writes_error_iff h).mpr hrefused
      rw [hwrites] at herr
      cases herr
    exact iff_of_true ⟨⟨_, hanswer⟩, fun hfails => absurd hfails hparses, fun hfails => absurd hfails hwritten⟩ hwritten

end WeatherStep

/-- What the database may hold when the run begins. -/
structure WeatherStart where
  rows : List WeatherCache := []
  table : Table rows

/-- The state with these rows. -/
def WeatherStart.world (start : WeatherStart) : World where
  rows := start.rows

/-- In every run all calls degrade to stale data exactly if no call comes to a row that cannot be written. -/
theorem runs_degrade_iff (settings : Settings) (start : WeatherStart) (es : List WeatherStep) :
    Meets (WeatherStep.step settings) (fun w e => e.Degrades settings w) start.world es ↔
      Meets (WeatherStep.step settings) (fun w e => ¬ e.WriteFails settings w) start.world es :=
  meets_iff (I := fun w => Table w.rows) (fun h _ hstep => WeatherStep.table_step h hstep)
    (fun h => WeatherStep.degrades_iff h) start.table

/-! ### An example -/

/-- The settings for OpenWeatherMap. -/
def owmSettings : Settings where
  weatherProvider := "openweathermap"
  openweathermapApiKey := "key"
  weatherLocationLat := .finite 48
  weatherLocationLon := .finite 11
  locationKey := "48.0,11.0"

/-- A response that names the clouds only. -/
def clouds : PyValue := .dict [("weather", .list [.dict [("main", .str "Clouds")]])]

/-- A driver that takes what is of the column's type, and nothing else; the only answer is `clouds`. -/
def strictDriver : Driver where
  float
    | .none => .value none
    | .float x => .value (some x)
    | _ => .refused
  int
    | .none => .value none
    | .int z => if -2 ^ 31 ≤ z ∧ z < 2 ^ 31 then .value (some z) else .refused
    | _ => .refused
  varchar n
    | .none => .value none
    | .str s => if s.length ≤ n ∧ '\x00' ∉ s.toList then .value (some s) else .refused
    | _ => .refused
  jsonb _ := .value (some "\x7b\"weather\": [\x7b\"main\": \"Clouds\"\x7d]\x7d")
  float_none := rfl
  float_float _ := rfl
  int_none := rfl
  int_int _ hlow hhigh := if_pos ⟨hlow, hhigh⟩
  varchar_none _ := rfl
  varchar_str _ _ hlength hnul := if_pos ⟨hlength, hnul⟩

/-- What is read from it. -/
def parsedClouds : ParsedWeather where
  temperatureCelsius := .none
  feelsLikeCelsius := .none
  humidityPercent := .none
  condition := .str "Clouds"
  description := .none
  windSpeedMs := .none
  iconCode := .none

/-- Two pages ask for the weather when there is no row yet; the other one inserts it first. -/
def slowerPage : WeatherStep where
  caller := .request
  call := {
    checked := 0
    raw := .ok clouds
    now := 1
    id := 2
    driver := strictDriver
    rival := some (1, 1, strictDriver.columns clouds parsedClouds) }

theorem slower_page_raises :
    slowerPage.answer owmSettings { rows := [] } = .error .invalidRequest ∧
      ¬ Meets (WeatherStep.step owmSettings) (fun w e => e.Degrades owmSettings w) { rows := [] } [slowerPage] := by
  have hraises : slowerPage.answer owmSettings { rows := [] } = .error .invalidRequest := by rfl
  refine ⟨hraises, fun h => ?_⟩
  obtain ⟨v, hreturns⟩ := h.1.returns
  rw [hraises] at hreturns
  cases hreturns

end SmartHome.Weather
