import SmartHome.Lib.Run
import SmartHome.Weather.Service

/-! # Who asks for the weather

The three callers of the weather service, each with a session of its own: `GET /weather/current`
(`app/api/v1/weather.py`, `app/dependencies.py`), the weather branch of `_evaluate_rule` and `refresh_weather_cache`
(`app/scheduler/tasks.py`). -/

namespace SmartHome.Weather
open Orm

/-- Who asks for the weather. -/
inductive Caller where
  | request
  | rule
  | refreshJob
  deriving DecidableEq, Repr

/-- A call, and the calls to the database that fail in it. -/
structure WeatherStep where
  caller : Caller
  call : Call
  flushFails : Option PyError := none
  commitFails : Option PyError := none

namespace WeatherStep

/-- The calls of the database that fail in the step. -/
def fails (e : WeatherStep) : DbCall → Option PyError
  | .flush => e.flushFails
  | .commit => e.commitFails
  | _ => none

/-- The service method that the caller calls. -/
def service (settings : Settings) (session : SessionId) (e : WeatherStep) : Py World (Option WeatherRead) :=
  match e.caller with
  | .request | .rule => WeatherService.getCurrent settings session e.call
  | .refreshJob => WeatherService.refresh settings session e.call

/-- A rule is evaluated in a session that is closed without a commit. -/
def perform (settings : Settings) (e : WeatherStep) : Py World (Option WeatherRead) :=
  match e.caller with
  | .request | .refreshJob => transaction mapper fun session => e.service settings session
  | .rule => withSession fun session => e.service settings session

/-- The database during the call. -/
def database (e : WeatherStep) (w : World) : World := { w with fails := e.fails }

/-- The table after a step. -/
def step (settings : Settings) (w : World) (e : WeatherStep) : Option World :=
  some (e.perform settings (e.database w)).2

/-- What the service answers to its caller. -/
def answer (settings : Settings) (w : World) (e : WeatherStep) : Except PyError (Option WeatherRead) :=
  (e.service settings w.sessions (e.database w).openSession).1

/-- The call makes an HTTP request. -/
def fetches (settings : Settings) (rows : List WeatherCache) (e : WeatherStep) : Bool :=
  WeatherService.fetchable settings &&
    (e.caller = .refreshJob || !WeatherService.valid settings rows e.call.checked)

/-- The caller commits, and the commit succeeds. -/
def commits (e : WeatherStep) : Bool := e.caller ≠ .rule && e.commitFails = none

/-- The table after the flush of the call. -/
def writes (settings : Settings) (rows : List WeatherCache) (e : WeatherStep) (columns : Columns) :
    Except PyError (List WeatherCache) :=
  mapper.writes (joined settings rows e.call.rival) e.fails (flushedObj settings rows e.call columns)

/-! ### What a call does -/

variable {settings : Settings} {w : World} {e : WeatherStep}

theorem perform_of_error {err : PyError} {t : World}
    (h : e.service settings w.sessions (e.database w).openSession = (.error err, t)) :
    (e.perform settings (e.database w)).2.rows = t.rows := by
  have htransaction : (transaction mapper (fun session => e.service settings session) (e.database w)).2.rows = t.rows := by
    rw [transaction_of_error (w := e.database w) h]
    rfl
  unfold perform
  cases e.caller with
  | request | refreshJob => exact htransaction
  | rule =>
    dsimp only
    rw [withSession_run (w := e.database w) h]
    rfl

theorem perform_of_ok {answer : Option WeatherRead} {t : World} {committed table : List WeatherCache}
    {held : Option (Ref × Obj WeatherCache)}
    (h : e.service settings w.sessions (e.database w).openSession = (.ok answer, t))
    (hsolo : Solo w.sessions committed table e.fails held t) (hclean : ∀ r o, held = some (r, o) → o.dirty = false) :
    (e.perform settings (e.database w)).2.rows = if e.commits then table else committed := by
  have htransaction : (transaction mapper (fun session => e.service settings session) (e.database w)).2.rows =
      if e.commitFails = none then table else committed := by
    obtain ⟨hok, herror⟩ := @commit_solo _ _ _ mapper _ _ _ _ _ _ _ _ hsolo hclean
    cases hfails : e.commitFails with
    | none =>
      obtain ⟨u, hcommit, hrows⟩ := hok hfails
      rw [transaction_of_ok (w := e.database w) h hcommit]
      exact hrows
    | some err =>
      obtain ⟨u, hcommit, hrows⟩ := herror err hfails
      rw [transaction_of_commit_error (w := e.database w) h hcommit]
      exact hrows
  unfold perform commits
  cases hcaller : e.caller with
  | request | refreshJob =>
    dsimp only
    rw [htransaction]
    simp
  | rule =>
    dsimp only
    rw [withSession_run (w := e.database w) h]
    simpa using hsolo.rows

theorem service_looked : Looked settings w.sessions w.rows e.fails (e.database w).openSession :=
  Or.inl (solo_openSession (e.database w))

theorem held_clean {r : Ref} {row : WeatherCache} (r' : Ref) (o : Obj WeatherCache)
    (h : some (r, ({ value := row, loaded := some row } : Obj WeatherCache)) = some (r', o)) : o.dirty = false := by
  rw [← (Prod.mk.inj (Option.some.inj h)).2]
  exact loaded_clean row

theorem clean_of_looked {session : SessionId} {rows : List WeatherCache} {fails : DbCall → Option PyError} {t : World}
    (h : Looked settings session rows fails t) : ∃ held, Solo session rows rows fails held t ∧
      ∀ r o, held = some (r, o) → o.dirty = false := by
  rcases h with h | ⟨r, row, -, h⟩
  · exact ⟨none, h, fun _ _ hnone => absurd hnone.symm (Option.some_ne_none _)⟩
  · exact ⟨_, h, held_clean⟩

theorem service_kept (h : Table w.rows) (hfetches : e.fetches settings w.rows = false) :
    ∃ v t, e.service settings w.sessions (e.database w).openSession = (.ok v, t) ∧
      Looked settings w.sessions w.rows e.fails t := by
  have hlooked : Looked settings w.sessions w.rows e.fails (e.database w).openSession := service_looked
  by_cases hfetchable : WeatherService.fetchable settings = true
  · rw [fetches, hfetchable, Bool.true_and, Bool.or_eq_false_iff, Bool.not_eq_false'] at hfetches
    obtain ⟨t, hrun, ht⟩ := WeatherService.getCurrent_valid hlooked rfl h hfetches.2
    refine ⟨(cached settings w.rows).map WeatherCache.content, t, ?_, ht⟩
    unfold service
    cases hcaller : e.caller with
    | request | rule => exact hrun
    | refreshJob => simp [hcaller] at hfetches
  · have hunconfigured : WeatherService.fetchable settings = false := Bool.eq_false_iff.mpr hfetchable
    unfold service
    cases e.caller with
    | refreshJob => exact ⟨_, _, WeatherService.fetchAndCache_unconfigured hunconfigured, hlooked⟩
    | request | rule =>
      dsimp only
      by_cases hvalid : WeatherService.valid settings w.rows e.call.checked = true
      · obtain ⟨t, hrun, ht⟩ := WeatherService.getCurrent_valid hlooked rfl h hvalid
        exact ⟨_, t, hrun, ht⟩
      · obtain ⟨t, hrun, ht⟩ := WeatherService.getCurrent_expired hlooked rfl h (Bool.eq_false_iff.mpr hvalid)
        exact ⟨_, t, hrun.trans (WeatherService.fetchAndCache_unconfigured hunconfigured), ht⟩

theorem service_fetching (h : Table w.rows) (hfetches : e.fetches settings w.rows = true) :
    WeatherService.fetchable settings = true ∧ ∃ t, e.service settings w.sessions (e.database w).openSession =
      WeatherService.fetchAndCache settings w.sessions e.call t ∧ Looked settings w.sessions w.rows e.fails t := by
  have hlooked : Looked settings w.sessions w.rows e.fails (e.database w).openSession := service_looked
  rw [fetches, Bool.and_eq_true, Bool.or_eq_true, Bool.not_eq_true', decide_eq_true_iff] at hfetches
  refine ⟨hfetches.1, ?_⟩
  unfold service
  cases hcaller : e.caller with
  | refreshJob => exact ⟨_, rfl, hlooked⟩
  | request | rule =>
    have hexpired : WeatherService.valid settings w.rows e.call.checked = false := by simpa [hcaller] using hfetches.2
    exact WeatherService.getCurrent_expired hlooked rfl h hexpired

/-- What a call answers, and the rows that are committed after it. -/
inductive Effect (settings : Settings) (rows : List WeatherCache) (e : WeatherStep) :
    Except PyError (Option WeatherRead) → List WeatherCache → Prop
  | kept (hfetches : e.fetches settings rows = false) (v : Option WeatherRead) : Effect settings rows e (.ok v) rows
  | stale (hfetches : e.fetches settings rows = true) (err : PyError) (hparsed : encodedAnswer settings e.call = .error err) :
    Effect settings rows e (.ok ((cached settings rows).map WeatherCache.content)) rows
  | unwritten (hfetches : e.fetches settings rows = true) (columns : Columns)
      (hparsed : encodedAnswer settings e.call = .ok columns) (err : PyError)
      (hwrites : e.writes settings rows columns = .error err) :
    Effect settings rows e (.error .invalidRequest) (joined settings rows e.call.rival)
  | written (hfetches : e.fetches settings rows = true) (columns : Columns)
      (hparsed : encodedAnswer settings e.call = .ok columns) (rows' : List WeatherCache)
      (hwrites : e.writes settings rows columns = .ok rows') :
    Effect settings rows e (.ok (some (flushedObj settings rows e.call columns).value.content))
      (if e.commits then rows' else joined settings rows e.call.rival)

theorem perform_effect (h : Table w.rows) :
    Effect settings w.rows e (e.answer settings w) (e.perform settings (e.database w)).2.rows := by
  cases hfetches : e.fetches settings w.rows with
  | false =>
    obtain ⟨v, t, hservice, hlooked⟩ := service_kept h hfetches
    obtain ⟨held, hsolo, hclean⟩ := clean_of_looked hlooked
    rw [perform_of_ok hservice hsolo hclean, ite_self, answer, hservice]
    exact .kept hfetches v
  | true =>
    obtain ⟨hfetchable, u, hservice, hlooked⟩ := service_fetching h hfetches
    cases hparsed : encodedAnswer settings e.call with
    | error err =>
      obtain ⟨t, hrun, ht⟩ := WeatherService.fetchAndCache_stale hlooked rfl h hfetchable hparsed
      rw [hrun] at hservice
      obtain ⟨held, hsolo, hclean⟩ := clean_of_looked ht
      rw [perform_of_ok hservice hsolo hclean, ite_self, answer, hservice]
      exact .stale hfetches err hparsed
    | ok columns =>
      cases hwrites : e.writes settings w.rows columns with
      | error err =>
        obtain ⟨t, hrun, hrows⟩ := WeatherService.fetchAndCache_unwritten hlooked rfl h hfetchable hparsed hwrites
        rw [hrun] at hservice
        rw [perform_of_error hservice, hrows, answer, hservice]
        exact .unwritten hfetches columns hparsed err hwrites
      | ok rows' =>
        obtain ⟨r, t, hrun, hsolo⟩ := WeatherService.fetchAndCache_written hlooked rfl rfl h hfetchable hparsed hwrites
        rw [hrun] at hservice
        rw [perform_of_ok hservice hsolo held_clean, answer, hservice]
        exact .written hfetches columns hparsed rows' hwrites

/-- The table stays one. -/
theorem Effect.table {rows rows' : List WeatherCache} {v : Except PyError (Option WeatherRead)}
    (h : Effect settings rows e v rows') (htable : Table rows) : Table rows' := by
  cases h with
  | kept | stale => exact htable
  | unwritten => exact htable.joined _
  | written hfetches columns hparsed rows'' hwrites =>
    have hjoined : Table (joined settings rows e.call.rival) := htable.joined _
    obtain ⟨hdistinct, -, hsource, hfits⟩ := writes_ok mapper_symmetric hjoined.distinct
      (WeatherService.flushedObj_live e.call columns) (fun _ hold => WeatherService.flushedObj_old htable hold) hwrites
    split
    · refine ⟨hdistinct, fun row hrow => ?_⟩
      rcases hsource row hrow with hrow | rfl
      · exact hjoined.fits row hrow
      · exact hfits.elim id (hjoined.fits _)
    · exact hjoined

theorem table_step {t : World} (h : Table w.rows) (hstep : step settings w e = some t) : Table t.rows := by
  cases hstep
  exact (perform_effect h).table h

end WeatherStep
end SmartHome.Weather
