import SmartHome.Weather.Errors

/-! # How long a fetch is good for

Requests, rule evaluations and refresh jobs one after the other, and the HTTP requests they make. -/

namespace SmartHome.Weather
open Orm Run

/-- A fetch that was stored, by a caller that commits or by a rule. -/
structure Stored where
  time : DateTime
  committed : Bool
  deriving DecidableEq, Repr

/-- `stored` is what was fetched and stored, the latest first; the application keeps no such record. -/
structure WeatherRun where
  db : World
  clock : DateTime
  stored : List Stored := []

namespace WeatherStep

/-- The row was flushed, and the caller did not fail to commit it. -/
def stores (settings : Settings) (rows : List WeatherCache) (e : WeatherStep) : Bool :=
  e.fetches settings rows && ((encodedAnswer settings e.call).bind (e.writes settings rows)).isOk &&
    (e.caller = .rule || e.commitFails = none)

theorem not_stores {settings : Settings} {rows : List WeatherCache} {e : WeatherStep} {err : PyError}
    (h : (encodedAnswer settings e.call).bind (e.writes settings rows) = .error err) : e.stores settings rows = false := by
  rw [stores, h]
  simp [Except.isOk, Except.toBool]

theorem stores_written {settings : Settings} {rows rows' : List WeatherCache} {e : WeatherStep}
    (hfetches : e.fetches settings rows = true)
    (h : (encodedAnswer settings e.call).bind (e.writes settings rows) = .ok rows') :
    e.stores settings rows = (e.caller = .rule || e.commitFails = none : Bool) := by
  rw [stores, h, hfetches]
  rfl

end WeatherStep

namespace WeatherRun

/-- No other session interferes, and time does not go back. -/
def Sequential (s : WeatherRun) (e : WeatherStep) : Prop :=
  e.call.rival.isNone = true ∧ s.clock ≤ e.call.checked ∧ e.call.checked ≤ e.call.now

instance (s : WeatherRun) (e : WeatherStep) : Decidable (s.Sequential e) :=
  inferInstanceAs (Decidable (e.call.rival.isNone = true ∧ s.clock ≤ e.call.checked ∧ e.call.checked ≤ e.call.now))

/-- What a call does, when it begins after the end of the one before it. -/
def step (settings : Settings) (s : WeatherRun) (e : WeatherStep) : Option WeatherRun :=
  if s.Sequential e then
    some
      { db := (e.perform settings (e.database s.db)).2
        clock := e.call.now
        stored :=
          if e.stores settings s.db.rows then { time := e.call.now, committed := e.commits } :: s.stored else s.stored }
  else none

/-- `get_current` makes no HTTP request within 30 minutes after a fetch that was stored. -/
def FetchesOnce (settings : Settings) (s : WeatherRun) (e : WeatherStep) : Prop :=
  s.Sequential e → e.caller ≠ .refreshJob → ∀ stored ∈ s.stored, stored.time ≤ e.call.checked →
    e.call.checked < stored.time + cacheTtl → e.fetches settings s.db.rows = false

/-- `get_current` is not called within 30 minutes after the latest store, if that was made by a rule. -/
def NotAfterRule (s : WeatherRun) (e : WeatherStep) : Prop :=
  s.Sequential e → e.caller ≠ .refreshJob → ∀ latest, s.stored.head? = some latest → latest.committed = false →
    latest.time + cacheTtl ≤ e.call.checked

/-! ## The invariant -/

/-- What the committed row is after the latest store. -/
structure RowAfter (settings : Settings) (rows : List WeatherCache) (latest : Stored) : Prop where
  fetchable : WeatherService.fetchable settings = true
  committed : latest.committed = true →
    ∃ row, cached settings rows = some row ∧ row.expiresAt = latest.time + cacheTtl
  lost : latest.committed = false → ∀ row, cached settings rows = some row → row.expiresAt ≤ latest.time

/-- What holds in every state: the row is that of the latest fetch, and no fetch is in the future. -/
structure FreshInv (settings : Settings) (s : WeatherRun) : Prop where
  table : Table s.db.rows
  past : ∀ stored ∈ s.stored, stored.time ≤ s.clock
  latest : ∀ latest, s.stored.head? = some latest → ∀ stored ∈ s.stored, stored.time ≤ latest.time
  row : ∀ latest, s.stored.head? = some latest → RowAfter settings s.db.rows latest

variable {settings : Settings} {s t : WeatherRun} {e : WeatherStep}

theorem fetchesOnce_iff (h : s.FreshInv settings) : s.FetchesOnce settings e ↔ s.NotAfterRule e := by
  constructor
  · intro honce hsequential hcaller latest hlatest hlost
    by_contra hsoon
    have hmem : latest ∈ s.stored := List.mem_of_mem_head? hlatest
    have hsince : latest.time ≤ e.call.checked := (h.past latest hmem).trans hsequential.2.1
    have hidle := honce hsequential hcaller latest hmem hsince (not_le.mp hsoon)
    obtain ⟨hfetchable, -, hrow⟩ := h.row latest hlatest
    -- The committed row was expired when the rule fetched, and still is.
    have hexpired : WeatherService.valid settings s.db.rows e.call.checked = false := by
      rw [WeatherService.valid]
      cases hcached : cached settings s.db.rows with
      | none => rfl
      | some row => exact decide_eq_false (not_lt.mpr ((hrow hlost row hcached).trans hsince))
    rw [WeatherStep.fetches, hfetchable, hexpired] at hidle
    simp at hidle
  · intro hkept hsequential hcaller stored hstored hsince hsoon
    obtain ⟨latest, hlatest⟩ : ∃ latest, s.stored.head? = some latest :=
      Option.isSome_iff_exists.mp (List.isSome_head?.mpr (List.ne_nil_of_mem hstored))
    have hlater : stored.time ≤ latest.time := h.latest latest hlatest stored hstored
    cases hcommitted : latest.committed with
    | false =>
      have hover := hkept hsequential hcaller latest hlatest hcommitted
      exact absurd hlater (not_le.mpr (lt_of_add_lt_add_right (hover.trans_lt hsoon)))
    | true =>
      obtain ⟨row, hcached, hexpires⟩ := (h.row latest hlatest).committed hcommitted
      have hvalid : WeatherService.valid settings s.db.rows e.call.checked = true := by
        rw [WeatherService.valid, hcached]
        refine decide_eq_true ?_
        rw [hexpires]
        exact hsoon.trans_le (add_le_add_left hlater cacheTtl)
      rw [WeatherStep.fetches, hvalid]
      simp [hcaller]

/-- What a step can do: the row is stored and committed, it is stored by a rule and lost, or nothing is stored. -/
theorem step_cases (h : Table s.db.rows) (hstep : s.step settings e = some t) :
    s.Sequential e ∧ t.clock = e.call.now ∧
      ((t.db.rows = s.db.rows ∧ t.stored = s.stored) ∨
        (e.fetches settings s.db.rows = true ∧ e.caller = .rule ∧ t.db.rows = s.db.rows ∧
          t.stored = { time := e.call.now, committed := false } :: s.stored) ∨
        (e.fetches settings s.db.rows = true ∧ t.stored = { time := e.call.now, committed := true } :: s.stored ∧
          ∃ columns, e.writes settings s.db.rows columns = .ok t.db.rows)) := by
  rw [step] at hstep
  split at hstep
  · next hsequential =>
    cases hstep
    refine ⟨hsequential, rfl, ?_⟩
    have hrival : e.call.rival = none := Option.isNone_iff_eq_none.mp hsequential.1
    have heffect := @WeatherStep.perform_effect settings _ e h
    dsimp only
    generalize e.answer settings s.db = answer at heffect
    generalize (e.perform settings (e.database s.db)).2.rows = rows at heffect ⊢
    cases heffect with
    | kept hfetches v =>
      have hidle : e.stores settings s.db.rows = false := by
        rw [WeatherStep.stores, hfetches]
        rfl
      exact Or.inl ⟨rfl, by rw [hidle]; rfl⟩
    | stale hfetches err hparsed =>
      have hidle : e.stores settings s.db.rows = false := WeatherStep.not_stores (by rw [hparsed]; rfl)
      exact Or.inl ⟨rfl, by rw [hidle]; rfl⟩
    | unwritten hfetches columns hparsed err hwrites =>
      have hidle : e.stores settings s.db.rows = false := WeatherStep.not_stores (by rw [hparsed]; exact hwrites)
      rw [hrival]
      exact Or.inl ⟨rfl, by rw [hidle]; rfl⟩
    | written hfetches columns hparsed rows' hwrites =>
      rw [WeatherStep.stores_written hfetches (by rw [hparsed]; exact hwrites), hrival]
      unfold WeatherStep.commits
      cases hcaller : e.caller with
      | rule => exact Or.inr (Or.inl ⟨hfetches, rfl, rfl, by simp⟩)
      | request | refreshJob =>
        cases hcommit : e.commitFails with
        | some err => exact Or.inl ⟨rfl, by simp⟩
        | none => exact Or.inr (Or.inr ⟨hfetches, by simp, columns, hwrites⟩)
  · cases hstep

/-- The row that a call has written expires after 30 minutes. -/
theorem cached_written {columns : Columns} {rows rows' : List WeatherCache} (h : Table rows)
    (hwrites : e.writes settings rows columns = .ok rows') :
    ∃ row, cached settings rows' = some row ∧ row.expiresAt = e.call.now + cacheTtl := by
  have hjoined : Table (joined settings rows e.call.rival) := h.joined _
  obtain ⟨hdistinct, hmem, -, -⟩ := writes_ok mapper_symmetric hjoined.distinct
    (WeatherService.flushedObj_live e.call columns) (fun _ hold => WeatherService.flushedObj_old h hold) hwrites
  refine ⟨_, cached_of_mem hdistinct hmem (WeatherService.flushedObj_location h), ?_⟩
  unfold flushedObj
  split <;> rfl

theorem freshInv_step (h : s.FreshInv settings) (hstep : s.step settings e = some t) : t.FreshInv settings := by
  obtain ⟨⟨hrival, hstart, hend⟩, hclock, hcases⟩ := step_cases h.table hstep
  have htable : Table t.db.rows := by
    rw [step, if_pos ⟨hrival, hstart, hend⟩] at hstep
    cases hstep
    exact (WeatherStep.perform_effect h.table).table h.table
  have hpast : ∀ stored ∈ s.stored, stored.time ≤ e.call.now := fun stored hstored =>
    ((h.past stored hstored).trans hstart).trans hend
  -- A new store is the latest.
  have hnew : ∀ latest : Stored, latest.time = e.call.now → t.stored = latest :: s.stored →
      RowAfter settings t.db.rows latest → t.FreshInv settings := by
    intro latest htime hstored hrow
    refine ⟨htable, ?_, ?_, ?_⟩
    · rw [hstored, hclock, List.forall_mem_cons]
      exact ⟨htime.le, hpast⟩
    · rintro other hother
      rw [hstored, List.head?_cons] at hother
      cases hother
      rw [hstored, List.forall_mem_cons]
      exact ⟨le_refl _, fun stored hmem => (hpast stored hmem).trans htime.ge⟩
    · rintro other hother
      rw [hstored, List.head?_cons] at hother
      cases hother
      exact hrow
  rcases hcases with ⟨hrows, hstored⟩ | ⟨hfetches, hcaller, hrows, hstored⟩ | ⟨hfetches, hstored, columns, hwrites⟩
  · refine ⟨htable, ?_, ?_, ?_⟩
    · rw [hstored, hclock]
      exact hpast
    · rw [hstored]
      exact h.latest
    · rw [hstored, hrows]
      exact h.row
  · rw [WeatherStep.fetches, Bool.and_eq_true, Bool.or_eq_true, Bool.not_eq_true', decide_eq_true_iff] at hfetches
    have hexpired : WeatherService.valid settings s.db.rows e.call.checked = false := by simpa [hcaller] using hfetches.2
    refine hnew _ rfl hstored ⟨hfetches.1, ?_, ?_⟩
    · intro hrule
      cases hrule
    · intro _ row hcached
      rw [hrows] at hcached
      rw [WeatherService.valid, hcached] at hexpired
      exact (not_lt.mp (of_decide_eq_false hexpired)).trans hend
  · rw [WeatherStep.fetches, Bool.and_eq_true] at hfetches
    refine hnew _ rfl hstored ⟨hfetches.1, fun _ => cached_written h.table hwrites, ?_⟩
    intro hrequest
    cases hrequest

/-- In every run a stored fetch is good for 30 minutes exactly if `get_current` is never called within 30 minutes
    after a rule has stored one and no other caller since. -/
theorem runs_fetch_once_iff (settings : Settings) (start : WeatherStart) (clock : DateTime) (es : List WeatherStep) :
    Meets (step settings) (FetchesOnce settings) { db := start.world, clock } es ↔
      Meets (step settings) NotAfterRule { db := start.world, clock } es :=
  meets_iff (I := FreshInv settings) (fun h _ hstep => freshInv_step h hstep) (fun h => fetchesOnce_iff h)
    ⟨start.table, fun _ hstored => absurd hstored List.not_mem_nil, nofun, nofun⟩

/-! ### An example -/

/-- A call at this time, with a response that names the clouds. -/
def cloudsAt (caller : Caller) (time : DateTime) : WeatherStep where
  caller
  call := { checked := time, raw := .ok clouds, now := time, id := 1, driver := strictDriver }

/-- A rule fetches the weather, and a page asks for it one minute later. -/
theorem page_fetches_again :
    ¬ Meets (step owmSettings) (FetchesOnce owmSettings) { db := { rows := [] }, clock := 0 }
      [cloudsAt .rule 0, cloudsAt .request 60] := by
  rintro ⟨-, hrule⟩
  obtain ⟨hpage, -⟩ := hrule _ rfl
  have hfetches := hpage (by decide) (by decide) { time := 0, committed := false } (by decide) (by decide) (by decide)
  revert hfetches
  decide

end WeatherRun
end SmartHome.Weather
