import SmartHome.Api.Power

/-! # Temperature figures

The entries of the temperature history and the average of the dashboard against the readings: the history is never
answered, and the dashboard does not show an average of zero. -/

namespace SmartHome.Analytics
open Aggregate

/-! ### The filter -/

/-- The snapshot is one of the device with the AIN; no AIN and an empty one filter nothing. -/
def OfAin (db : Database) (ain : Option String) (row : Snapshot) : Prop :=
  ∀ a, ain = some a → a ≠ "" → ∃ device ∈ db.devices, device.ain = a ∧ device.id = row.deviceId

theorem find?_ain_iff (db : Database) (a : String) (id : Uuid) :
    (db.devices.find? fun device => device.ain = a).map (·.id) = some id ↔
      ∃ device ∈ db.devices, device.ain = a ∧ device.id = id := by
  have hsatisfies : ∀ found, (db.devices.find? fun device => device.ain = a) = some found → found.ain = a := by
    intro found hfind
    simpa using List.find?_some hfind
  rw [Option.map_eq_some_iff]
  constructor
  · rintro ⟨device, hfind, hid⟩
    exact ⟨device, List.mem_of_find?_eq_some hfind, hsatisfies device hfind, hid⟩
  · rintro ⟨device, hdevice, hain, hid⟩
    obtain ⟨found, hfind⟩ : ∃ found, (db.devices.find? fun device => device.ain = a) = some found :=
      Option.isSome_iff_exists.mp (List.find?_isSome.mpr ⟨device, hdevice, decide_eq_true hain⟩)
    -- the column is unique, so there is no other device with the AIN
    have hsame : found = device := List.inj_on_of_nodup_map db.ains (List.mem_of_find?_eq_some hfind) hdevice
      ((hsatisfies found hfind).trans hain.symm)
    exact ⟨found, hfind, hsame ▸ hid⟩

theorem ofDevice_iff {db : Database} {ain : Option String} {row : Snapshot} :
    ofDevice db ain row = true ↔ OfAin db ain row := by
  unfold ofDevice OfAin
  cases ain with
  | none => simp
  | some a =>
    by_cases ha : a = ""
    · simp [ha]
    · simp only [ha, ne_eq, not_false_eq_true, if_true, decide_eq_true_iff, find?_ain_iff, Option.some.injEq,
        forall_eq', forall_const]

/-! ### The readings -/

/-- The matching temperature readings of an hour that are not older than `since`. -/
def readings (db : Database) (ain : Option String) (since h : Int) : List ℚ :=
  (db.snapshots.filter fun row => since ≤ row.recordedAt && ofDevice db ain row && truncHour row.recordedAt = h).filterMap
    (·.temperatureCelsius)

/-- The temperature readings of the last two minutes. -/
def recentTemperatures (db : Database) (now : Int) : List ℚ :=
  (recorded (·.temperatureCelsius) (now - 2 * minute) db.snapshots).filterMap (·.temperatureCelsius)

/-! ### What should be shown -/

/-- The history answers with the hours that have matching readings, in order and with their averages, and the dashboard
    has an average when there are recent readings. -/
structure TemperaturesShown (db : Database) (ain : Option String) (hours now : Int) : Prop where
  history : ∃ entries, temperatureHistory db ain hours now = .ok entries ∧
    (∀ h, (∃ entry ∈ entries, entry.hour = h) ↔ readings db ain (now - hours * hour) h ≠ []) ∧
    (entries.map (·.hour)).Pairwise (· < ·) ∧
    ∀ entry ∈ entries, entry.avgTemp = some (round1 (mean (readings db ain (now - hours * hour) entry.hour)))
  current : (dashboardStats db now).avgTemperature = none ↔ recentTemperatures db now = []

theorem not_temperaturesShown (db : Database) (ain : Option String) (hours now : Int) :
    ¬ TemperaturesShown db ain hours now := by
  intro hshown
  obtain ⟨entries, hanswer, -⟩ := hshown.history
  rw [temperatureHistory_raises] at hanswer
  cases hanswer

/-- On no table does the history answer, with an AIN or without one. -/
theorem temperature_history_never_answers (db : Database) (ain : Option String) (hours now : Int) :
    temperatureHistory db ain hours now = .error .external ∧ ¬ TemperaturesShown db ain hours now :=
  ⟨temperatureHistory_raises db ain hours now, not_temperaturesShown db ain hours now⟩

/-- The dashboard takes an average of zero for a missing one. -/
theorem avgTemperature_eq_none_iff (db : Database) (now : Int) :
    (dashboardStats db now).avgTemperature = none ↔
      recentTemperatures db now = [] ∨ (recentTemperatures db now).sum = 0 := by
  have hstats : (dashboardStats db now).avgTemperature =
      roundOrNone (if recentTemperatures db now = [] then none else some (mean (recentTemperatures db now))) := rfl
  rw [hstats]
  by_cases hnil : recentTemperatures db now = []
  · simp [hnil, roundOrNone]
  · rw [if_neg hnil, ← mean_eq_zero_iff hnil, or_iff_right hnil]
    by_cases hzero : mean (recentTemperatures db now) = 0
    · simp [roundOrNone, hzero]
    · simp [roundOrNone, hzero]

/-! ### A night at the freezing point -/

/-- A reading of 0.0 degrees. -/
def freezingReading : Snapshot := ⟨1, 1, 30 * 1000000, some 0, none⟩

/-- One sensor, which reports 0.0 degrees. -/
def freezingNight : Database where
  devices := [{ id := 1, ain := "09995 0123456", name := "Garage", deviceType := "thermostat" }]
  snapshots := [freezingReading]
  deviceIds := by decide
  ains := by decide
  snapshotIds := by decide

/-- The history is an error, and the dashboard has no average although there is a reading. -/
theorem freezing_night_is_not_shown :
    temperatureHistory freezingNight none 1 afterTwoPolls = .error .external ∧
      recentTemperatures freezingNight afterTwoPolls = [0] ∧
      (dashboardStats freezingNight afterTwoPolls).avgTemperature = none ∧
      ¬ TemperaturesShown freezingNight none 1 afterTwoPolls := by
  have hrecent : recentTemperatures freezingNight afterTwoPolls = [0] := by decide
  have hnone : (dashboardStats freezingNight afterTwoPolls).avgTemperature = none := by
    rw [avgTemperature_eq_none_iff, hrecent]
    exact Or.inr (List.sum_singleton ..)
  exact ⟨temperatureHistory_raises _ _ _ _, hrecent, hnone, not_temperaturesShown _ _ _ _⟩

end SmartHome.Analytics
