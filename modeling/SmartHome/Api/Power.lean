import SmartHome.Api.Analytics

/-! # Power figures

The total power of the dashboard against the latest snapshot of each device, and the power history against the mean
over the polls of an hour. -/

namespace SmartHome.Analytics
open Aggregate

theorem round1_zero : round1 0 = 0 := Grid.nearest_of_on (by norm_num) ⟨0, by norm_num⟩

theorem roundOrZero_some (x : ℚ) : roundOrZero (some x) = round1 x := by
  by_cases hx : x = 0
  · rw [hx, round1_zero]
    rfl
  · exact if_pos hx

theorem Database.nodup_snapshots (db : Database) : db.snapshots.Nodup := List.Nodup.of_map _ db.snapshotIds

/-! ## The current total -/

/-- One of the rows of each device, at least as late as the others. -/
structure LatestOf (rows pick : List Snapshot) : Prop where
  sublist : pick.Sublist rows
  once : (pick.map (·.deviceId)).Nodup
  latest : ∀ row ∈ rows, ∃ newest ∈ pick, newest.deviceId = row.deviceId ∧ row.recordedAt ≤ newest.recordedAt

theorem exists_latestOf (rows : List Snapshot) : ∃ pick, LatestOf rows pick := by
  induction rows with
  | nil => exact ⟨[], List.Sublist.refl _, List.nodup_nil, by simp⟩
  | cons row rows ih =>
    obtain ⟨pick, hsublist, honce, hlatest⟩ := ih
    by_cases hlater : ∃ newest ∈ pick, newest.deviceId = row.deviceId ∧ row.recordedAt ≤ newest.recordedAt
    · refine ⟨pick, hsublist.cons row, honce, fun other hother => ?_⟩
      rcases List.mem_cons.mp hother with rfl | hother
      · exact hlater
      · exact hlatest other hother
    · -- the new row takes the place of an earlier one of its device
      refine ⟨row :: pick.filter fun other => other.deviceId ≠ row.deviceId,
        (List.filter_sublist.trans hsublist).cons_cons row, ?_, fun other hother => ?_⟩
      · rw [List.map_cons, List.nodup_cons]
        refine ⟨fun hmem => ?_, honce.sublist (List.filter_sublist.map _)⟩
        obtain ⟨other, hother, hdevice⟩ := List.mem_map.mp hmem
        exact of_decide_eq_true (List.mem_filter.mp hother).2 hdevice
      · rcases List.mem_cons.mp hother with rfl | hother
        · exact ⟨_, List.mem_cons_self .., rfl, le_refl _⟩
        obtain ⟨newest, hnewest, hdevice, hle⟩ := hlatest other hother
        by_cases hsame : newest.deviceId = row.deviceId
        · have hearlier : newest.recordedAt ≤ row.recordedAt := by
            by_contra hnot
            exact hlater ⟨newest, hnewest, hsame, (not_le.mp hnot).le⟩
          exact ⟨row, List.mem_cons_self .., hsame.symm.trans hdevice, hle.trans hearlier⟩
        · exact ⟨newest, List.mem_cons_of_mem _ (List.mem_filter.mpr ⟨hnewest, decide_eq_true hsame⟩), hdevice, hle⟩

/-- The rows that are not the latest of their device. -/
def superseded (rows pick : List Snapshot) : List Snapshot := rows.filter fun row => row ∉ pick

theorem total_superseded {rows pick : List Snapshot} (hrows : rows.Nodup) (h : pick.Sublist rows)
    (column : Snapshot → Option ℚ) : total column rows = total column pick + total column (superseded rows pick) := by
  have hpick : pick.Perm (rows.filter fun row => row ∈ pick) := by
    refine (List.perm_ext_iff_of_nodup (hrows.sublist h) (hrows.filter _)).mpr fun row => ?_
    rw [List.mem_filter, decide_eq_true_iff]
    exact ⟨fun hrow => ⟨h.subset hrow, hrow⟩, fun hrow => hrow.2⟩
  have hrest : superseded rows pick = rows.filter fun row => !decide (row ∈ pick) := by
    unfold superseded
    refine List.filter_congr fun row _ => ?_
    simp
  rw [total_perm hpick, hrest, total_filter_add]

/-- Rows with a power value of the last two minutes. -/
def recentPower (db : Database) (now : Int) : List Snapshot := recorded (·.powerWatts) (now - 2 * minute) db.snapshots

/-- The dashboard adds up all rows of the two minutes. -/
theorem totalPowerWatts_eq (db : Database) (now : Int) :
    (dashboardStats db now).totalPowerWatts = round1 (total (·.powerWatts) (recentPower db now)) := by
  show round1 ((sum (·.powerWatts) (recentPower db now)).getD 0) = _
  rw [getD_sum]

theorem nodup_recentPower (db : Database) (now : Int) : (recentPower db now).Nodup := db.nodup_snapshots.filter _

/-- The dashboard shows the total of the latest snapshots exactly when the superseded ones add up to 0.1 watts at
    most, and rounding hides that. -/
theorem total_power_current_iff (db : Database) (now : Int) (pick : List Snapshot) (h : LatestOf (recentPower db now) pick) :
    (dashboardStats db now).totalPowerWatts = round1 (total (·.powerWatts) pick) ↔
      |total (·.powerWatts) (superseded (recentPower db now) pick)| ≤ 1 / 10 ∧
        round1 (total (·.powerWatts) pick + total (·.powerWatts) (superseded (recentPower db now) pick)) =
          round1 (total (·.powerWatts) pick) := by
  rw [totalPowerWatts_eq, total_superseded (nodup_recentPower db now) h.sublist]
  refine ⟨fun heq => ⟨?_, heq⟩, fun hround => hround.2⟩
  have hstep := Grid.abs_sub_le_of_nearest_eq (by norm_num) heq
  rw [add_sub_cancel_left] at hstep
  exact_mod_cast hstep

/-- When no device was polled twice, none of its rows is superseded, and the total is right. -/
theorem total_power_of_single_polls {db : Database} {now : Int} {pick : List Snapshot}
    (h : LatestOf (recentPower db now) pick) (honce : ((recentPower db now).map (·.deviceId)).Nodup) :
    (dashboardStats db now).totalPowerWatts = round1 (total (·.powerWatts) pick) := by
  have hnone : superseded (recentPower db now) pick = [] := by
    refine List.filter_eq_nil_iff.mpr fun row hrow => ?_
    obtain ⟨newest, hnewest, hdevice, -⟩ := h.latest row hrow
    obtain rfl := List.inj_on_of_nodup_map honce (h.sublist.subset hnewest) hrow hdevice
    simpa using hnewest
  rw [totalPowerWatts_eq, total_superseded (nodup_recentPower db now) h.sublist, hnone]
  simp [total]

/-! ## The power history -/

/-- The rows of an hour that are not older than `since`. -/
def hourRows (db : Database) (since h : Int) : List Snapshot :=
  db.snapshots.filter fun row => since ≤ row.recordedAt && truncHour row.recordedAt = h

/-- The instants of the polls of an hour. -/
def polls (db : Database) (since h : Int) : List Int := groups (·.recordedAt) (hourRows db since h)

/-- The total power of the devices polled at an instant. -/
def pollTotal (db : Database) (t : Int) : ℚ := total (·.powerWatts) (db.snapshots.filter fun row => row.recordedAt = t)

/-- The mean over the polls of an hour. -/
def hourlyMean (db : Database) (since h : Int) : ℚ := mean ((polls db since h).map (pollTotal db))

/-- The hour has a power value. -/
def HasPower (db : Database) (since h : Int) : Prop := ∃ row ∈ hourRows db since h, row.powerWatts.isSome = true

/-- The history answers, and every hour with power values is listed with the mean over its polls. -/
def HourlyMeans (db : Database) (hours now : Int) : Prop :=
  ∃ entries, powerHistory db hours now = .ok entries ∧
    (∀ h, HasPower db (now - hours * hour) h → ∃ entry ∈ entries, entry.hour = h) ∧
    ∀ entry ∈ entries, entry.totalWatts = round1 (hourlyMean db (now - hours * hour) entry.hour)

theorem not_hourlyMeans (db : Database) (hours now : Int) : ¬ HourlyMeans db hours now := by
  rintro ⟨entries, hanswer, -⟩
  rw [powerHistory_raises] at hanswer
  cases hanswer

/-- On no table does the history answer. -/
theorem power_history_never_answers (db : Database) (hours now : Int) :
    powerHistory db hours now = .error .external ∧ ¬ HourlyMeans db hours now :=
  ⟨powerHistory_raises db hours now, not_hourlyMeans db hours now⟩

/-! ## A refrigerator -/

/-- The reading of 30 seconds after the start. -/
def firstPoll : Snapshot := ⟨1, 1, 30 * 1000000, none, some 60⟩
/-- The reading of 90 seconds after the start. -/
def secondPoll : Snapshot := ⟨2, 1, 90 * 1000000, none, some 60⟩

/-- One plug with a constant load of 60 watts, polled every minute. -/
def refrigerator : Database where
  devices := [{ id := 1, ain := "08761 0374811", name := "Kühlschrank", deviceType := "switch" }]
  snapshots := [firstPoll, secondPoll]
  deviceIds := by decide
  ains := by decide
  snapshotIds := by decide

/-- Two minutes after the first of the two minutes began. -/
def afterTwoPolls : Int := 120 * 1000000

theorem refrigerator_recent : recentPower refrigerator afterTwoPolls = [firstPoll, secondPoll] := by decide

theorem refrigerator_latest : LatestOf (recentPower refrigerator afterTwoPolls) [secondPoll] := by
  rw [refrigerator_recent]
  refine ⟨(List.Sublist.refl [secondPoll]).cons firstPoll, by decide, fun row hrow => ⟨secondPoll, by simp, ?_⟩⟩
  rcases List.mem_cons.mp hrow with rfl | hrow
  · decide
  · rw [List.mem_singleton.mp hrow]
    decide

/-- The dashboard shows 120 watts. -/
theorem refrigerator_counted_twice :
    LatestOf (recentPower refrigerator afterTwoPolls) [secondPoll] ∧
      (dashboardStats refrigerator afterTwoPolls).totalPowerWatts = 120 ∧
      (dashboardStats refrigerator afterTwoPolls).totalPowerWatts ≠ round1 (total (·.powerWatts) [secondPoll]) :=
  ⟨refrigerator_latest, by decide +kernel, by decide +kernel⟩

theorem refrigerator_total_iff :
    (dashboardStats refrigerator afterTwoPolls).totalPowerWatts = round1 (total (·.powerWatts) [secondPoll]) ↔
      |total (·.powerWatts) (superseded (recentPower refrigerator afterTwoPolls) [secondPoll])| ≤ 1 / 10 ∧
        round1 (total (·.powerWatts) [secondPoll] +
            total (·.powerWatts) (superseded (recentPower refrigerator afterTwoPolls) [secondPoll])) =
          round1 (total (·.powerWatts) [secondPoll]) :=
  total_power_current_iff refrigerator afterTwoPolls [secondPoll] refrigerator_latest

/-- The plug's hour has a mean of 60 watts, and the history is an error. -/
theorem refrigerator_has_no_history :
    hourlyMean refrigerator (afterTwoPolls - 1 * hour) 0 = 60 ∧
      powerHistory refrigerator 1 afterTwoPolls = .error .external ∧ ¬ HourlyMeans refrigerator 1 afterTwoPolls := by
  have hpolls : polls refrigerator (afterTwoPolls - 1 * hour) 0 = [30 * 1000000, 90 * 1000000] :=
    List.mergeSort_of_pairwise (by decide)
  refine ⟨?_, powerHistory_raises _ _ _, not_hourlyMeans _ _ _⟩
  rw [hourlyMean, hpolls]
  decide +kernel

end SmartHome.Analytics
