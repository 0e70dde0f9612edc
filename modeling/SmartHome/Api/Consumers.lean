import SmartHome.Api.Power

/-! # Top consumers

The answer of `top_consumers` against the means over all power readings of the period. The query leaves out the
readings that are not positive before it takes the mean. -/

namespace SmartHome.Analytics
open Aggregate

/-- The power readings of a device that are not older than `since`. -/
def wattReadings (db : Database) (since : Int) (device : Device) : List ℚ :=
  (db.snapshots.filter fun row => row.deviceId = device.id && since ≤ row.recordedAt).filterMap (·.powerWatts)

/-- The mean of all readings of the device since then, zero ones included. -/
def meanWatts (db : Database) (since : Int) (device : Device) : ℚ := mean (wattReadings db since device)

/-- The readings at which the device drew nothing. -/
def idleReadings (db : Database) (since : Int) (device : Device) : List ℚ :=
  (wattReadings db since device).filter fun watts => !decide (0 < watts)

/-- What the idle readings fall short of the mean of the others, spread over all readings. -/
def idleLoss (db : Database) (since : Int) (device : Device) : ℚ :=
  ((idleReadings db since device).length * positiveMean db since device - (idleReadings db since device).sum) /
    (wattReadings db since device).length

/-! ### Readings -/

theorem mem_consumption {db : Database} {since : Int} {device : Device} {row : Snapshot} :
    row ∈ consumption db since device ↔
      row ∈ db.snapshots ∧ row.deviceId = device.id ∧ row.powerWatts.any (0 < ·) = true ∧ since ≤ row.recordedAt := by
  simp only [consumption, List.mem_filter, Bool.and_eq_true, decide_eq_true_iff, and_assoc]

theorem isSome_of_mem_consumption {db : Database} {since : Int} {device : Device} {row : Snapshot}
    (h : row ∈ consumption db since device) : row.powerWatts.isSome = true := by
  have hany := (mem_consumption.mp h).2.2.1
  rcases hwatts : row.powerWatts with _ | watts
  · rw [hwatts] at hany
    cases hany
  · rfl

/-- The query sees the positive readings. -/
theorem filterMap_consumption (db : Database) (since : Int) (device : Device) :
    (consumption db since device).filterMap (·.powerWatts) =
      (wattReadings db since device).filter fun watts => decide (0 < watts) := by
  unfold consumption wattReadings
  rw [List.filterMap_filter, List.filterMap_filter, List.filter_filterMap]
  refine List.filterMap_congr fun row _ => ?_
  by_cases hrow : row.deviceId = device.id ∧ since ≤ row.recordedAt
  · rcases hwatts : row.powerWatts with _ | watts
    · simp
    · by_cases hpos : 0 < watts <;> simp [hpos, hrow, Option.filter]
  · have hnone : ∀ watts : Bool, ¬ ((row.deviceId = device.id ∧ watts = true) ∧ since ≤ row.recordedAt) :=
      fun watts h => hrow ⟨h.1.1, h.2⟩
    simp [hrow, hnone]

theorem positive_ne_nil {db : Database} {since : Int} {device : Device} (h : consumption db since device ≠ []) :
    ((wattReadings db since device).filter fun watts => decide (0 < watts)) ≠ [] := by
  obtain ⟨row, hrow⟩ := List.exists_mem_of_ne_nil _ h
  rw [← filterMap_consumption]
  exact filterMap_ne_nil hrow (isSome_of_mem_consumption hrow)

/-- The mean over all readings is the one of the query less the loss. -/
theorem meanWatts_eq {db : Database} {since : Int} {device : Device} (h : consumption db since device ≠ []) :
    meanWatts db since device = positiveMean db since device - idleLoss db since device := by
  rw [meanWatts, mean_eq_sub_of_filter (positive_ne_nil h), idleLoss, positiveMean, filterMap_consumption]
  rfl

/-- A device without a positive reading has no positive mean. -/
theorem meanWatts_nonpos {db : Database} {since : Int} {device : Device} (h : consumption db since device = []) :
    meanWatts db since device ≤ 0 := by
  have hsum : (wattReadings db since device).sum ≤ 0 := by
    refine sum_nonpos fun watts hwatts => ?_
    by_contra hpos
    have hmem : watts ∈ (wattReadings db since device).filter fun watts => decide (0 < watts) :=
      List.mem_filter.mpr ⟨hwatts, decide_eq_true (not_le.mp hpos)⟩
    rw [← filterMap_consumption, h] at hmem
    cases hmem
  exact div_nonpos_of_nonpos_of_nonneg hsum (Nat.cast_nonneg _)

/-- Idle readings never raise the mean. -/
theorem idleLoss_nonneg {db : Database} {since : Int} {device : Device} :
    0 ≤ idleLoss db since device := by
  have hmean : 0 ≤ positiveMean db since device := by
    rw [positiveMean, filterMap_consumption]
    refine div_nonneg (List.sum_nonneg fun watts hwatts => ?_) (Nat.cast_nonneg _)
    exact (of_decide_eq_true (List.mem_filter.mp hwatts).2).le
  have hsum : (idleReadings db since device).sum ≤ 0 := by
    refine sum_nonpos fun watts hwatts => ?_
    have hidle := (List.mem_filter.mp hwatts).2
    simpa using hidle
  refine div_nonneg ?_ (Nat.cast_nonneg _)
  have hcost : 0 ≤ ((idleReadings db since device).length : ℚ) * positiveMean db since device :=
    mul_nonneg (Nat.cast_nonneg _) hmean
  linarith

/-! ### The ranking -/

/-- An entry with the mean over all readings. -/
def consumerOf (db : Database) (since : Int) (device : Device) : Consumer :=
  { ain := device.ain
    name := device.name
    avgWatts := round1 (meanWatts db since device) }

/-- The answer lists `limit` devices at most, with their means and in descending order, and no other device with a
    positive mean has a larger one than a listed device. -/
structure TopByMean (db : Database) (since : Int) (limit : Nat) (listed : List Device) (answer : List Consumer) :
    Prop where
  atMost : answer.length ≤ limit
  once : listed.Nodup
  known : ∀ device ∈ listed, device ∈ db.devices
  means : answer = listed.map (consumerOf db since)
  descending : listed.Pairwise fun a b => meanWatts db since b ≤ meanWatts db since a
  top : ∀ device ∈ db.devices, device ∉ listed → 0 < meanWatts db since device →
    ∀ other ∈ listed, meanWatts db since device ≤ meanWatts db since other

/-- The idle readings of the first device cost it no more than those of the second one cost that, and its lead. -/
def KeepsLead (db : Database) (since : Int) (a b : Device) : Prop :=
  idleLoss db since a - idleLoss db since b ≤ positiveMean db since a - positiveMean db since b

theorem Ranking.mem_iff {db : Database} {since : Int} {ranking : List Device} (h : Ranking db since ranking)
    {device : Device} : device ∈ ranking ↔ device ∈ db.devices ∧ consumption db since device ≠ [] := by
  rw [h.perm.mem_iff, List.mem_filter, decide_eq_true_iff]

theorem Ranking.nodup {db : Database} {since : Int} {ranking : List Device} (h : Ranking db since ranking) :
    ranking.Nodup :=
  h.perm.nodup_iff.mpr ((List.Nodup.of_map _ db.ains).filter _)

theorem Ranking.keepsLead_iff {db : Database} {since : Int} {ranking : List Device} (h : Ranking db since ranking)
    {a b : Device} (ha : a ∈ ranking) (hb : b ∈ ranking) :
    KeepsLead db since a b ↔ meanWatts db since b ≤ meanWatts db since a := by
  rw [meanWatts_eq (h.mem_iff.mp ha).2, meanWatts_eq (h.mem_iff.mp hb).2, KeepsLead]
  constructor <;> intro hle <;> linarith

theorem exists_ranking (db : Database) (since : Int) : ∃ ranking, Ranking db since ranking := by
  have htotal : ∀ a b : Device, (decide (positiveMean db since b ≤ positiveMean db since a) ||
      decide (positiveMean db since a ≤ positiveMean db since b)) = true := by
    intro a b
    rw [Bool.or_eq_true, decide_eq_true_iff, decide_eq_true_iff]
    exact le_total _ _
  have htrans : ∀ a b c : Device, decide (positiveMean db since b ≤ positiveMean db since a) = true →
      decide (positiveMean db since c ≤ positiveMean db since b) = true →
        decide (positiveMean db since c ≤ positiveMean db since a) = true := by
    intro a b c hab hbc
    rw [decide_eq_true_iff] at *
    exact hbc.trans hab
  refine ⟨_, List.mergeSort_perm _ fun a b => decide (positiveMean db since b ≤ positiveMean db since a), ?_⟩
  exact (List.pairwise_mergeSort htrans htotal _).imp fun h => of_decide_eq_true h

/-- Lists of known devices with the same AINs are the same. -/
theorem eq_of_map_ain {db : Database} {xs ys : List Device} (hxs : ∀ device ∈ xs, device ∈ db.devices)
    (hys : ∀ device ∈ ys, device ∈ db.devices) (h : xs.map (·.ain) = ys.map (·.ain)) : xs = ys := by
  induction xs generalizing ys with
  | nil => exact (List.map_eq_nil_iff.mp h.symm).symm
  | cons x xs ih =>
    obtain ⟨y, ys, rfl, hain, hrest⟩ := List.map_eq_cons_iff.mp h.symm
    have hsame : y = x := List.inj_on_of_nodup_map db.ains (hys y (List.mem_cons_self ..))
      (hxs x (List.mem_cons_self ..)) hain
    rw [hsame, ih (fun device hdevice => hxs device (List.mem_cons_of_mem _ hdevice))
      (fun device hdevice => hys device (List.mem_cons_of_mem _ hdevice)) hrest.symm]

/-- The entries of the answer. -/
theorem topConsumers_eq {db : Database} {ranking : List Device} {hours now : Int}
    (h : Ranking db (now - hours * hour) ranking) (limit : Nat) :
    topConsumers db ranking limit hours now = (ranking.take limit).map fun device =>
      ⟨device.ain, device.name, round1 (positiveMean db (now - hours * hour) device)⟩ := by
  refine List.map_congr_left fun device hdevice => ?_
  obtain ⟨row, hrow⟩ := List.exists_mem_of_ne_nil _ (h.mem_iff.mp (List.mem_of_mem_take hdevice)).2
  rw [avg_of_mem hrow (isSome_of_mem_consumption hrow), roundOrZero_some]
  rfl

theorem Ranking.meanWatts_eq {db : Database} {since : Int} {ranking : List Device} (h : Ranking db since ranking)
    {device : Device} (hdevice : device ∈ ranking) :
    meanWatts db since device = positiveMean db since device - idleLoss db since device :=
  Analytics.meanWatts_eq (h.mem_iff.mp hdevice).2

/-- The devices that the answer lists are the first ones of the ranking. -/
theorem TopByMean.listed_eq {db : Database} {ranking listed : List Device} {limit : Nat} {hours now : Int}
    (h : Ranking db (now - hours * hour) ranking)
    (htop : TopByMean db (now - hours * hour) limit listed (topConsumers db ranking limit hours now)) :
    listed = ranking.take limit := by
  have hmeans := htop.means
  rw [topConsumers_eq h limit] at hmeans
  have hains := congrArg (List.map (·.ain)) hmeans
  rw [List.map_map, List.map_map] at hains
  exact (eq_of_map_ain (fun device hdevice => (h.mem_iff.mp (List.mem_of_mem_take hdevice)).1) htop.known hains).symm

/-- Rounding hides the idle readings of the listed devices, and none of them loses its lead over one behind it. -/
structure IdleHarmless (db : Database) (since : Int) (limit : Nat) (ranking : List Device) : Prop where
  rounded : ∀ device ∈ ranking.take limit, idleLoss db since device ≤ 1 / 10 ∧
    round1 (positiveMean db since device - idleLoss db since device) = round1 (positiveMean db since device)
  among : (ranking.take limit).Pairwise (KeepsLead db since)
  behind : ∀ device ∈ ranking.take limit, ∀ other ∈ ranking.drop limit,
    idleLoss db since other < positiveMean db since other → KeepsLead db since device other

theorem TopByMean.idleHarmless {db : Database} {ranking : List Device} {limit : Nat} {hours now : Int}
    (h : Ranking db (now - hours * hour) ranking)
    (htop : TopByMean db (now - hours * hour) limit (ranking.take limit) (topConsumers db ranking limit hours now)) :
    IdleHarmless db (now - hours * hour) limit ranking := by
  have hmeans := htop.means
  rw [topConsumers_eq h limit] at hmeans
  refine ⟨fun device hdevice => ?_, ?_, fun device hdevice other hother hpositive => ?_⟩
  · have hentry := congrArg (·.avgWatts) (List.map_inj_left.mp hmeans device hdevice)
    have hround : round1 (positiveMean db (now - hours * hour) device) =
        round1 (meanWatts db (now - hours * hour) device) := hentry
    rw [h.meanWatts_eq (List.mem_of_mem_take hdevice)] at hround
    have hstep := Grid.abs_sub_le_of_nearest_eq (by norm_num) hround
    rw [sub_sub_cancel] at hstep
    exact ⟨by exact_mod_cast (le_abs_self _).trans hstep, hround.symm⟩
  · refine htop.descending.imp_of_mem fun {a b} ha hb hle => ?_
    exact (h.keepsLead_iff (List.mem_of_mem_take ha) (List.mem_of_mem_take hb)).mpr hle
  · have hranked := List.mem_of_mem_drop hother
    have hnodup := h.nodup
    rw [← List.take_append_drop limit ranking] at hnodup
    have hleft : other ∉ ranking.take limit := fun htake => (List.nodup_append.mp hnodup).2.2 other htake other hother rfl
    refine (h.keepsLead_iff (List.mem_of_mem_take hdevice) hranked).mpr ?_
    refine htop.top other (h.mem_iff.mp hranked).1 hleft ?_ device hdevice
    rw [h.meanWatts_eq hranked]
    exact sub_pos.mpr hpositive

theorem IdleHarmless.topByMean {db : Database} {ranking : List Device} {limit : Nat} {hours now : Int}
    (h : Ranking db (now - hours * hour) ranking) (hidle : IdleHarmless db (now - hours * hour) limit ranking) :
    TopByMean db (now - hours * hour) limit (ranking.take limit) (topConsumers db ranking limit hours now) := by
  rw [topConsumers_eq h limit]
  refine ⟨?_, h.nodup.sublist (List.take_sublist _ _),
    fun device hdevice => (h.mem_iff.mp (List.mem_of_mem_take hdevice)).1, ?_, ?_, ?_⟩
  · rw [List.length_map]
    exact List.length_take_le _ _
  · refine List.map_congr_left fun device hdevice => ?_
    rw [consumerOf, h.meanWatts_eq (List.mem_of_mem_take hdevice), (hidle.rounded device hdevice).2]
  · refine hidle.among.imp_of_mem fun {a b} ha hb hkeeps => ?_
    exact (h.keepsLead_iff (List.mem_of_mem_take ha) (List.mem_of_mem_take hb)).mp hkeeps
  · intro other hother hleft hpositive device hdevice
    -- a device without positive readings has no positive mean, so the other one is ranked
    have hranked : other ∈ ranking := by
      refine h.mem_iff.mpr ⟨hother, fun hnil => ?_⟩
      exact (meanWatts_nonpos hnil).not_gt hpositive
    have hdrop : other ∈ ranking.drop limit := by
      have hsplit := hranked
      rw [← List.take_append_drop limit ranking] at hsplit
      exact (List.mem_append.mp hsplit).resolve_left hleft
    rw [h.meanWatts_eq hranked] at hpositive
    exact (h.keepsLead_iff (List.mem_of_mem_take hdevice) hranked).mp
      (hidle.behind device hdevice other hdrop (sub_pos.mp hpositive))

/-- Consumers are ranked by their means exactly when the idle readings of a listed device cost it 0.1 watts at most,
    which rounding hides, and no listed device loses its lead over one behind it. -/
theorem top_consumers_by_mean_iff (db : Database) (ranking : List Device) (limit : Nat) (hours now : Int)
    (h : Ranking db (now - hours * hour) ranking) :
    (∃ listed, TopByMean db (now - hours * hour) limit listed (topConsumers db ranking limit hours now)) ↔
      IdleHarmless db (now - hours * hour) limit ranking := by
  constructor
  · rintro ⟨listed, htop⟩
    obtain rfl := htop.listed_eq h
    exact htop.idleHarmless h
  · exact fun hidle => ⟨_, hidle.topByMean h⟩

/-- Without idle readings of the listed devices the ranking is right, whatever the others did. -/
theorem top_consumers_of_busy {db : Database} {ranking : List Device} {limit : Nat} {hours now : Int}
    (h : Ranking db (now - hours * hour) ranking)
    (hbusy : ∀ device ∈ ranking.take limit, idleReadings db (now - hours * hour) device = []) :
    TopByMean db (now - hours * hour) limit (ranking.take limit) (topConsumers db ranking limit hours now) := by
  have hzero : ∀ device ∈ ranking.take limit, idleLoss db (now - hours * hour) device = 0 := by
    intro device hdevice
    rw [idleLoss, hbusy device hdevice]
    simp
  have hlead : ∀ a ∈ ranking.take limit, ∀ b,
      positiveMean db (now - hours * hour) b ≤ positiveMean db (now - hours * hour) a →
        KeepsLead db (now - hours * hour) a b := by
    intro a ha b hle
    have hcost : 0 ≤ idleLoss db (now - hours * hour) b := idleLoss_nonneg
    rw [KeepsLead, hzero a ha]
    linarith
  have hdescending := h.descending
  rw [← List.take_append_drop limit ranking, List.pairwise_append] at hdescending
  obtain ⟨hamong, -, hbehind⟩ := hdescending
  refine IdleHarmless.topByMean h ⟨fun device hdevice => ?_, ?_, fun device hdevice other hother _ => ?_⟩
  · rw [hzero device hdevice, sub_zero]
    exact ⟨by norm_num, rfl⟩
  · exact hamong.imp_of_mem fun {a b} ha _ hle => hlead a ha b hle
  · exact hlead device hdevice other (hbehind device hdevice other hother)

/-! ### A drill and a lamp -/

/-- A device that is rarely on. -/
def drill : Device := { id := 1, ain := "08761 0000001", name := "Bohrmaschine", deviceType := "switch" }
/-- A device that is always on. -/
def lamp : Device := { id := 2, ain := "08761 0000002", name := "Lampe", deviceType := "switch" }

/-- The drill runs at one of three polls, the lamp is always on. -/
def workshop : Database where
  devices := [drill, lamp]
  snapshots := [⟨1, 1, 0, none, some 100⟩, ⟨2, 2, 0, none, some 50⟩, ⟨3, 1, minute, none, some 0⟩,
    ⟨4, 2, minute, none, some 50⟩, ⟨5, 1, 2 * minute, none, some 0⟩, ⟨6, 2, 2 * minute, none, some 50⟩]
  deviceIds := by decide
  ains := by decide
  snapshotIds := by decide

theorem workshop_ranking : Ranking workshop (3 * minute - 1 * hour) [drill, lamp] := by
  have hdevices : (workshop.devices.filter fun device => consumption workshop (3 * minute - 1 * hour) device ≠ []) =
      [drill, lamp] := by decide
  refine ⟨?_, ?_⟩
  · rw [hdevices]
  · rw [List.pairwise_pair]
    decide +kernel

/-- The drill alone is listed, with 100 watts, although the lamp has the larger mean. -/
theorem drill_before_lamp :
    Ranking workshop (3 * minute - 1 * hour) [drill, lamp] ∧
      topConsumers workshop [drill, lamp] 1 1 (3 * minute) = [⟨drill.ain, drill.name, 100⟩] ∧
      meanWatts workshop (3 * minute - 1 * hour) drill = 100 / 3 ∧
      meanWatts workshop (3 * minute - 1 * hour) lamp = 50 ∧
      ¬ ∃ listed, TopByMean workshop (3 * minute - 1 * hour) 1 listed
        (topConsumers workshop [drill, lamp] 1 1 (3 * minute)) := by
  have hdrill : meanWatts workshop (3 * minute - 1 * hour) drill = 100 / 3 := by decide +kernel
  have hlamp : meanWatts workshop (3 * minute - 1 * hour) lamp = 50 := by decide +kernel
  refine ⟨workshop_ranking, by decide +kernel, hdrill, hlamp, ?_⟩
  rintro ⟨listed, htop⟩
  obtain rfl := htop.listed_eq workshop_ranking
  have hle := htop.top lamp (by decide) (by decide) (by rw [hlamp]; norm_num) drill (by decide)
  rw [hdrill, hlamp] at hle
  norm_num at hle

theorem workshop_by_mean_iff :
    (∃ listed, TopByMean workshop (3 * minute - 1 * hour) 1 listed
        (topConsumers workshop [drill, lamp] 1 1 (3 * minute))) ↔
      IdleHarmless workshop (3 * minute - 1 * hour) 1 [drill, lamp] :=
  top_consumers_by_mean_iff workshop [drill, lamp] 1 1 (3 * minute) workshop_ranking

end SmartHome.Analytics
