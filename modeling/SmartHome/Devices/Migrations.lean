import SmartHome.Devices.Table
import SmartHome.Lib.Sql
import SmartHome.Providers.Fritz.Discovery

/-! # The repair of the devices table

The migrations that deactivate the groups of the FRITZ!Box and reactivate the devices which an earlier form of the
first of them took for groups (`migrations/versions/0007_deactivate_virtual_group_devices.py` and
`0008_reactivate_third_party_devices.py`). -/

namespace SmartHome.Devices
open Fritz

/-- `lower(ain)`, for the search for `grp`: besides its capitals no character turns into one of its letters. -/
def lowerAin (ain : String) : List Char := ain.toList.map Char.toLower

/-- `lower(ain) LIKE 'grp%'`. -/
def likeGrp (row : DeviceRow) : Bool := Sql.like "grp%".toList (lowerAin row.ain)

namespace Migration0007

/-- Migration 0007: groups are not active. -/
def upgrade (devices : List DeviceRow) : List DeviceRow :=
  let before := Sql.count (fun row => likeGrp row && row.isActive) devices
  if 0 < before then Sql.update likeGrp (fun row => { row with isActive := false }) devices else devices

end Migration0007

namespace Migration0008

/-- `lower(ain) NOT LIKE 'grp%' AND ain != '' AND is_active = false`. -/
def wronglyDeactivated (row : DeviceRow) : Bool := !likeGrp row && row.ain != "" && !row.isActive

/-- Migration 0008: what is no group is active. -/
def upgrade (devices : List DeviceRow) : List DeviceRow :=
  let before := Sql.count wronglyDeactivated devices
  if 0 < before then Sql.update wronglyDeactivated (fun row => { row with isActive := true }) devices else devices

end Migration0008

/-! ## What the migrations are about -/

/-- What `ain !~ '^[0-9 ]+$'` took for a group: a character is neither a digit nor a space. -/
def onceTakenForGroup (ain : String) : Bool := ain.toList.any fun c => !(c.isDigit || c = ' ')

/-- Of one row: the groups end inactive, the other rows that were taken for groups end active, and nothing else
    changes. -/
structure RowRepaired (old new : DeviceRow) : Prop where
  frame : new = { old with isActive := new.isActive }
  group : isFritzGroupAin old.ain = true → new.isActive = false
  device : isFritzGroupAin old.ain = false → onceTakenForGroup old.ain = true → new.isActive = true
  other : isFritzGroupAin old.ain = false → onceTakenForGroup old.ain = false → new.isActive = old.isActive

/-- Both migrations, one after the other. -/
def upgradeBoth (devices : List DeviceRow) : List DeviceRow := Migration0008.upgrade (Migration0007.upgrade devices)

/-- Every row is repaired, and running both again changes nothing. -/
structure Repaired (devices : List DeviceRow) : Prop where
  rows : List.Forall₂ RowRepaired devices (upgradeBoth devices)
  again : upgradeBoth (upgradeBoth devices) = upgradeBoth devices

/-- A group is one to SQL as well, or its AIN is empty and it is inactive already; and what neither is a group nor
    was ever taken for one is active. -/
structure RowSound (row : DeviceRow) : Prop where
  group : isFritzGroupAin row.ain = true → likeGrp row = true ∨ row.ain = "" ∧ row.isActive = false
  other : isFritzGroupAin row.ain = false → onceTakenForGroup row.ain = false → row.isActive = true

/-! ## The two migrations as one -/

/-- What becomes of a row. -/
def repaired (row : DeviceRow) : DeviceRow :=
  if likeGrp row then { row with isActive := false }
  else if row.ain = "" then row
  else { row with isActive := true }

theorem upgrade0007_eq (devices : List DeviceRow) :
    Migration0007.upgrade devices = Sql.update likeGrp (fun row => { row with isActive := false }) devices := by
  refine Sql.update_if_counted fun row _ hgrp hcounted => ?_
  rw [hgrp, Bool.true_and] at hcounted
  rw [← hcounted]

theorem upgrade0008_eq (devices : List DeviceRow) :
    Migration0008.upgrade devices =
      Sql.update Migration0008.wronglyDeactivated (fun row => { row with isActive := true }) devices := by
  refine Sql.update_if_counted fun row _ hwrong hcounted => ?_
  rw [hwrong] at hcounted
  cases hcounted

theorem upgradeBoth_eq (devices : List DeviceRow) : upgradeBoth devices = devices.map repaired := by
  rw [upgradeBoth, upgrade0007_eq, upgrade0008_eq, Sql.update, Sql.update, List.map_map]
  refine List.map_congr_left fun row _ => ?_
  unfold repaired Migration0008.wronglyDeactivated
  dsimp only [Function.comp_apply]
  by_cases hgrp : likeGrp row = true
  · have hsame : likeGrp { row with isActive := false } = true := hgrp
    simp [hgrp, hsame]
  · by_cases hain : row.ain = ""
    · simp [hgrp, hain]
    · cases hactive : row.isActive with
      | false => simp [hgrp, hain, hactive]
      | true =>
        simp only [hgrp, hain, hactive, Bool.false_eq_true, if_false, Bool.not_true, Bool.and_false]
        rw [← hactive]

theorem repaired_repaired (row : DeviceRow) : repaired (repaired row) = repaired row := by
  have hain : (repaired row).ain = row.ain := by
    unfold repaired
    split
    · rfl
    split <;> rfl
  have hgrp : likeGrp (repaired row) = likeGrp row := by
    rw [likeGrp, hain, likeGrp]
  rw [repaired, hgrp, hain]
  unfold repaired
  split
  · rfl
  split <;> rfl

/-! ## Groups to Python and to SQL -/

theorem likeGrp_eq (row : DeviceRow) : likeGrp row = "grp".toList.isPrefixOf (lowerAin row.ain) := by
  have hpattern : "grp%".toList = "grp".toList ++ ['%'] := by decide
  rw [likeGrp, hpattern, Sql.like_beginning (by decide)]

theorem toLower_of_not_upper {c : Char} (h : ¬ (65 ≤ c.toNat ∧ c.toNat ≤ 90)) : c.toLower = c := by
  refine dif_neg ?_
  rintro ⟨hlow, hhigh⟩
  exact h ⟨UInt32.le_iff_toNat_le.mp hlow, UInt32.le_iff_toNat_le.mp hhigh⟩

/-- `lower` and `str.lower` agree on the letters of `grp`. -/
theorem isPrefixOf_lower {start : List Char} (h : ∀ c ∈ start, c.toNat < 128 ∧ c ≠ 'k') (cs : List Char) :
    start.isPrefixOf (cs.map fun c => if c.toNat = 8490 then 'k' else c.toLower) =
      start.isPrefixOf (cs.map Char.toLower) := by
  induction start generalizing cs with
  | nil => rfl
  | cons p start ih =>
    obtain ⟨hp, hrest⟩ := List.forall_mem_cons.mp h
    cases cs with
    | nil => rfl
    | cons c cs =>
      rw [List.map_cons, List.map_cons, List.isPrefixOf, List.isPrefixOf, ih hrest]
      split
      · next hkelvin =>
        have hne : p ≠ c := by
          rintro rfl
          omega
        rw [toLower_of_not_upper (by omega), beq_eq_false_iff_ne.mpr hp.2, beq_eq_false_iff_ne.mpr hne]
      · rfl

theorem not_isSpace_of_toLower {c : Char} (h : c.toLower ∈ "grp".toList) : Numeral.isSpace c = false := by
  by_contra hspace
  have hupper : ¬ (65 ≤ c.toNat ∧ c.toNat ≤ 90) := by
    simp only [Numeral.isSpace, Numeral.isSeparator, Bool.not_eq_false, Bool.or_eq_true, Bool.and_eq_true,
      decide_eq_true_eq, List.contains_eq_mem, List.mem_cons, List.not_mem_nil, or_false] at hspace
    omega
  rw [toLower_of_not_upper hupper] at h
  have hletters : ("grp".toList.all fun letter => decide (Numeral.isSpace letter = false)) = true := by decide
  exact hspace (of_decide_eq_true (List.all_eq_true.mp hletters _ h))

/-- A beginning without blanks is still there when the blanks around the text are taken off. -/
theorem isPrefix_strip {start cs : List Char} (hne : start ≠ []) (hspace : ∀ c ∈ start, Numeral.isSpace c = false)
    (h : start <+: cs) : start <+: Numeral.strip Numeral.isSpace cs := by
  obtain ⟨rest, rfl⟩ := h
  have hstrip : Numeral.strip Numeral.isSpace (start ++ rest) =
      ((start ++ rest).dropWhile Numeral.isSpace).rdropWhile Numeral.isSpace := rfl
  have hfirst : (start ++ rest).dropWhile Numeral.isSpace = start ++ rest := by
    obtain ⟨c, cs, rfl⟩ := List.exists_cons_of_ne_nil hne
    exact List.dropWhile_cons_of_neg (Bool.eq_false_iff.mp (hspace c (List.mem_cons_self ..)))
  rw [hstrip, hfirst]
  clear hstrip hfirst
  induction rest using List.reverseRecOn with
  | nil =>
    rw [List.append_nil, List.rdropWhile_eq_self_iff.mpr fun hl => ?_]
    exact Bool.eq_false_iff.mp (hspace _ (List.getLast_mem hl))
  | append_singleton rest c ih =>
    rw [← List.append_assoc, List.rdropWhile_concat]
    split
    · exact ih
    · rw [List.append_assoc]
      exact List.prefix_append _ _

/-- What SQL takes for a group is one. -/
theorem group_of_likeGrp {row : DeviceRow} (h : likeGrp row = true) : isFritzGroupAin row.ain = true := by
  rw [likeGrp_eq, List.isPrefixOf_iff_prefix] at h
  obtain ⟨start, hstart, hlower⟩ : ∃ start, start <+: row.ain.toList ∧ start.map Char.toLower = "grp".toList := by
    refine ⟨row.ain.toList.take 3, List.take_prefix _ _, ?_⟩
    rw [List.prefix_iff_eq_take] at h
    rw [h, lowerAin, List.map_take]
    rfl
  have hspace : ∀ c ∈ start, Numeral.isSpace c = false := fun c hc =>
    not_isSpace_of_toLower (hlower ▸ List.mem_map_of_mem hc)
  have hne : start ≠ [] := by
    rintro rfl
    cases hlower
  have hkept : "grp".toList <+: (Numeral.strip Numeral.isSpace row.ain.toList).map Char.toLower :=
    hlower ▸ (isPrefix_strip hne hspace hstart).map Char.toLower
  have hprefix : "grp".toList.isPrefixOf (lowerText (stripText row.ain)) = true := by
    have htext : (stripText row.ain).toList = Numeral.strip Numeral.isSpace row.ain.toList := String.toList_ofList
    have hletters : ("grp".toList.all fun letter => decide (letter.toNat < 128 ∧ letter ≠ 'k')) = true := by decide
    have hplain : ∀ letter ∈ "grp".toList, letter.toNat < 128 ∧ letter ≠ 'k' := fun letter hletter =>
      of_decide_eq_true (List.all_eq_true.mp hletters letter hletter)
    rw [lowerText, htext, isPrefixOf_lower hplain, List.isPrefixOf_iff_prefix]
    exact hkept
  rw [isFritzGroupAin, hprefix, Bool.or_true]

theorem group_of_empty {row : DeviceRow} (h : row.ain = "") : isFritzGroupAin row.ain = true := by
  rw [h]
  decide

/-! ## The rows -/

theorem rowRepaired_iff (row : DeviceRow) : RowRepaired row (repaired row) ↔ RowSound row := by
  constructor
  · intro h
    constructor
    · intro hgroup
      have hinactive := h.group hgroup
      by_cases hgrp : likeGrp row = true
      · exact Or.inl hgrp
      · rw [repaired, if_neg hgrp] at hinactive
        split at hinactive
        · next hain => exact Or.inr ⟨hain, hinactive⟩
        · cases hinactive
    · intro hgroup hpattern
      have hkept := h.other hgroup hpattern
      rw [repaired, if_neg fun hgrp => ?_, if_neg fun hain => ?_] at hkept
      · exact hkept.symm
      · rw [group_of_empty hain] at hgroup
        cases hgroup
      · rw [group_of_likeGrp hgrp] at hgroup
        cases hgroup
  · intro h
    have hdevice : isFritzGroupAin row.ain = false → (repaired row).isActive = true := by
      intro hgroup
      rw [repaired, if_neg fun hgrp => ?_, if_neg fun hain => ?_]
      · rw [group_of_empty hain] at hgroup
        cases hgroup
      · rw [group_of_likeGrp hgrp] at hgroup
        cases hgroup
    constructor
    · unfold repaired
      split
      · rfl
      split <;> rfl
    · intro hgroup
      unfold repaired
      split
      · rfl
      · next hgrp =>
        obtain ⟨hain, hinactive⟩ := (h.group hgroup).resolve_left hgrp
        rw [if_pos hain, hinactive]
    · exact fun hgroup _ => hdevice hgroup
    · exact fun hgroup hpattern => (hdevice hgroup).trans (h.other hgroup hpattern).symm

/-- The migrations repair just the tables whose rows are all sound. -/
theorem repaired_iff_sound (devices : List DeviceRow) : Repaired devices ↔ ∀ row ∈ devices, RowSound row := by
  have hrows : List.Forall₂ RowRepaired devices (upgradeBoth devices) ↔ ∀ row ∈ devices, RowSound row := by
    rw [upgradeBoth_eq, List.forall₂_map_right_iff, List.forall₂_same]
    exact forall₂_congr fun row _ => rowRepaired_iff row
  have hagain : upgradeBoth (upgradeBoth devices) = upgradeBoth devices := by
    rw [upgradeBoth_eq, upgradeBoth_eq, List.map_map]
    exact List.map_congr_left fun row _ => repaired_repaired row
  constructor
  · intro h
    exact hrows.mp h.rows
  · intro h
    exact ⟨hrows.mpr h, hagain⟩

/-- A thermostat that discovery no longer finds is activated. -/
theorem missing_thermostat_reactivated :
    ¬ Repaired [{ id := 7, ain := "11630 0206488", name := "Heizung", deviceType := "thermostat", isActive := false,
                  createdAt := 0, updatedAt := 0 }] := by
  rintro ⟨hrows, -⟩
  obtain ⟨hrow, -⟩ := List.forall₂_cons.mp hrows
  have hkept := hrow.other (by decide) (by decide)
  revert hkept
  decide

end SmartHome.Devices
