import SmartHome.Migrations.Runs
import Mathlib.Tactic.IntervalCases

/-! # The repair of the devices by a command

`alembic upgrade head` runs the two scripts that deactivate and reactivate devices once each, and then never again. -/

namespace SmartHome.Migrations
open Ddl Revisions
open SmartHome.Devices (DeviceRow upgradeBoth)

/-- What the scripts know of a device. -/
structure Represents (row : Row) (device : DeviceRow) : Prop where
  ain : row "ain" = some device.ain
  isActive : row "is_active" = some (toString device.isActive)

namespace Represents
variable {row : Row} {device : DeviceRow} (h : Represents row device)
include h

theorem likeGrp : likeGrp row = Devices.likeGrp device := by
  rw [Migrations.likeGrp, h.ain, Option.any_some]
  rfl

theorem isActive_beq (active : Bool) : (row "is_active" == some (toString active)) = (device.isActive == active) := by
  rw [h.isActive]
  cases device.isActive <;> cases active <;> decide

theorem wronglyDeactivated : ReactivateThirdPartyDevices.wronglyDeactivated row =
    Devices.Migration0008.wronglyDeactivated device := by
  rw [ReactivateThirdPartyDevices.wronglyDeactivated, notLikeGrp, h.ain, Option.any_some, Option.any_some,
    show (some "false" : Option String) = some (toString false) from rfl, h.isActive_beq, beq_false]
  rfl

theorem update (active : Bool) : Represents (Function.update row "is_active" (some (toString active)))
    { device with isActive := active } where
  ain := (Function.update_of_ne (by decide) _ _).trans h.ain
  isActive := Function.update_self _ _ _

end Represents

section Devices
variable {rows written : List Row} {devices : List DeviceRow}

theorem represents_of_values (h : List.Forall₂ Represents rows devices)
    (hain : (written.map fun row => row "ain") = rows.map fun row => row "ain")
    (hactive : (written.map fun row => row "is_active") = rows.map fun row => row "is_active") :
    List.Forall₂ Represents written devices := by
  induction h generalizing written with
  | nil =>
    rw [List.map_nil, List.map_eq_nil_iff] at hain
    subst hain
    exact .nil
  | cons hrow hrest ih =>
    cases written with
    | nil => cases hain
    | cons row' written =>
      simp only [List.map_cons, List.cons.injEq] at hain hactive
      exact .cons ⟨hain.1.trans hrow.ain, hactive.1.trans hrow.isActive⟩ (ih hain.2 hactive.2)

/-- An UPDATE of `is_active`, on the rows and on the devices they represent. -/
theorem represents_update {p : Row → Bool} {q : DeviceRow → Bool} (active : Bool)
    (hp : ∀ {row device}, Represents row device → p row = q device) (h : List.Forall₂ Represents rows devices) :
    List.Forall₂ Represents
      (rows.map fun row => if p row then Function.update row "is_active" (some (toString active)) else row)
      (Sql.update q (fun device => { device with isActive := active }) devices) := by
  induction h with
  | nil => exact .nil
  | cons hrow hrest ih =>
    refine .cons ?_ ih
    dsimp only
    rw [hp hrow]
    split
    · exact hrow.update active
    · exact hrow

theorem any_represented {p : Row → Bool} {q : DeviceRow → Bool}
    (hp : ∀ {row device}, Represents row device → p row = q device) (h : List.Forall₂ Represents rows devices) :
    rows.any p = decide (0 < Sql.count q devices) := by
  rw [Bool.eq_iff_iff, decide_eq_true_iff, Sql.count_pos]
  induction h with
  | nil => simp
  | cons hrow hrest ih => simp [hp hrow, ih]

end Devices

section Scripts
variable {rows written : Rows} {devices : List DeviceRow}

theorem onRows_update {table column value : String} {reads : List String} {counted condition : Row → Bool}
    (hrun : onRows [.update table reads counted condition column value] rows = some written) :
    written table = if (rows table).any counted then
        (rows table).map fun row => if condition row then Function.update row column (some value) else row
      else rows table := by
  obtain ⟨between, hstatement, hrest⟩ := onRows_cons.mp hrun
  obtain ⟨new, hnew, rfl⟩ := Statement.onRows_eq_some.mp hstatement
  cases hrest
  rw [Statement.onTable, Statement.table] at hnew
  rw [Statement.table, Function.update_self]
  split at hnew <;> cases hnew
  · next hany => rw [if_pos hany]
  · next hany => rw [if_neg hany]

theorem deactivate_represents (h : List.Forall₂ Represents (rows "devices") devices)
    (hrun : onRows DeactivateVirtualGroupDevices.upgrade rows = some written) :
    List.Forall₂ Represents (written "devices") (Devices.Migration0007.upgrade devices) := by
  have hcounted : (rows "devices").any (fun row => likeGrp row && row "is_active" == some "true") =
      decide (0 < Sql.count (fun device => Devices.likeGrp device && device.isActive) devices) := by
    refine any_represented (fun hrow => ?_) h
    rw [hrow.likeGrp, show (some "true" : Option String) = some (toString true) from rfl, hrow.isActive_beq, beq_true]
  rw [onRows_update hrun, hcounted, Devices.Migration0007.upgrade]
  simp only [decide_eq_true_eq]
  split
  · exact represents_update false (fun hrow => hrow.likeGrp) h
  · exact h

theorem reactivate_represents (h : List.Forall₂ Represents (rows "devices") devices)
    (hrun : onRows ReactivateThirdPartyDevices.upgrade rows = some written) :
    List.Forall₂ Represents (written "devices") (Devices.Migration0008.upgrade devices) := by
  have hcounted : (rows "devices").any ReactivateThirdPartyDevices.wronglyDeactivated =
      decide (0 < Sql.count Devices.Migration0008.wronglyDeactivated devices) :=
    any_represented (fun hrow => hrow.wronglyDeactivated) h
  rw [onRows_update hrun, hcounted, Devices.Migration0008.upgrade]
  simp only [decide_eq_true_eq]
  split
  · exact represents_update true (fun hrow => hrow.wronglyDeactivated) h
  · exact h

end Scripts

/-- What the script after the revision `i` makes of the devices. -/
def scriptOnDevices : ℕ → List DeviceRow → List DeviceRow
  | 6 => Devices.Migration0007.upgrade
  | 7 => Devices.Migration0008.upgrade
  | _ => fun devices => devices

/-- What `n` scripts from the revision `start` on make of them. -/
def upgraded (start : ℕ) (devices : List DeviceRow) : ℕ → List DeviceRow
  | 0 => devices
  | n + 1 => scriptOnDevices (start + n) (upgraded start devices n)

theorem scriptOnDevices_represents {i : ℕ} (hi : i < migrations.length) (hlow : 2 ≤ i) {rows written : Rows}
    {devices : List DeviceRow} (h : List.Forall₂ Represents (rows "devices") devices)
    (hrun : onRows migrations[i].upgrade rows = some written) :
    List.Forall₂ Represents (written "devices") (scriptOnDevices i devices) := by
  by_cases h6 : i = 6
  · subst h6
    exact deactivate_represents h hrun
  by_cases h7 : i = 7
  · subst h7
    exact reactivate_represents h hrun
  have hspares : ∀ i (hi : i < migrations.length), 2 ≤ i → i ≠ 6 → i ≠ 7 →
      spares "devices" "ain" migrations[i].upgrade = true ∧
        spares "devices" "is_active" migrations[i].upgrade = true := by
    decide
  obtain ⟨hain, hactive⟩ := hspares i hi hlow h6 h7
  have hsame : scriptOnDevices i devices = devices := by
    rw [scriptOnDevices]
    · exact h6
    · exact h7
  rw [hsame]
  exact represents_of_values h (values_of_spares hain hrun) (values_of_spares hactive hrun)

/-- The store has the tables of the revision, and its devices are what the scripts since `start` made of them. -/
structure DevicesAt (others : Schema) (start : ℕ) (devices : List DeviceRow) (i : ℕ) (s : Store) :
    Prop where
  tables : TablesAt others i s
  rows : List.Forall₂ Represents (s.rows "devices") (upgraded start devices (i - start))

theorem soundUp_devices {others : Schema} (h : Foreign names others) {start : ℕ} (hstart : 2 ≤ start)
    (devices : List DeviceRow) : SoundUp scripts start (DevicesAt others start devices) where
  linear := linear_scripts
  upgrade i hi s hlow hs := by
    have hi' : i < migrations.length := List.length_map Migration.script ▸ hi
    obtain ⟨t, hrun, ht, hrows⟩ := upgrade_tables h hi' hs.tables
    refine ⟨t, (congrFun (scripts_upgrade hi hi') s).trans hrun, ht, ?_⟩
    have hnext := scriptOnDevices_represents hi' (hstart.trans hlow) hs.rows hrows
    rw [Nat.succ_sub hlow, upgraded, Nat.add_sub_of_le hlow]
    exact hnext

/-- `alembic upgrade head` repairs the devices on the way from a revision before the repair, and makes no device active
    or inactive in a database that has been repaired. -/
theorem upgradeHead_repairs {others : Schema} (h : Foreign names others) {i : ℕ} {v : Versioned Store}
    (hv : Standing scripts 2 (TablesAt others) i v) {devices : List DeviceRow}
    (hrows : List.Forall₂ Represents (v.store.rows "devices") devices) :
    ∃ w, execute scripts v .upgradeHead = some w ∧ w.version = some "0008" ∧
      List.Forall₂ Represents (w.store.rows "devices")
        (if i ≤ 6 then upgradeBoth devices
          else if i = 7 then Devices.Migration0008.upgrade devices
          else devices) := by
  have hsound := soundUp_devices h hv.above devices
  have hstanding : Standing scripts i (DevicesAt others i devices) i v :=
    ⟨Nat.le_refl i, hv.below, hv.version, hv.store, by rw [Nat.sub_self]; exact hrows⟩
  obtain ⟨w, hw, hlast⟩ := hsound.execute_upgradeHead hstanding
  refine ⟨w, hw, hlast.version, ?_⟩
  have hscripts : upgraded i devices (scripts.length - i) = if i ≤ 6 then upgradeBoth devices
      else if i = 7 then Devices.Migration0008.upgrade devices else devices := by
    have hlow := hv.above
    have hhigh : i ≤ 8 := hv.below
    interval_cases i <;> rfl
  rw [← hscripts]
  exact hlast.store.rows

/-- A plug at a gateway, which an earlier form of the script 0007 deactivated. -/
def plug : DeviceRow :=
  { id := 3, ain := "Z28DBA7FFFE6000D0", name := "TRETAKT", deviceType := "switch", isActive := false
    createdAt := 0, updatedAt := 0 }

/-- A database in revision 0007 with a plug that was deactivated. -/
def deactivated : Versioned Store :=
  { version := some "0007"
    store :=
      { schema := schemaAt 7 ++ [alembicVersion]
        rows := fun table =>
          if table = "devices" then
            [fun column =>
              if column = "ain" then some plug.ain
              else if column = "is_active" then some "false"
              else none]
          else [] } }

theorem plug_repaired : ∃ w, execute scripts deactivated .upgradeHead = some w ∧ w.version = some "0008" ∧
    List.Forall₂ Represents (w.store.rows "devices") [{ plug with isActive := true }] := by
  have hv : Standing scripts 2 (TablesAt [alembicVersion]) 7 deactivated := ⟨by decide, by decide, rfl, rfl⟩
  have hrows : List.Forall₂ Represents (deactivated.store.rows "devices") [plug] := .cons ⟨rfl, rfl⟩ .nil
  have hupgraded : Devices.Migration0008.upgrade [plug] = [{ plug with isActive := true }] := by decide
  rw [← hupgraded]
  exact upgradeHead_repairs alembicVersion_foreign hv hrows

end SmartHome.Migrations
