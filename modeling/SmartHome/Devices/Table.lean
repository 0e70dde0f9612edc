import SmartHome.Devices.Service
import SmartHome.Lib.OrmSync

/-! # The devices table

What discovery does to the table `devices` (`app/devices/models.py`, `app/devices/repository.py`,
`migrations/versions/0002_devices.py`). -/

namespace SmartHome.Devices
open Orm

/-- A row of the table: the device and its time stamps. -/
structure DeviceRow extends Device where
  createdAt : DateTime
  updatedAt : DateTime
  deriving DecidableEq

/-- `ain` is unique, and the texts are bounded. -/
def mapper : Orm.Mapper Uuid DeviceRow PyError where
  key row := row.id
  clash a b := a.ain == b.ain
  fits row :=
    row.ain.length ≤ 64 && row.name.length ≤ 255 && row.deviceType.length ≤ 32 &&
      (row.location.all fun location => location.length ≤ 255) && row.firmwareVersion.all fun version => version.length ≤ 32
  error
    | .integrity => .integrityError
    | .data => .external
    | .invalidRequest => .invalidRequest
    | .stale => .staleData

/-- The table with its sessions. -/
abbrev World := Orm.World DeviceRow PyError

/-- An UPDATE sets `updated_at` too; an object on which nothing changed is not written. -/
def touch (flushed : DateTime) (f : DeviceRow → DeviceRow) (row : DeviceRow) : DeviceRow :=
  if f row = row then row else { f row with updatedAt := flushed }

/-- The columns that discovery writes on a device it found again. -/
def DeviceRow.found (device row : DeviceRow) : DeviceRow :=
  { row with
    name := device.name
    deviceType := device.deviceType
    capabilities := device.capabilities
    firmwareVersion := device.firmwareVersion
    lastSeen := device.lastSeen
    isActive := true }

/-! ## `DeviceRepository` -/

namespace DeviceRepository

/-- `DeviceRepository.get_by_ain`. -/
def getByAin (session : SessionId) (ain : String) : Py World (Option Ref) := do
  let result ← select mapper session (List.filter fun row => row.ain == ain)
  scalarOneOrNone mapper result

/-- `DeviceRepository.upsert`: what is there gets the fields of the discovery only. -/
def upsert (session : SessionId) (flushed : DateTime) (device : DeviceRow) : Py World Ref := do
  match ← getByAin session device.ain with
  | none =>
    let r ← add session device
    flush mapper session
    refresh mapper session r
    pure r
  | some existing =>
    assign existing (touch flushed device.found)
    flush mapper session
    refresh mapper session existing
    pure existing

/-- The flush stamps each row as it writes it. -/
def deactivate (flushed : Uuid → DateTime) (row : DeviceRow) : DeviceRow :=
  touch (flushed row.id) (fun row => { row with isActive := false }) row

/-- `DeviceRepository.deactivate_missing`. -/
def deactivateMissing (session : SessionId) (flushed : Uuid → DateTime) (activeAins : List String) : Py World ℕ := do
  let devices ← select mapper session (List.filter fun row => !activeAins.contains row.ain && row.isActive)
  assignAll (deactivate flushed) devices
  flush mapper session
  pure devices.length

end DeviceRepository

/-! ## Rows -/

theorem mapper_symmetric : mapper.Symmetric := fun _ _ => Bool.beq_comm

theorem collides_of_ain {a b : DeviceRow} (h : a.ain = b.ain) : mapper.collides a b = true := by
  simp [Mapper.collides, mapper, h]

theorem touch_id {flushed : DateTime} {f : DeviceRow → DeviceRow} (h : ∀ row, (f row).id = row.id) (row : DeviceRow) :
    (touch flushed f row).id = row.id := by
  unfold touch
  split
  · rfl
  · exact h row

/-- An UPDATE writes what the assignments say, and the time. -/
theorem touch_eq (flushed : DateTime) (f : DeviceRow → DeviceRow) (row : DeviceRow) :
    ∃ updatedAt, touch flushed f row = { f row with updatedAt } := by
  unfold touch
  split
  · next h => exact ⟨(f row).updatedAt, h.symm⟩
  · exact ⟨flushed, rfl⟩

section
variable {rows : List DeviceRow} (h : mapper.Distinct rows)
include h

theorem eq_of_ain {a b : DeviceRow} (ha : a ∈ rows) (hb : b ∈ rows) (hain : a.ain = b.ain) : a = b := by
  by_contra hne
  have hfree := h.not_collides mapper_symmetric ha hb hne
  rw [collides_of_ain hain] at hfree
  cases hfree

theorem nodup_ains : (rows.map (·.ain)).Nodup := by
  refine List.pairwise_map.mpr (List.Pairwise.imp (fun {a b} hfree hain => ?_) h)
  rw [collides_of_ain hain] at hfree
  cases hfree

end

/-! ## What the calls do to the rows -/

namespace DeviceRepository
variable {session : SessionId} {w t : World}

theorem getByAin_ok {ain : String} {o : Option Ref} (h : Synced mapper session w)
    (hrun : getByAin session ain w = (.ok o, t)) :
    Synced mapper session t ∧ (t.session session).rows = (w.session session).rows ∧
      ((o = none ∧ ∀ row ∈ (w.session session).rows, row.ain ≠ ain) ∨
        ∃ r, ∃ row ∈ (w.session session).rows, o = some r ∧ row.ain = ain ∧ Holds session t r row) := by
  obtain ⟨hsynced, hrows, hcases⟩ := lookup_synced h hrun
  refine ⟨hsynced, hrows, ?_⟩
  rcases hcases with ⟨rfl, hnone⟩ | ⟨r, row, hrow, rfl, hain, hholds⟩
  · exact Or.inl ⟨rfl, fun row hrow => beq_eq_false_iff_ne.mp (hnone row hrow)⟩
  · exact Or.inr ⟨r, row, hrow, rfl, beq_iff_eq.mp hain, hholds⟩

/-- An upsert adds its row, or writes the columns of discovery into the row that has the AIN. -/
theorem upsert_ok {flushed : DateTime} {device : DeviceRow} {r : Ref} (h : Synced mapper session w)
    (hrun : upsert session flushed device w = (.ok r, t)) :
    Synced mapper session t ∧
      (((∀ row ∈ (w.session session).rows, row.ain ≠ device.ain) ∧
          (t.session session).rows = (w.session session).rows ++ [device]) ∨
        ∃ row ∈ (w.session session).rows, row.ain = device.ain ∧
          (t.session session).rows = (w.session session).rows.map (editing (touch flushed device.found) id [row])) := by
  obtain ⟨existing, u, hget, hrest⟩ := Eff.bind_eq_ok.mp hrun
  obtain ⟨hsynced, hrows, ⟨rfl, hnone⟩ | ⟨r', row, hrow, rfl, hain, hholds⟩⟩ := getByAin_ok h hget
  · obtain ⟨r', v, hadd, hrest⟩ := Eff.bind_eq_ok.mp hrest
    cases hadd
    obtain ⟨_, x, hflush, hrest⟩ := Eff.bind_eq_ok.mp hrest
    obtain ⟨_, y, hrefresh, hpure⟩ := Eff.bind_eq_ok.mp hrest
    cases hpure
    obtain ⟨hadded, -, htable, hnew⟩ := flush_added mapper_symmetric hsynced hflush
    obtain rfl := refresh_synced hadded hnew.1 hrefresh
    exact ⟨hadded, Or.inl ⟨hnone, by rw [htable, hrows]⟩⟩
  · obtain ⟨_, v, hassign, hrest⟩ := Eff.bind_eq_ok.mp hrest
    obtain ⟨_, x, hflush, hrest⟩ := Eff.bind_eq_ok.mp hrest
    obtain ⟨_, y, hrefresh, hpure⟩ := Eff.bind_eq_ok.mp hrest
    cases hpure
    have hkey : ∀ row, mapper.key (touch flushed device.found row) = mapper.key row := touch_id fun _ => rfl
    obtain ⟨hupdated, -, htable, -⟩ := update_synced mapper_symmetric hkey hsynced hholds hassign hflush hrefresh
    exact ⟨hupdated, Or.inr ⟨row, hrow, hain, by rw [htable, hrows]⟩⟩

/-- The rows that are active and not in the list. -/
def isMissing (activeAins : List String) (row : DeviceRow) : Bool := !activeAins.contains row.ain && row.isActive

/-- What becomes of a row. -/
def afterMissing (flushed : Uuid → DateTime) (activeAins : List String) (row : DeviceRow) : DeviceRow :=
  if isMissing activeAins row then deactivate flushed row else row

theorem deactivate_eq (flushed : Uuid → DateTime) (row : DeviceRow) :
    ∃ updatedAt, deactivate flushed row = { row with isActive := false, updatedAt } :=
  touch_eq (flushed row.id) (fun row => { row with isActive := false }) row

theorem deactivateMissing_ok {flushed : Uuid → DateTime} {activeAins : List String} {count : ℕ}
    (h : Synced mapper session w) (hrun : deactivateMissing session flushed activeAins w = (.ok count, t)) :
    Synced mapper session t ∧ count = ((w.session session).rows.filter (isMissing activeAins)).length ∧
      (t.session session).rows = (w.session session).rows.map (afterMissing flushed activeAins) := by
  obtain ⟨rs, u, hselect, hrest⟩ := Eff.bind_eq_ok.mp hrun
  obtain ⟨_, v, hassign, hrest⟩ := Eff.bind_eq_ok.mp hrest
  obtain ⟨_, x, hflush, hpure⟩ := Eff.bind_eq_ok.mp hrest
  cases hpure
  obtain ⟨hsynced, hreads, hforall⟩ := select_synced h (List.filter_subset_self _) hselect
  have hnodup : ((w.session session).rows.filter (isMissing activeAins)).Nodup :=
    (h.distinct.keys.of_map _).filter _
  have hloaded := hforall.imp fun _ _ => Holds.loaded
  obtain ⟨v', hassign', hedited, hsession, -⟩ := assignAll_edited (f := deactivate flushed) hsynced hnodup hloaded
  rw [hassign] at hassign'
  cases hassign'
  have hkey : ∀ row, mapper.key (editing (deactivate flushed) id ((w.session session).rows.filter (isMissing activeAins)) row) =
      mapper.key row := fun row => by
    unfold editing
    split
    · exact touch_id (f := fun row => { row with isActive := false }) (fun _ => rfl) row
    · rfl
  obtain ⟨hflushed, -, htable, -⟩ := flush_edited mapper_symmetric hedited hkey hflush
  refine ⟨hflushed, hforall.length_eq, ?_⟩
  rw [htable, hsession, hreads.table]
  refine List.map_congr_left fun row hrow => ?_
  unfold editing afterMissing
  simp [hrow]

end DeviceRepository
end SmartHome.Devices
