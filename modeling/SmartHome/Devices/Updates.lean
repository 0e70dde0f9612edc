import SmartHome.Devices.Table
import SmartHome.Lib.OrmTransaction

/-! # Updates of a device

`update_device` (`app/devices/service.py`), and what it makes of the table. -/

namespace SmartHome.Devices
open Orm

/-- The body of an update; what is not given stays. -/
structure DeviceUpdate where
  name : Option String := none
  location : Option String := none
  isActive : Option Bool := none
  isFavorite : Option Bool := none
  displayOrder : Option Int := none

/-- The assignments of `update_device`: a field that is missing is left alone. -/
def DeviceUpdate.apply (data : DeviceUpdate) (row : DeviceRow) : DeviceRow :=
  { row with
    name := data.name.getD row.name
    location := data.location.or row.location
    isActive := data.isActive.getD row.isActive
    isFavorite := data.isFavorite.getD row.isFavorite
    displayOrder := data.displayOrder.getD row.displayOrder }

namespace DeviceRepository

/-- `DeviceRepository.get_by_id`. -/
def getById (session : SessionId) (deviceId : Uuid) : Py World (Option Ref) := do
  let result ← select mapper session (List.filter fun row => row.id == deviceId)
  scalarOneOrNone mapper result

/-- `DeviceRepository.update`. -/
def update (session : SessionId) (device : Ref) : Py World Ref := do
  flush mapper session
  refresh mapper session device
  pure device

end DeviceRepository

namespace DeviceService

/-- `DeviceService.get_device`. -/
def getDevice (session : SessionId) (deviceId : Uuid) : Py World Ref := do
  match ← DeviceRepository.getById session deviceId with
  | none => Eff.raise (.app (.notFound s!"Device {Uuid.text deviceId} not found."))
  | some device => pure device

/-- `flushed` is the clock at the flush. -/
def updateDevice (session : SessionId) (flushed : DateTime) (deviceId : Uuid) (data : DeviceUpdate) : Py World Ref := do
  let device ← getDevice session deviceId
  assign device (touch flushed data.apply)
  DeviceRepository.update session device

variable {session : SessionId} {w t : World}

theorem getDevice_within (deviceId : Uuid) : Eff.Keeps (Within session) (getDevice session deviceId) := by
  have hget : Eff.Keeps (Within session) (DeviceRepository.getById session deviceId) :=
    .bind (R := Within session) Within.trans (select_within _) scalarOneOrNone_within
  refine .bind (R := Within session) Within.trans hget fun found => ?_
  cases found with
  | none => exact .raise (Within.refl session) _
  | some device => exact .pure (Within.refl session) _

/-- An update writes nothing that is committed. -/
theorem updateDevice_within (flushed : DateTime) (deviceId : Uuid) (data : DeviceUpdate) :
    Eff.Keeps (Within session) (updateDevice session flushed deviceId data) := by
  refine .bind (R := Within session) Within.trans (getDevice_within deviceId) fun device => ?_
  exact .bind (R := Within session) Within.trans (assign_within _ _) fun _ => flush_refresh_within device device

/-- `get_device` finds the device's row, or raises `NotFoundError`. -/
theorem getDevice_ok {deviceId : Uuid} {r : Ref} (h : Synced mapper session w)
    (hrun : getDevice session deviceId w = (.ok r, t)) :
    Synced mapper session t ∧ (t.session session).rows = (w.session session).rows ∧
      ∃ row ∈ (w.session session).rows, row.id = deviceId ∧ Holds session t r row := by
  obtain ⟨found, u, hget, hrest⟩ := Eff.bind_eq_ok.mp hrun
  obtain ⟨hsynced, hrows, ⟨rfl, -⟩ | ⟨r', row, hrow, rfl, hid, hholds⟩⟩ := lookup_synced h hget
  · cases hrest
  · cases hrest
    exact ⟨hsynced, hrows, row, hrow, beq_iff_eq.mp hid, hholds⟩

/-- An update rewrites the row of its device. -/
theorem updateDevice_ok {flushed : DateTime} {deviceId : Uuid} {data : DeviceUpdate} {r : Ref}
    (h : Synced mapper session w) (hrun : updateDevice session flushed deviceId data w = (.ok r, t)) :
    Synced mapper session t ∧ ∃ row ∈ (w.session session).rows, row.id = deviceId ∧
      (t.session session).rows = (w.session session).rows.map (editing (touch flushed data.apply) id [row]) := by
  obtain ⟨device, u, hget, hrest⟩ := Eff.bind_eq_ok.mp hrun
  obtain ⟨_, v, hassign, hrest⟩ := Eff.bind_eq_ok.mp hrest
  obtain ⟨_, x, hflush, hrest⟩ := Eff.bind_eq_ok.mp hrest
  obtain ⟨_, y, hrefresh, hpure⟩ := Eff.bind_eq_ok.mp hrest
  cases hpure
  obtain ⟨hsynced, hrows, row, hrow, hid, hholds⟩ := getDevice_ok h hget
  have hkey : ∀ row, mapper.key (touch flushed data.apply row) = mapper.key row := touch_id fun _ => rfl
  obtain ⟨hupdated, -, htable, -⟩ := update_synced mapper_symmetric hkey hsynced hholds hassign hflush hrefresh
  exact ⟨hupdated, row, hrow, hid, by rw [htable, hrows]⟩

end DeviceService
end SmartHome.Devices
