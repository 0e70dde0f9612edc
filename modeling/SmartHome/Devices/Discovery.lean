import Mathlib.Data.Finset.Card
import Mathlib.Data.Finset.Image
import SmartHome.Devices.Table
import SmartHome.Providers.Contract

/-! # Discovery

`discover_and_sync` (`app/devices/service.py`) over the provider and over a session. The loop upserts device
by device, so that of several devices with one AIN the last one stands; what it makes of the table is
`Follows`, which composes over the list. -/

namespace SmartHome
open Orm Fritz

/-- The name of a flag. -/
def DeviceCapability.name : DeviceCapability → String
  | .switch => "SWITCH"
  | .thermostat => "THERMOSTAT"
  | .dimmer => "DIMMER"
  | .powerMeter => "POWER_METER"

/-- `_capabilities_to_list`: the names of the flags, in their order. -/
def capabilitiesToList (capabilities : List DeviceCapability) : List String :=
  ([.switch, .thermostat, .dimmer, .powerMeter].filter fun cap => capabilities.contains cap).map DeviceCapability.name

namespace Devices

/-- What a discovery reports. -/
structure DiscoveryResult where
  discovered : ℕ
  added : ℕ
  updated : ℕ
  deactivated : ℕ
  deriving DecidableEq, Repr

/-- What the sync of one device takes from outside: the clock, a new `uuid4()`, the time of the transaction,
    and the clock at the flush. -/
structure Draw where
  now : DateTime
  id : Uuid
  transaction : DateTime
  flushed : DateTime

/-- What the clock and the database choose in a discovery, device by device. -/
structure Draws where
  device : ℕ → Draw
  deactivated : Uuid → DateTime

/-- The world outside of a provider, and the session's database. -/
structure ServiceState (τ : Type) where
  outside : τ
  db : World

namespace DeviceService
variable {τ R α : Type} (session : SessionId)

/-- A program over the world outside. -/
def outside (m : Py τ α) : Py (ServiceState τ) α := Eff.zoom (·.outside) (fun outside s => { s with outside }) m

/-- A program over the table. -/
def database (m : Py World α) : Py (ServiceState τ) α := Eff.zoom (·.db) (fun db s => { s with db }) m

/-- The row of a device that is added. -/
def discoveredRow (draw : Draw) (info : DeviceInfo) : DeviceRow where
  id := draw.id
  ain := info.ain
  name := info.name
  deviceType := info.deviceType.value
  capabilities := capabilitiesToList info.capabilities
  firmwareVersion := info.firmwareVersion
  lastSeen := if info.isPresent then some draw.now else none
  createdAt := draw.transaction
  updatedAt := draw.transaction

/-- The loop, with the numbers of devices added and updated. -/
def syncDevices (draws : ℕ → Draw) : List DeviceInfo → Py World (ℕ × ℕ)
  | [] => pure (0, 0)
  | info :: infos => do
    let existing ← DeviceRepository.getByAin session info.ain
    let _ ← DeviceRepository.upsert session (draws 0).flushed (discoveredRow (draws 0) info)
    let (added, updated) ← syncDevices (fun i => draws (i + 1)) infos
    pure (if existing.isNone then (added + 1, updated) else (added, updated + 1))

/-- `DeviceService.discover_and_sync`. -/
def discoverAndSync (provider : Provider τ R) (draws : Draws) : Py (ServiceState τ) DiscoveryResult := do
  let devicesInfo ← outside provider.discoverDevices
  let (added, updated) ← database (syncDevices session draws.device devicesInfo)
  let deactivated ← database
    (DeviceRepository.deactivateMissing session draws.deactivated (devicesInfo.map DeviceInfo.ain))
  pure { discovered := devicesInfo.length, added, updated, deactivated }

end DeviceService

/-! ## What the loop makes of the table -/

/-- The row shows what discovery says of the device. -/
structure DeviceRow.Shows (row : DeviceRow) (info : DeviceInfo) : Prop where
  name : row.name = info.name
  deviceType : row.deviceType = info.deviceType.value
  capabilities : row.capabilities = capabilitiesToList info.capabilities
  firmwareVersion : row.firmwareVersion = info.firmwareVersion
  isActive : row.isActive = true

/-- `new` has what the users and the other tables know of `old`. -/
structure DeviceRow.Keeps (old new : DeviceRow) : Prop where
  ain : new.ain = old.ain
  id : new.id = old.id
  location : new.location = old.location
  isFavorite : new.isFavorite = old.isFavorite
  displayOrder : new.displayOrder = old.displayOrder
  createdAt : new.createdAt = old.createdAt

theorem DeviceRow.Keeps.refl (row : DeviceRow) : row.Keeps row := ⟨rfl, rfl, rfl, rfl, rfl, rfl⟩

theorem DeviceRow.Keeps.trans {a b c : DeviceRow} (hab : a.Keeps b) (hbc : b.Keeps c) : a.Keeps c :=
  ⟨hbc.ain.trans hab.ain, hbc.id.trans hab.id, hbc.location.trans hab.location, hbc.isFavorite.trans hab.isFavorite,
    hbc.displayOrder.trans hab.displayOrder, hbc.createdAt.trans hab.createdAt⟩

/-- The AINs of the rows. -/
def ains (rows : List DeviceRow) : Finset String := (rows.map (·.ain)).toFinset

theorem mem_ains {rows : List DeviceRow} {ain : String} : ain ∈ ains rows ↔ ∃ row ∈ rows, row.ain = ain := by
  simp [ains]

/-- The table after the devices of `infos` were upserted, in their order. -/
structure Follows (infos : List DeviceInfo) (old new : List DeviceRow) : Prop where
  ains : ains new = (infos.map DeviceInfo.ain).toFinset ∪ ains old
  shown : ∀ row ∈ new, ∀ info, deviceWith infos row.ain = some info → row.Shows info
  kept : ∀ row ∈ old, ∃ row' ∈ new, row.Keeps row'
  missing : ∀ row : DeviceRow, deviceWith infos row.ain = none → (row ∈ new ↔ row ∈ old)

theorem deviceWith_append (infos infos' : List DeviceInfo) (ain : String) :
    deviceWith (infos ++ infos') ain = (deviceWith infos' ain).or (deviceWith infos ain) := by
  rw [deviceWith, List.reverse_append, List.find?_append]
  rfl

theorem deviceWith_eq_none {infos : List DeviceInfo} {ain : String} :
    deviceWith infos ain = none ↔ ain ∉ infos.map DeviceInfo.ain := by
  simp [deviceWith]

namespace Follows
variable {infos infos' : List DeviceInfo} {s t u : List DeviceRow}

theorem refl (s : List DeviceRow) : Follows [] s s where
  ains := by simp
  shown _ _ _ h := by cases h
  kept row hrow := ⟨row, hrow, .refl row⟩
  missing _ _ := Iff.rfl

/-- The later of two devices with one AIN decides. -/
theorem trans (h : Follows infos s t) (h' : Follows infos' t u) : Follows (infos ++ infos') s u where
  ains := by
    rw [h'.ains, h.ains, List.map_append, List.toFinset_append, ← Finset.union_assoc, Finset.union_comm (List.toFinset _)]
  shown row hrow info hinfo := by
    rw [deviceWith_append] at hinfo
    -- The later part decides if it has the device; otherwise it has left the row alone.
    cases hlater : deviceWith infos' row.ain with
    | some later =>
      rw [hlater, Option.some_or] at hinfo
      cases hinfo
      exact h'.shown row hrow _ hlater
    | none =>
      rw [hlater, Option.none_or] at hinfo
      exact h.shown row ((h'.missing row hlater).mp hrow) info hinfo
  kept row hrow := by
    obtain ⟨mid, hmid, hkept⟩ := h.kept row hrow
    obtain ⟨row', hrow', hkept'⟩ := h'.kept mid hmid
    exact ⟨row', hrow', hkept.trans hkept'⟩
  missing row hnone := by
    rw [deviceWith_append, Option.or_eq_none_iff] at hnone
    exact (h'.missing row hnone.1).trans (h.missing row hnone.2)

end Follows

theorem found_shows (flushed : DateTime) (draw : Draw) (info : DeviceInfo) (row : DeviceRow) :
    (touch flushed (DeviceService.discoveredRow draw info).found row).Shows info := by
  obtain ⟨updatedAt, htouch⟩ := touch_eq flushed (DeviceService.discoveredRow draw info).found row
  rw [htouch]
  exact ⟨rfl, rfl, rfl, rfl, rfl⟩

theorem found_keeps (flushed : DateTime) (device row : DeviceRow) : row.Keeps (touch flushed device.found row) := by
  obtain ⟨updatedAt, htouch⟩ := touch_eq flushed device.found row
  rw [htouch]
  exact ⟨rfl, rfl, rfl, rfl, rfl, rfl⟩

theorem deviceWith_singleton {info info' : DeviceInfo} {ain : String} :
    deviceWith [info] ain = some info' ↔ info.ain = ain ∧ info = info' := by
  rw [deviceWith_cons]
  by_cases hain : info.ain = ain <;> simp [deviceWith, hain]

section
variable {rows : List DeviceRow} {draw : Draw} {info : DeviceInfo}

theorem follows_add (hnew : ∀ row ∈ rows, row.ain ≠ info.ain) :
    Follows [info] rows (rows ++ [DeviceService.discoveredRow draw info]) where
  ains := by
    ext ain
    simp only [mem_ains, Finset.mem_union, List.mem_append, List.mem_singleton, List.map_cons, List.map_nil,
      List.mem_toFinset]
    constructor
    · rintro ⟨row, hrow | rfl, rfl⟩
      · exact Or.inr ⟨row, hrow, rfl⟩
      · exact Or.inl rfl
    · rintro (rfl | ⟨row, hrow, rfl⟩)
      · exact ⟨_, Or.inr rfl, rfl⟩
      · exact ⟨row, Or.inl hrow, rfl⟩
  shown row hrow info' hinfo := by
    obtain ⟨hain, rfl⟩ := deviceWith_singleton.mp hinfo
    rcases List.mem_append.mp hrow with hrow | hrow
    · exact absurd hain.symm (hnew row hrow)
    · rw [List.mem_singleton.mp hrow]
      exact ⟨rfl, rfl, rfl, rfl, rfl⟩
  kept row hrow := ⟨row, List.mem_append_left _ hrow, .refl row⟩
  missing row hnone := by
    have hother : row ≠ DeviceService.discoveredRow draw info := by
      rintro rfl
      exact deviceWith_eq_none.mp hnone (List.mem_singleton_self _)
    simp [hother]

theorem follows_found {flushed : DateTime} {old : DeviceRow} (h : mapper.Distinct rows) (hold : old ∈ rows)
    (hain : old.ain = info.ain) :
    Follows [info] rows (rows.map (editing (touch flushed (DeviceService.discoveredRow draw info).found) id [old])) := by
  have hself : editing (touch flushed (DeviceService.discoveredRow draw info).found) id [old] old =
      touch flushed (DeviceService.discoveredRow draw info).found old := if_pos (List.mem_singleton_self old)
  have hother : ∀ row, row ≠ old →
      editing (touch flushed (DeviceService.discoveredRow draw info).found) id [old] row = row := fun row hne =>
    if_neg (by simpa using hne)
  have hkeeps : ∀ row : DeviceRow,
      row.Keeps (editing (touch flushed (DeviceService.discoveredRow draw info).found) id [old] row) :=
    fun row => by
      by_cases hrow : row = old
      · rw [hrow, hself]
        exact found_keeps _ _ _
      · rw [hother row hrow]
        exact .refl row
  constructor
  · ext ain
    simp only [mem_ains, Finset.mem_union, List.mem_map, List.map_cons, List.map_nil, List.mem_toFinset,
      List.mem_singleton]
    constructor
    · rintro ⟨_, ⟨row, hrow, rfl⟩, rfl⟩
      exact Or.inr ⟨row, hrow, (hkeeps row).ain.symm⟩
    · rintro (rfl | ⟨row, hrow, rfl⟩)
      · exact ⟨_, ⟨old, hold, rfl⟩, (hkeeps old).ain.trans hain⟩
      · exact ⟨_, ⟨row, hrow, rfl⟩, (hkeeps row).ain⟩
  · intro row' hrow' info' hinfo
    obtain ⟨hain', rfl⟩ := deviceWith_singleton.mp hinfo
    obtain ⟨row, hrow, rfl⟩ := List.mem_map.mp hrow'
    rw [(hkeeps row).ain] at hain'
    rw [eq_of_ain h hrow hold (hain'.symm.trans hain.symm), hself]
    exact found_shows _ _ _ _
  · intro row hrow
    exact ⟨_, List.mem_map_of_mem hrow, hkeeps row⟩
  · intro row hnone
    -- A row with another AIN is not the one that was written.
    have hne : ∀ x : DeviceRow, x.ain = row.ain → x ≠ old := by
      rintro x hx rfl
      exact deviceWith_eq_none.mp hnone (List.mem_singleton.mpr (hx.symm.trans hain))
    rw [List.mem_map]
    constructor
    · rintro ⟨x, hx, hrow⟩
      have hxrow := hother x (hne x (by rw [← hrow, (hkeeps x).ain]))
      rwa [← hrow, hxrow]
    · intro hrow
      exact ⟨row, hrow, hother row (hne row rfl)⟩

end

/-! ## What the loop returns -/

namespace DeviceService
variable {session : SessionId} {w t : World}

theorem upsert_follows {flushed : DateTime} {draw : Draw} {info : DeviceInfo} {r : Ref} (h : Synced mapper session w)
    (hrun : DeviceRepository.upsert session flushed (discoveredRow draw info) w = (.ok r, t)) :
    Synced mapper session t ∧ Follows [info] (w.session session).rows (t.session session).rows := by
  obtain ⟨hsynced, ⟨hnew, hrows⟩ | ⟨old, hold, hain, hrows⟩⟩ := DeviceRepository.upsert_ok h hrun
  · exact ⟨hsynced, hrows ▸ follows_add hnew⟩
  · exact ⟨hsynced, hrows ▸ follows_found h.distinct hold hain⟩

/-- One turn of the loop. -/
theorem syncDevices_cons_ok {draws : ℕ → Draw} {info : DeviceInfo} {infos : List DeviceInfo} {counts : ℕ × ℕ}
    (hrun : syncDevices session draws (info :: infos) w = (.ok counts, t)) :
    ∃ existing u r v added updated, DeviceRepository.getByAin session info.ain w = (.ok existing, u) ∧
      DeviceRepository.upsert session (draws 0).flushed (discoveredRow (draws 0) info) u = (.ok r, v) ∧
      syncDevices session (fun i => draws (i + 1)) infos v = (.ok (added, updated), t) ∧
      counts = if existing.isNone then (added + 1, updated) else (added, updated + 1) := by
  obtain ⟨existing, u, hget, hrest⟩ := Eff.bind_eq_ok.mp hrun
  obtain ⟨r, v, hupsert, hrest⟩ := Eff.bind_eq_ok.mp hrest
  obtain ⟨⟨added, updated⟩, x, hsync, hpure⟩ := Eff.bind_eq_ok.mp hrest
  obtain ⟨hcounts, rfl⟩ := Prod.mk.inj hpure
  exact ⟨existing, u, r, v, added, updated, hget, hupsert, hsync, (Except.ok.inj hcounts).symm⟩

/-- Of the loop: `added` counts the AINs that are new to the table. -/
theorem syncDevices_ok {draws : ℕ → Draw} {infos : List DeviceInfo} {added updated : ℕ} (h : Synced mapper session w)
    (hrun : syncDevices session draws infos w = (.ok (added, updated), t)) :
    Synced mapper session t ∧ Follows infos (w.session session).rows (t.session session).rows ∧
      added = ((infos.map DeviceInfo.ain).toFinset \ ains (w.session session).rows).card ∧
      added + updated = infos.length := by
  induction infos generalizing draws added updated w with
  | nil =>
    cases hrun
    exact ⟨h, .refl _, by simp, rfl⟩
  | cons info infos ih =>
    obtain ⟨existing, u, r, v, added', updated', hget, hupsert, hsync, hcounts⟩ := syncDevices_cons_ok hrun
    obtain ⟨hsynced, hrows, hexisting⟩ := DeviceRepository.getByAin_ok h hget
    obtain ⟨hsynced', hone⟩ := upsert_follows hsynced hupsert
    rw [hrows] at hone
    obtain ⟨ht, hfollows, hadded, hsum⟩ := ih hsynced' hsync
    -- The rest of the loop finds this AIN in the table, so a second device with it counts as updated.
    have hains : ains (v.session session).rows = insert info.ain (ains (w.session session).rows) := hone.ains
    rw [hains, Finset.sdiff_insert] at hadded
    rcases hexisting with ⟨rfl, hnone⟩ | ⟨r', row, hrow, rfl, hain, -⟩
    · cases hcounts
      have hnew : info.ain ∉ ains (w.session session).rows := fun hmem => by
        obtain ⟨row, hrow, hain⟩ := mem_ains.mp hmem
        exact hnone row hrow hain
      refine ⟨ht, hone.trans hfollows, ?_, by simp only [List.length_cons]; omega⟩
      rw [List.map_cons, List.toFinset_cons, Finset.insert_sdiff_of_notMem _ hnew, hadded, ← Finset.erase_insert_eq_erase,
        Finset.card_erase_add_one (Finset.mem_insert_self _ _)]
    · cases hcounts
      have hknown : info.ain ∈ ains (w.session session).rows := mem_ains.mpr ⟨row, hrow, hain⟩
      refine ⟨ht, hone.trans hfollows, ?_, by simp only [List.length_cons]; omega⟩
      rw [List.map_cons, List.toFinset_cons, Finset.insert_sdiff_of_mem _ hknown, hadded, Finset.erase_eq_of_notMem]
      simp [hknown]

end DeviceService

/-! ## The table and the router -/

/-- The row shows what the box says of the device. -/
structure DeviceRow.Describes (row : DeviceRow) (device : RawDevice) : Prop where
  name : row.name = device.name
  deviceType : row.deviceType = (inferDeviceType (parseCapabilities device)).value
  capabilities : row.capabilities = capabilitiesToList (parseCapabilities device)
  firmwareVersion : row.firmwareVersion = device.firmwareVersion.text?

/-- What a discovery of the devices in `raw` makes of the table, and what it returns. -/
structure Aligned (raw : List RawDevice) (old new : List DeviceRow) (result : DiscoveryResult) : Prop where
  unique : (new.map (·.ain)).Nodup
  rows : ains new = discoveredAins raw ∪ ains old
  active : ∀ ain, (∃ row ∈ new, row.ain = ain ∧ row.isActive = true) ↔ ain ∈ discoveredAins raw
  described : ∀ row ∈ new, row.isActive = true → ∃ device, lastWith raw row.ain = some device ∧ row.Describes device
  kept : ∀ row ∈ old, ∃ row' ∈ new, row.Keeps row'
  /-- Only a row that was active is stamped. -/
  missing : ∀ row ∈ old, row.ain ∉ discoveredAins raw → ∃ updatedAt,
    { row with isActive := false, updatedAt } ∈ new ∧ (row.isActive = false → updatedAt = row.updatedAt)
  discovered : result.discovered = (deviceInfos raw).length
  total : result.added + result.updated = result.discovered
  added : result.added = (discoveredAins raw \ ains old).card
  deactivated : result.deactivated =
    (old.filter fun row => row.isActive = true ∧ row.ain ∉ discoveredAins raw).length

theorem shows_describes {raw : List RawDevice} {row : DeviceRow} {info : DeviceInfo}
    (hinfo : deviceWith (deviceInfos raw) row.ain = some info) (h : row.Shows info) :
    ∃ device, lastWith raw row.ain = some device ∧ row.Describes device := by
  have hphysical : row.ain ∈ discoveredAins raw := by
    rw [← deviceInfos_ains, List.mem_toFinset]
    by_contra hnone
    rw [deviceWith_eq_none.mpr hnone] at hinfo
    cases hinfo
  have hparsed : ∀ device : RawDevice,
      ((parseDeviceInfo device).any fun info => info.ain = row.ain) = decide (device.trimmedAin = row.ain) := fun device => by
    cases hparse : parseDeviceInfo device with
    | some info => simp [parseDeviceInfo_ain hparse]
    | none =>
      have hgroup := parseDeviceInfo_eq_none.mp hparse
      rw [Option.any_none, eq_comm, decide_eq_false_iff_not]
      intro htrimmed
      rw [htrimmed] at hgroup
      exact hgroup (Finset.mem_filter.mp hphysical).2
  rw [deviceWith, deviceInfos, ← List.filterMap_reverse, List.find?_filterMap] at hinfo
  simp only [hparsed] at hinfo
  obtain ⟨device, hlast, hparse⟩ := Option.bind_eq_some_iff.mp hinfo
  refine ⟨device, hlast, ?_⟩
  unfold parseDeviceInfo at hparse
  split at hparse
  · cases hparse
  · cases hparse
    exact ⟨h.name, h.deviceType, h.capabilities, h.firmwareVersion⟩

theorem deviceWith_deviceInfos_eq_none {raw : List RawDevice} {ain : String} :
    deviceWith (deviceInfos raw) ain = none ↔ ain ∉ discoveredAins raw := by
  rw [deviceWith_eq_none, ← deviceInfos_ains, List.mem_toFinset]

section
variable {raw : List RawDevice} {old mid : List DeviceRow} {flushed : Uuid → DateTime}

/-- The list that `deactivate_missing` is given. -/
abbrev activeAins (raw : List RawDevice) : List String := (deviceInfos raw).map DeviceInfo.ain

theorem isMissing_iff {row : DeviceRow} :
    DeviceRepository.isMissing (activeAins raw) row = true ↔ row.isActive = true ∧ row.ain ∉ discoveredAins raw := by
  rw [DeviceRepository.isMissing, ← deviceInfos_ains, List.mem_toFinset]
  simp [and_comm]

theorem afterMissing_of_not_missing {row : DeviceRow} (h : ¬ (row.isActive = true ∧ row.ain ∉ discoveredAins raw)) :
    DeviceRepository.afterMissing flushed (activeAins raw) row = row :=
  if_neg fun hmissing => h (isMissing_iff.mp hmissing)

theorem afterMissing_keeps (row : DeviceRow) : row.Keeps (DeviceRepository.afterMissing flushed (activeAins raw) row) := by
  unfold DeviceRepository.afterMissing
  split
  · obtain ⟨updatedAt, hrow⟩ := DeviceRepository.deactivate_eq flushed row
    rw [hrow]
    exact ⟨rfl, rfl, rfl, rfl, rfl, rfl⟩
  · exact .refl row

/-- A row is active in the end just when its device was discovered. -/
theorem afterMissing_isActive {row : DeviceRow}
    (h : (DeviceRepository.afterMissing flushed (activeAins raw) row).isActive = true) :
    DeviceRepository.afterMissing flushed (activeAins raw) row = row ∧ row.ain ∈ discoveredAins raw := by
  by_cases hmissing : row.isActive = true ∧ row.ain ∉ discoveredAins raw
  · obtain ⟨updatedAt, hrow⟩ := DeviceRepository.deactivate_eq flushed row
    rw [DeviceRepository.afterMissing, if_pos (isMissing_iff.mpr hmissing), hrow] at h
    cases h
  · rw [afterMissing_of_not_missing hmissing] at h ⊢
    refine ⟨rfl, ?_⟩
    by_contra hain
    exact hmissing ⟨h, hain⟩

theorem missing_length (h : Follows (deviceInfos raw) old mid) (hold : mapper.Distinct old) (hmid : mapper.Distinct mid) :
    (mid.filter (DeviceRepository.isMissing (activeAins raw))).length =
      (old.filter fun row => row.isActive = true ∧ row.ain ∉ discoveredAins raw).length := by
  refine List.Perm.length_eq ((List.perm_ext_iff_of_nodup ?_ ?_).mpr fun row => ?_)
  · exact (hmid.keys.of_map _).filter _
  · exact (hold.keys.of_map _).filter _
  · rw [List.mem_filter, List.mem_filter, isMissing_iff, decide_eq_true_iff]
    refine and_congr_left fun hmissing => h.missing row ?_
    exact deviceWith_deviceInfos_eq_none.mpr hmissing.2

theorem aligned_of_follows {result : DiscoveryResult} (h : Follows (deviceInfos raw) old mid) (hold : mapper.Distinct old)
    (hmid : mapper.Distinct mid) (hnew : mapper.Distinct (mid.map (DeviceRepository.afterMissing flushed (activeAins raw))))
    (hdiscovered : result.discovered = (deviceInfos raw).length)
    (hadded : result.added = ((activeAins raw).toFinset \ ains old).card)
    (htotal : result.added + result.updated = (deviceInfos raw).length)
    (hdeactivated : result.deactivated = (mid.filter (DeviceRepository.isMissing (activeAins raw))).length) :
    Aligned raw old (mid.map (DeviceRepository.afterMissing flushed (activeAins raw))) result where
  unique := nodup_ains hnew
  rows := by
    rw [← deviceInfos_ains, ← h.ains, ains, ains, List.map_map]
    exact congrArg List.toFinset (List.map_congr_left fun row _ => (afterMissing_keeps row).ain)
  active ain := by
    constructor
    · rintro ⟨row', hrow', rfl, hactive⟩
      obtain ⟨row, -, rfl⟩ := List.mem_map.mp hrow'
      obtain ⟨hsame, hain⟩ := afterMissing_isActive hactive
      rwa [hsame]
    · intro hain
      have hmem : ain ∈ ains mid := by
        rw [h.ains, Finset.mem_union, deviceInfos_ains]
        exact Or.inl hain
      obtain ⟨row, hrow, rfl⟩ := mem_ains.mp hmem
      cases hinfo : deviceWith (deviceInfos raw) row.ain with
      | none => exact absurd hain (deviceWith_deviceInfos_eq_none.mp hinfo)
      | some info =>
        have hsame : DeviceRepository.afterMissing flushed (activeAins raw) row = row :=
          afterMissing_of_not_missing (not_and_not_right.mpr fun _ => hain)
        exact ⟨row, List.mem_map.mpr ⟨row, hrow, hsame⟩, rfl, (h.shown row hrow info hinfo).isActive⟩
  described row' hrow' hactive := by
    obtain ⟨row, hrow, rfl⟩ := List.mem_map.mp hrow'
    obtain ⟨hsame, hain⟩ := afterMissing_isActive hactive
    rw [hsame]
    cases hinfo : deviceWith (deviceInfos raw) row.ain with
    | none => exact absurd hain (deviceWith_deviceInfos_eq_none.mp hinfo)
    | some info => exact shows_describes hinfo (h.shown row hrow info hinfo)
  kept row hrow := by
    obtain ⟨row', hrow', hkept⟩ := h.kept row hrow
    exact ⟨_, List.mem_map_of_mem hrow', hkept.trans (afterMissing_keeps row')⟩
  missing row hrow hain := by
    have hmem : row ∈ mid := (h.missing row (deviceWith_deviceInfos_eq_none.mpr hain)).mpr hrow
    by_cases hactive : row.isActive = true
    · obtain ⟨updatedAt, hdeactivate⟩ := DeviceRepository.deactivate_eq flushed row
      refine ⟨updatedAt, List.mem_map.mpr ⟨row, hmem, ?_⟩, fun hinactive => ?_⟩
      · rw [DeviceRepository.afterMissing, if_pos (isMissing_iff.mpr ⟨hactive, hain⟩), hdeactivate]
      · rw [hactive] at hinactive
        cases hinactive
    · refine ⟨row.updatedAt, List.mem_map.mpr ⟨row, hmem, ?_⟩, fun _ => rfl⟩
      rw [afterMissing_of_not_missing fun hmissing => hactive hmissing.1, ← Bool.eq_false_iff.mpr hactive]
  discovered := hdiscovered
  total := htotal.trans hdiscovered.symm
  added := by rw [hadded, deviceInfos_ains]
  deactivated := hdeactivated.trans (missing_length h hold hmid)

end

end Devices

namespace FritzProvider
variable {σ : Type} {box : FritzBox σ} {s t : FritzProvider σ}

/-- The raw device list that the box returns when `discover_devices` asks for it. -/
def devicesRaw (box : FritzBox σ) (s : FritzProvider σ) : Except FritzError (List RawDevice) :=
  (box.getHomeautomationDevices (if s.connected then s.world else (box.connect s.world).2)).1

theorem discoverDevices_ok {infos : List DeviceInfo} {raw : List RawDevice} (hraw : devicesRaw box s = .ok raw)
    (hrun : discoverDevices box s = (.ok infos, t)) : infos = deviceInfos raw := by
  obtain ⟨_, u, hconnect, hdiscover⟩ := Eff.bind_eq_ok.mp hrun
  have hworld : u.world = if s.connected then s.world else (box.connect s.world).2 := by
    unfold ensureConnected at hconnect
    rw [Eff.gets_bind_run] at hconnect
    split at hconnect
    · next hconnected =>
      cases hconnect
      rw [if_pos hconnected]
    · next hconnected =>
      have hstate : _ = u := congrArg Prod.snd hconnect
      rw [if_neg hconnected, ← hstate]
      simp only [guarded, Eff.mapError, Eff.bind_run, outside, Eff.zoom]
      rcases (box.connect s.world).1 with exc | _ <;> rfl
  have hanswer := congrArg Prod.fst hdiscover
  rw [devicesRaw, ← hworld] at hraw
  simp only [guarded, Eff.mapError, Eff.bind_run, outside, Eff.zoom, hraw] at hanswer
  cases hanswer
  rfl

end FritzProvider

namespace Devices

/-- A discovery of the box's devices by a new session that raises nothing. -/
theorem discovery_aligns {σ : Type} {box : FritzBox σ} {provider : FritzProvider σ} {db : World} {draws : Draws}
    {raw : List RawDevice} {result : DiscoveryResult} {t : ServiceState (FritzProvider σ)}
    (hdistinct : mapper.Distinct db.rows) (hraw : FritzProvider.devicesRaw box provider = .ok raw)
    (hrun : DeviceService.discoverAndSync db.sessions (FritzProvider.provider box) draws
      { outside := provider, db := db.openSession } = (.ok result, t)) :
    Aligned raw db.rows (t.db.session db.sessions).rows result ∧
      ∀ u, commit mapper db.sessions t.db = (.ok (), u) → u.rows = (t.db.session db.sessions).rows := by
  obtain ⟨infos, s, hdiscover, hrest⟩ := Eff.bind_eq_ok.mp hrun
  obtain ⟨⟨added, updated⟩, u, hsync, hrest⟩ := Eff.bind_eq_ok.mp hrest
  obtain ⟨deactivated, v, hdeactivate, hpure⟩ := Eff.bind_eq_ok.mp hrest
  cases hpure
  obtain ⟨provider', hinfos, rfl⟩ := Eff.zoom_eq_ok hdiscover
  obtain ⟨db', hloop, rfl⟩ := Eff.zoom_eq_ok hsync
  obtain ⟨db'', hmissing, rfl⟩ := Eff.zoom_eq_ok hdeactivate
  obtain rfl := FritzProvider.discoverDevices_ok hraw hinfos
  have hrows : (db.openSession.session db.sessions).rows = db.rows := by rw [World.openSession_session]
  obtain ⟨hsynced, hfollows, hadded, htotal⟩ := DeviceService.syncDevices_ok (synced_openSession hdistinct) hloop
  obtain ⟨hsynced', hcount, hafter⟩ := DeviceRepository.deactivateMissing_ok hsynced hmissing
  rw [hrows] at hfollows hadded
  refine ⟨?_, fun u hcommit => commit_synced hsynced' hcommit⟩
  dsimp only
  rw [hafter]
  exact aligned_of_follows hfollows hdistinct hsynced.distinct (hafter ▸ hsynced'.distinct) rfl hadded htotal hcount

/-- A thermostat that is no longer at the box. -/
def removedThermostat : DeviceRow where
  id := 7
  ain := "11630 0206488"
  name := "Heizung"
  deviceType := "thermostat"
  createdAt := 0
  updatedAt := 0

/-- Some choices. -/
def sampleDraws : Draws where
  device i := { now := 100, id := i, transaction := 100, flushed := 100 }
  deactivated _ := 100

/-- A plug that the box lists twice, one of its groups, and a device without an AIN. -/
def sampleDevices : List RawDevice :=
  [{ plug with deviceName := .text "Steckdose" }, { ain := .text "grp97E48000" }, { ain := .none }, plug]

/-- One device comes, one stays and one goes. -/
def sampleResult : DiscoveryResult := { discovered := 2, added := 1, updated := 1, deactivated := 1 }

/-- Their discovery, with the thermostat in the table. -/
def sampleRun : Except PyError DiscoveryResult × ServiceState (FritzProvider (List RawDevice)) :=
  DeviceService.discoverAndSync 0 (FritzProvider.provider tableBox) sampleDraws
    { outside := { world := sampleDevices }, db := World.openSession { rows := [removedThermostat] } }

/-- The row that is deactivated gets a new `updated_at`. -/
theorem deactivation_stamps :
    sampleRun.1 = .ok sampleResult ∧
      ¬ ∀ row ∈ [removedThermostat], row.ain ∉ discoveredAins sampleDevices →
        ∃ isActive, { row with isActive } ∈ (sampleRun.2.db.session 0).rows := by
  refine ⟨rfl, ?_⟩
  decide

theorem sample_is_aligned :
    Aligned sampleDevices [removedThermostat] (sampleRun.2.db.session 0).rows sampleResult := by
  have hdistinct : mapper.Distinct [removedThermostat] := List.pairwise_singleton _ _
  have hrun : sampleRun = (.ok sampleResult, sampleRun.2) := Prod.ext rfl rfl
  exact (@discovery_aligns _ tableBox { world := sampleDevices } { rows := [removedThermostat] } sampleDraws sampleDevices
    _ _ hdistinct rfl hrun).1

end Devices
end SmartHome
