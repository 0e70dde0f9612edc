import SmartHome.Devices.Discovery
import SmartHome.Devices.Updates
import SmartHome.Lib.Run

/-! # When a device was last seen

`last_seen` (`app/devices/models.py`) over runs of discoveries and updates, each in a transaction of its own, against
what the discoveries saw. -/

namespace SmartHome.Devices
open Orm Run

namespace DeviceService
variable {session : SessionId} {w t : World}

/-- `discover_and_sync` after the provider has answered. -/
def syncFound (session : SessionId) (draws : Draws) (devicesInfo : List DeviceInfo) : Py World DiscoveryResult := do
  let (added, updated) ← syncDevices session draws.device devicesInfo
  let deactivated ←
    DeviceRepository.deactivateMissing session draws.deactivated (devicesInfo.map DeviceInfo.ain)
  pure { discovered := devicesInfo.length, added, updated, deactivated }

theorem discoverAndSync_eq {τ R : Type} (provider : Provider τ R) (draws : Draws) :
    discoverAndSync session provider draws =
      outside provider.discoverDevices >>= fun devicesInfo => database (syncFound session draws devicesInfo) := by
  have hpart : Eff.IsPart (fun s : ServiceState τ => s.db) (fun db s => { s with db }) :=
    ⟨fun _ _ => rfl, fun _ _ _ => rfl, fun _ => rfl⟩
  unfold discoverAndSync syncFound database
  congr 1
  funext devicesInfo
  rw [Eff.zoom_bind hpart]
  congr 1
  funext ⟨added, updated⟩
  rw [Eff.zoom_bind hpart]
  rfl

theorem getByAin_within (ain : String) : Eff.Keeps (Within session) (DeviceRepository.getByAin session ain) :=
  .bind (R := Within session) Within.trans (select_within _) scalarOneOrNone_within

theorem upsert_within (flushed : DateTime) (device : DeviceRow) :
    Eff.Keeps (Within session) (DeviceRepository.upsert session flushed device) := by
  refine .bind (R := Within session) Within.trans (getByAin_within _) fun found => ?_
  cases found with
  | none =>
    exact .bind (R := Within session) Within.trans (add_within _) fun r => flush_refresh_within r r
  | some existing =>
    exact .bind (R := Within session) Within.trans (assign_within _ _) fun _ => flush_refresh_within existing existing

theorem syncDevices_within (draws : ℕ → Draw) (infos : List DeviceInfo) :
    Eff.Keeps (Within session) (syncDevices session draws infos) := by
  induction infos generalizing draws with
  | nil => exact .pure (Within.refl session) _
  | cons info infos ih =>
    refine .bind (R := Within session) Within.trans (getByAin_within _) fun existing => ?_
    refine .bind (R := Within session) Within.trans (upsert_within _ _) fun _ => ?_
    exact .bind (R := Within session) Within.trans (ih _) fun _ => .pure (Within.refl session) _

theorem syncFound_within (draws : Draws) (devicesInfo : List DeviceInfo) :
    Eff.Keeps (Within session) (syncFound session draws devicesInfo) := by
  refine .bind (R := Within session) Within.trans (syncDevices_within _ _) fun _ => ?_
  refine .bind (R := Within session) Within.trans ?_ fun _ => .pure (Within.refl session) _
  refine .bind (R := Within session) Within.trans (select_within _) fun devices => ?_
  refine .bind (R := Within session) Within.trans (assignAll_within _ _) fun _ => ?_
  exact .bind (R := Within session) Within.trans flush_within fun _ => .pure (Within.refl session) _

end DeviceService

/-! ## What a discovery saw -/

/-- The clock reading for the last entry that shows the device present. -/
def sightedIn (draws : ℕ → Draw) : List DeviceInfo → String → Option DateTime
  | [], _ => none
  | info :: infos, ain =>
    (sightedIn (fun i => draws (i + 1)) infos ain).or
      (if info.ain = ain ∧ info.isPresent = true then some (draws 0).now else none)

section
variable {draws : ℕ → Draw} {infos : List DeviceInfo} {ain : String}

theorem sightedIn_eq_none :
    sightedIn draws infos ain = none ↔ ∀ info ∈ infos, info.ain = ain → info.isPresent = false := by
  induction infos generalizing draws with
  | nil => simp [sightedIn]
  | cons info infos ih =>
    rw [sightedIn, Option.or_eq_none_iff, ih, List.forall_mem_cons, and_comm]
    refine and_congr_left fun _ => ?_
    by_cases hain : info.ain = ain <;> simp [hain]

theorem mem_of_deviceWith {info : DeviceInfo} (h : deviceWith infos ain = some info) : info ∈ infos ∧ info.ain = ain :=
  ⟨List.mem_reverse.mp (List.mem_of_find?_eq_some h), by simpa using List.find?_some h⟩

theorem sightedIn_of_missing (h : deviceWith infos ain = none) : sightedIn draws infos ain = none :=
  sightedIn_eq_none.mpr fun _ hinfo hain =>
    absurd (hain ▸ List.mem_map_of_mem hinfo) (deviceWith_eq_none.mp h)

theorem sightedIn_of_present {info : DeviceInfo} (h : deviceWith infos ain = some info) (hpresent : info.isPresent = true) :
    ∃ time, sightedIn draws infos ain = some time := by
  refine Option.ne_none_iff_exists'.mp fun hnone => ?_
  obtain ⟨hinfo, hain⟩ := mem_of_deviceWith h
  rw [sightedIn_eq_none.mp hnone info hinfo hain] at hpresent
  cases hpresent

theorem reading_of_sightedIn {time : DateTime} (h : sightedIn draws infos ain = some time) :
    ∃ i < infos.length, time = (draws i).now := by
  induction infos generalizing draws with
  | nil => cases h
  | cons info infos ih =>
    rw [sightedIn, Option.or_eq_some_iff] at h
    rcases h with h | ⟨-, h⟩
    · obtain ⟨i, hi, htime⟩ := ih h
      exact ⟨i + 1, Nat.succ_lt_succ hi, htime⟩
    · split at h
      · exact ⟨0, Nat.zero_lt_succ _, (Option.some.inj h).symm⟩
      · cases h

end

/-! ## What a discovery writes -/

/-- The last entry for an AIN decides: the reading for it, or nothing. -/
structure Stamps (draws : ℕ → Draw) (infos : List DeviceInfo) (old new : List DeviceRow) : Prop where
  listed : ∀ row ∈ new, ∀ info, deviceWith infos row.ain = some info →
    row.lastSeen = if info.isPresent then sightedIn draws infos row.ain else none
  missing : ∀ row ∈ new, deviceWith infos row.ain = none → ∃ row' ∈ old, row'.ain = row.ain ∧ row'.lastSeen = row.lastSeen
  found : ∀ info ∈ infos, ∃ row ∈ new, row.ain = info.ain
  kept : ∀ row ∈ old, ∃ row' ∈ new, row'.ain = row.ain

namespace DeviceService
variable {session : SessionId} {w t : World}

theorem upsert_stamps {flushed : DateTime} {draw : Draw} {info : DeviceInfo} {r : Ref} (h : Synced mapper session w)
    (hrun : DeviceRepository.upsert session flushed (discoveredRow draw info) w = (.ok r, t)) :
    ∀ row ∈ (t.session session).rows, row.ain = info.ain →
      row.lastSeen = if info.isPresent then some draw.now else none := by
  obtain ⟨-, ⟨hnew, hrows⟩ | ⟨old, hold, hain, hrows⟩⟩ := DeviceRepository.upsert_ok h hrun
  · intro row hrow hsame
    rw [hrows, List.mem_append, List.mem_singleton] at hrow
    rcases hrow with hrow | rfl
    · exact absurd hsame (hnew row hrow)
    · rfl
  · intro row' hrow' hsame
    rw [hrows] at hrow'
    obtain ⟨row, hrow, rfl⟩ := List.mem_map.mp hrow'
    by_cases hrewritten : row = old
    · obtain ⟨updatedAt, htouch⟩ := touch_eq flushed (discoveredRow draw info).found row
      rw [editing, if_pos (List.mem_singleton.mpr hrewritten), id, htouch]
      rfl
    · rw [editing, if_neg (by simpa using hrewritten)] at hsame
      exact absurd (eq_of_ain h.distinct hrow hold (hsame.trans hain.symm)) hrewritten

theorem syncDevices_stamps {draws : ℕ → Draw} {infos : List DeviceInfo} {added updated : ℕ} (h : Synced mapper session w)
    (hrun : syncDevices session draws infos w = (.ok (added, updated), t)) :
    ∀ row ∈ (t.session session).rows, ∀ info, deviceWith infos row.ain = some info →
      row.lastSeen = if info.isPresent then sightedIn draws infos row.ain else none := by
  induction infos generalizing draws added updated w with
  | nil =>
    intro row _ info hinfo
    cases hinfo
  | cons info infos ih =>
    obtain ⟨existing, u, r, v, added', updated', hget, hupsert, hsync, -⟩ := syncDevices_cons_ok hrun
    obtain ⟨hsynced, -, -⟩ := DeviceRepository.getByAin_ok h hget
    obtain ⟨hsynced', -⟩ := upsert_follows hsynced hupsert
    intro row hrow last hlast
    rw [deviceWith_cons] at hlast
    rw [sightedIn]
    cases hlater : deviceWith infos row.ain with
    | some later =>
      rw [hlater, Option.some_or] at hlast
      cases hlast
      rw [ih hsynced' hsync row hrow _ hlater]
      split
      · next hpresent =>
        obtain ⟨time, htime⟩ := @sightedIn_of_present (fun i => draws (i + 1)) _ _ _ hlater hpresent
        rw [htime, Option.some_or]
      · rfl
    | none =>
      -- The rest of the list leaves the row as the upsert left it.
      obtain ⟨-, hfollows, -⟩ := syncDevices_ok hsynced' hsync
      rw [hlater, Option.none_or] at hlast
      split at hlast
      · next hain =>
        cases hlast
        rw [upsert_stamps hsynced hupsert row ((hfollows.missing row hlater).mp hrow) hain.symm, sightedIn_of_missing hlater]
        simp [hain]
      · cases hlast

theorem syncFound_ok {draws : Draws} {infos : List DeviceInfo} {result : DiscoveryResult} (h : Synced mapper session w)
    (hrun : syncFound session draws infos w = (.ok result, t)) :
    Synced mapper session t ∧ Stamps draws.device infos (w.session session).rows (t.session session).rows := by
  obtain ⟨⟨added, updated⟩, u, hsync, hrest⟩ := Eff.bind_eq_ok.mp hrun
  obtain ⟨deactivated, v, hdeactivate, hpure⟩ := Eff.bind_eq_ok.mp hrest
  cases hpure
  obtain ⟨hsynced, hfollows, -⟩ := syncDevices_ok h hsync
  have hstamps := syncDevices_stamps h hsync
  obtain ⟨hsynced', -, hafter⟩ := DeviceRepository.deactivateMissing_ok hsynced hdeactivate
  -- Deactivation writes neither column.
  have hkept : ∀ row, (DeviceRepository.afterMissing draws.deactivated (infos.map DeviceInfo.ain) row).ain = row.ain ∧
      (DeviceRepository.afterMissing draws.deactivated (infos.map DeviceInfo.ain) row).lastSeen = row.lastSeen := by
    intro row
    unfold DeviceRepository.afterMissing
    split
    · obtain ⟨updatedAt, heq⟩ := DeviceRepository.deactivate_eq draws.deactivated row
      rw [heq]
      exact ⟨rfl, rfl⟩
    · exact ⟨rfl, rfl⟩
  have hmid : ∀ row' ∈ (t.session session).rows, ∃ row ∈ (u.session session).rows,
      row.ain = row'.ain ∧ row.lastSeen = row'.lastSeen := by
    intro row' hrow'
    rw [hafter] at hrow'
    obtain ⟨row, hrow, rfl⟩ := List.mem_map.mp hrow'
    exact ⟨row, hrow, (hkept row).1.symm, (hkept row).2.symm⟩
  have hnext : ∀ row ∈ (u.session session).rows, ∃ row' ∈ (t.session session).rows, row'.ain = row.ain := by
    intro row hrow
    rw [hafter]
    exact ⟨_, List.mem_map_of_mem hrow, (hkept row).1⟩
  refine ⟨hsynced', ?_, ?_, ?_, ?_⟩
  · intro row' hrow' info hinfo
    obtain ⟨row, hrow, hain, hseen⟩ := hmid row' hrow'
    rw [← hseen, ← hain]
    exact hstamps row hrow info (hain ▸ hinfo)
  · intro row' hrow' hnone
    obtain ⟨row, hrow, hain, hseen⟩ := hmid row' hrow'
    exact ⟨row, (hfollows.missing row (hain ▸ hnone)).mp hrow, hain, hseen⟩
  · intro info hinfo
    have hlisted : info.ain ∈ ains (u.session session).rows := by
      rw [hfollows.ains, Finset.mem_union, List.mem_toFinset]
      exact Or.inl (List.mem_map_of_mem hinfo)
    obtain ⟨row, hrow, hain⟩ := mem_ains.mp hlisted
    obtain ⟨row', hrow', hain'⟩ := hnext row hrow
    exact ⟨row', hrow', hain'.trans hain⟩
  · intro row hrow
    obtain ⟨mid, hmid', hkeeps⟩ := hfollows.kept row hrow
    obtain ⟨row', hrow', hain⟩ := hnext mid hmid'
    exact ⟨row', hrow', hain.trans hkeeps.ain⟩

end DeviceService

/-! ## Runs -/

/-- `sightings` is what the committed discoveries saw, the latest of each device; the application keeps no such record. -/
structure SeenState where
  db : World
  sightings : String → Option DateTime := fun _ => none
  clock : DateTime

/-- What happens to the times at which devices were seen. -/
inductive SeenEvent where
  | discovery (answer : Except PyError (List DeviceInfo)) (draws : Draws)
  | update (deviceId : Uuid) (data : DeviceUpdate) (flushed : DateTime)

/-- An event, and the calls of the database that fail in it. -/
structure SeenStep where
  event : SeenEvent
  fails : DbCall → Option PyError := fun _ => none

/-- `POST /devices/discover`, when the provider answers this. -/
def discoverDevices (answer : Except PyError (List DeviceInfo)) (draws : Draws) : Py World DiscoveryResult :=
  transaction mapper fun session => do
    let devicesInfo ← Py.ofOutcome answer
    DeviceService.syncFound session draws devicesInfo

/-- `PATCH /devices/{device_id}`. -/
def updateDevice (deviceId : Uuid) (data : DeviceUpdate) (flushed : DateTime) : Py World Unit :=
  transaction mapper fun session => do
    let _ ← DeviceService.updateDevice session flushed deviceId data
    pure ()

/-- The clock does not go back during the loop. -/
def InOrder (clock : DateTime) (draws : ℕ → Draw) (n : ℕ) : Prop :=
  ∀ i < n, clock ≤ (draws i).now ∧ ∀ j < i, (draws j).now ≤ (draws i).now

instance (clock : DateTime) (draws : ℕ → Draw) (n : ℕ) : Decidable (InOrder clock draws n) :=
  inferInstanceAs (Decidable (∀ i < n, clock ≤ (draws i).now ∧ ∀ j < i, (draws j).now ≤ (draws i).now))

/-- The clock after so many devices. -/
def lastReading (clock : DateTime) (draws : ℕ → Draw) : ℕ → DateTime
  | 0 => clock
  | n + 1 => (draws n).now

/-- The devices that the provider names. -/
def found (answer : Except PyError (List DeviceInfo)) : List DeviceInfo := answer.toOption.getD []

/-- A transaction that fails leaves no sighting. -/
def SeenState.step (s : SeenState) (e : SeenStep) : Option SeenState :=
  match e.event with
  | .discovery answer draws =>
    if InOrder s.clock draws.device (found answer).length then
      match discoverDevices answer draws { s.db with fails := e.fails } with
      | (.ok _, db) => some
        { db
          sightings := fun ain => (sightedIn draws.device (found answer) ain).or (s.sightings ain)
          clock := lastReading s.clock draws.device (found answer).length }
      | (.error _, db) => some { s with db }
    else none
  | .update deviceId data flushed =>
    some { s with db := (updateDevice deviceId data flushed { s.db with fails := e.fails }).2 }

/-- `last_seen` is the time of the latest sighting, if there is one. -/
def SeenRight (s : SeenState) : Prop := ∀ row ∈ s.db.rows, row.lastSeen = s.sightings row.ain

/-- No row's `last_seen` is erased or set back. -/
def NeverEarlier (s t : SeenState) : Prop :=
  ∀ row ∈ s.db.rows, ∀ time, row.lastSeen = some time →
    ∃ row' ∈ t.db.rows, row'.ain = row.ain ∧ ∃ time', row'.lastSeen = some time' ∧ time ≤ time'

/-- What `last_seen` means, of the state after a step and of the step. -/
def LastSeenKept (s : SeenState) (e : SeenStep) : Prop := ∀ t, s.step e = some t → SeenRight t ∧ NeverEarlier s t

/-- The discovery, when it is committed, lists no device as absent last that it or an earlier one saw present. -/
def ErasesNothing (s : SeenState) (e : SeenStep) : Prop :=
  match e.event with
  | .discovery answer draws =>
    InOrder s.clock draws.device (found answer).length →
      (∃ result db, discoverDevices answer draws { s.db with fails := e.fails } = (.ok result, db)) →
        ∀ ain info, deviceWith (found answer) ain = some info → info.isPresent = false →
          s.sightings ain = none ∧ ∀ other ∈ found answer, other.ain = ain → other.isPresent = false
  | .update _ _ _ => True

/-! ### Steps -/

/-- The table has unique keys and the right times, none of them in the future. -/
structure SeenInvariant (s : SeenState) : Prop where
  distinct : mapper.Distinct s.db.rows
  right : SeenRight s
  past : ∀ ain time, s.sightings ain = some time → time ≤ s.clock

section
variable {w t : World}

theorem discoverDevices_ok {answer : Except PyError (List DeviceInfo)} {draws : Draws} {result : DiscoveryResult}
    (h : mapper.Distinct w.rows) (hrun : discoverDevices answer draws w = (.ok result, t)) :
    mapper.Distinct t.rows ∧ Stamps draws.device (found answer) w.rows t.rows := by
  obtain ⟨u, v, hbody, hcommit, hrows⟩ := transaction_ok hrun
  obtain ⟨infos, u', hanswer, hsync⟩ := Eff.bind_eq_ok.mp hbody
  cases answer with
  | error e => cases hanswer
  | ok devicesInfo =>
    cases hanswer
    obtain ⟨hsynced, hstamps⟩ := DeviceService.syncFound_ok (synced_openSession h) hsync
    have hopened : (w.openSession.session w.sessions).rows = w.rows := by simp
    rw [hopened] at hstamps
    rw [hrows, commit_synced hsynced hcommit]
    exact ⟨hsynced.distinct, hstamps⟩

theorem discoverDevices_error {answer : Except PyError (List DeviceInfo)} {draws : Draws} {e : PyError}
    (hrun : discoverDevices answer draws w = (.error e, t)) : t.rows = w.rows := by
  refine transaction_error (fun session => ?_) hrun
  refine .bind (R := Within session) Within.trans ?_ fun _ => DeviceService.syncFound_within _ _
  cases answer with
  | error e => exact .raise (Within.refl session) _
  | ok devicesInfo => exact .pure (Within.refl session) _

/-- An update leaves every row its `ain` and its `last_seen`. -/
theorem updateDevice_rows (deviceId : Uuid) (data : DeviceUpdate) (flushed : DateTime) (h : mapper.Distinct w.rows) :
    mapper.Distinct (updateDevice deviceId data flushed w).2.rows ∧
      ∃ f : DeviceRow → DeviceRow, (updateDevice deviceId data flushed w).2.rows = w.rows.map f ∧
        ∀ row, (f row).ain = row.ain ∧ (f row).lastSeen = row.lastSeen := by
  rcases hrun : updateDevice deviceId data flushed w with ⟨e | _, t⟩
  · have hrows : t.rows = w.rows := transaction_error (fun session =>
      .bind (R := Within session) Within.trans (DeviceService.updateDevice_within _ _ _) fun _ =>
        .pure (Within.refl session) _) hrun
    dsimp only
    rw [hrows]
    exact ⟨h, id, (List.map_id _).symm, fun _ => ⟨rfl, rfl⟩⟩
  · obtain ⟨u, v, hbody, hcommit, hrows⟩ := transaction_ok hrun
    obtain ⟨r, u', hupdate, hpure⟩ := Eff.bind_eq_ok.mp hbody
    cases hpure
    obtain ⟨hsynced, row, -, -, htable⟩ := DeviceService.updateDevice_ok (synced_openSession h) hupdate
    have hopened : (w.openSession.session w.sessions).rows = w.rows := by simp
    rw [hopened] at htable
    dsimp only
    rw [hrows, commit_synced hsynced hcommit]
    refine ⟨hsynced.distinct, _, htable, fun other => ?_⟩
    unfold editing
    split
    · obtain ⟨updatedAt, htouch⟩ := touch_eq flushed data.apply other
      rw [id, htouch]
      exact ⟨rfl, rfl⟩
    · exact ⟨rfl, rfl⟩

end

theorem lastReading_ge {clock : DateTime} {draws : ℕ → Draw} {n i : ℕ} (h : InOrder clock draws n) (hi : i < n) :
    clock ≤ (draws i).now ∧ (draws i).now ≤ lastReading clock draws n := by
  obtain ⟨m, rfl⟩ : ∃ m, n = m + 1 := ⟨n - 1, by omega⟩
  refine ⟨(h i hi).1, ?_⟩
  rcases Nat.lt_or_eq_of_le (Nat.le_of_lt_succ hi) with hlt | rfl
  · exact (h m (Nat.lt_succ_self m)).2 i hlt
  · exact le_refl _

theorem clock_le_lastReading {clock : DateTime} {draws : ℕ → Draw} {n : ℕ} (h : InOrder clock draws n) :
    clock ≤ lastReading clock draws n := by
  cases n with
  | zero => exact le_refl _
  | succ n => exact (h n (Nat.lt_succ_self n)).1

variable {s t : SeenState} {e : SeenStep}

/-- What a step can do: a discovery is committed, or the columns in question stay. -/
theorem step_cases (h : SeenInvariant s) (hstep : s.step e = some t) :
    (∃ answer draws, e.event = .discovery answer draws ∧ InOrder s.clock draws.device (found answer).length ∧
      (∃ result db, discoverDevices answer draws { s.db with fails := e.fails } = (.ok result, db)) ∧
      mapper.Distinct t.db.rows ∧ Stamps draws.device (found answer) s.db.rows t.db.rows ∧
      t.sightings = (fun ain => (sightedIn draws.device (found answer) ain).or (s.sightings ain)) ∧
      t.clock = lastReading s.clock draws.device (found answer).length) ∨
    ((∀ answer draws, e.event = .discovery answer draws →
        ∀ result db, discoverDevices answer draws { s.db with fails := e.fails } ≠ (.ok result, db)) ∧
      mapper.Distinct t.db.rows ∧ t.sightings = s.sightings ∧ t.clock = s.clock ∧
      ∃ f : DeviceRow → DeviceRow, t.db.rows = s.db.rows.map f ∧
        ∀ row, (f row).ain = row.ain ∧ (f row).lastSeen = row.lastSeen) := by
  unfold SeenState.step at hstep
  cases hevent : e.event with
  | discovery answer draws =>
    rw [hevent] at hstep
    dsimp only at hstep
    split at hstep
    · next horder =>
      rcases hrun : discoverDevices answer draws { s.db with fails := e.fails } with ⟨error | result, db⟩
      · have hrows : db.rows = s.db.rows := @discoverDevices_error { s.db with fails := e.fails } _ _ _ _ hrun
        rw [hrun] at hstep
        cases hstep
        refine Or.inr ⟨?_, ?_, rfl, rfl, id, ?_, fun _ => ⟨rfl, rfl⟩⟩
        · intro answer' draws' hsame result db' hok
          cases hsame
          rw [hrun] at hok
          cases hok
        · exact hrows.symm ▸ h.distinct
        · rw [List.map_id]
          exact hrows
      · rw [hrun] at hstep
        cases hstep
        obtain ⟨hdistinct, hstamps⟩ := discoverDevices_ok (w := { s.db with fails := e.fails }) h.distinct hrun
        exact Or.inl ⟨answer, draws, rfl, horder, ⟨result, db, hrun⟩, hdistinct, hstamps, rfl, rfl⟩
    · cases hstep
  | update deviceId data flushed =>
    rw [hevent] at hstep
    cases hstep
    obtain ⟨hdistinct, f, hrows, hkept⟩ :=
      @updateDevice_rows { s.db with fails := e.fails } deviceId data flushed h.distinct
    exact Or.inr ⟨nofun, hdistinct, rfl, rfl, f, hrows, hkept⟩

/-- A discovery that erases nothing leaves every row with the latest sighting of its device. -/
theorem seenRight_of_stamps {draws : ℕ → Draw} {infos : List DeviceInfo} (h : SeenRight s)
    (hstamps : Stamps draws infos s.db.rows t.db.rows)
    (hsightings : t.sightings = fun ain => (sightedIn draws infos ain).or (s.sightings ain))
    (hunseen : ∀ ain info, deviceWith infos ain = some info → info.isPresent = false →
      s.sightings ain = none ∧ ∀ other ∈ infos, other.ain = ain → other.isPresent = false) : SeenRight t := by
  intro row hrow
  rw [hsightings]
  dsimp only
  cases hlast : deviceWith infos row.ain with
  | none =>
    obtain ⟨old, hold, hain, hseen⟩ := hstamps.missing row hrow hlast
    rw [sightedIn_of_missing hlast, Option.none_or, ← hseen, ← hain]
    exact h old hold
  | some info =>
    rw [hstamps.listed row hrow info hlast]
    cases hpresent : info.isPresent with
    | true =>
      obtain ⟨time, htime⟩ := @sightedIn_of_present draws _ _ _ hlast hpresent
      rw [htime]
      rfl
    | false =>
      obtain ⟨hnever, hothers⟩ := hunseen _ _ hlast hpresent
      rw [sightedIn_eq_none.mpr hothers, hnever]
      rfl

theorem lastSeenKept_of_erasesNothing (h : SeenInvariant s) (hok : ErasesNothing s e) : LastSeenKept s e := by
  intro t hstep
  rcases step_cases h hstep with ⟨answer, draws, hevent, horder, hcommitted, -, hstamps, hsightings, -⟩ |
    ⟨-, -, hsightings, -, f, hrows, hkept⟩
  · rw [ErasesNothing, hevent] at hok
    have hright : SeenRight t := seenRight_of_stamps h.right hstamps hsightings (hok horder hcommitted)
    refine ⟨hright, fun row hrow time htime => ?_⟩
    obtain ⟨row', hrow', hain⟩ := hstamps.kept row hrow
    have hbefore : s.sightings row.ain = some time := (h.right row hrow).symm.trans htime
    have hafter := hright row' hrow'
    rw [hsightings, hain] at hafter
    dsimp only at hafter
    cases hsighted : sightedIn draws.device (found answer) row.ain with
    | none =>
      rw [hsighted, Option.none_or, hbefore] at hafter
      exact ⟨row', hrow', hain, time, hafter, le_refl time⟩
    | some later =>
      rw [hsighted, Option.some_or] at hafter
      obtain ⟨i, hi, hreading⟩ := reading_of_sightedIn hsighted
      have hlater : time ≤ later := by
        rw [hreading]
        exact (h.past _ _ hbefore).trans (lastReading_ge horder hi).1
      exact ⟨row', hrow', hain, later, hafter, hlater⟩
  · constructor
    · intro row' hrow'
      rw [hrows] at hrow'
      obtain ⟨row, hrow, rfl⟩ := List.mem_map.mp hrow'
      rw [hsightings, (hkept row).1, (hkept row).2]
      exact h.right row hrow
    · intro row hrow time htime
      refine ⟨f row, ?_, (hkept row).1, time, (hkept row).2.trans htime, le_refl time⟩
      rw [hrows]
      exact List.mem_map_of_mem hrow

theorem erasesNothing_of_lastSeenKept (h : SeenInvariant s) (hkept : LastSeenKept s e) : ErasesNothing s e := by
  unfold ErasesNothing
  cases hevent : e.event with
  | update deviceId data flushed => trivial
  | discovery answer draws =>
    rintro horder ⟨result, db, hrun⟩ ain info hlast habsent
    have hstep : s.step e = some
        { db
          sightings := fun ain => (sightedIn draws.device (found answer) ain).or (s.sightings ain)
          clock := lastReading s.clock draws.device (found answer).length } := by
      rw [SeenState.step, hevent]
      dsimp only
      rw [if_pos horder, hrun]
    obtain ⟨hright, -⟩ := hkept _ hstep
    obtain ⟨-, hstamps⟩ := discoverDevices_ok (w := { s.db with fails := e.fails }) h.distinct hrun
    obtain ⟨hinfo, hain⟩ := mem_of_deviceWith hlast
    obtain ⟨row, hrow, hsame⟩ := hstamps.found info hinfo
    have hrowain : row.ain = ain := hsame.trans hain
    have herased := hstamps.listed row hrow info (hrowain ▸ hlast)
    rw [habsent, if_neg Bool.false_ne_true, hright row hrow, hrowain] at herased
    obtain ⟨hsighted, hunseen⟩ := Option.or_eq_none_iff.mp herased
    exact ⟨hunseen, sightedIn_eq_none.mp hsighted⟩

theorem SeenInvariant.step (h : SeenInvariant s) (hkept : LastSeenKept s e) (hstep : s.step e = some t) :
    SeenInvariant t := by
  refine ⟨?_, (hkept t hstep).1, ?_⟩
  · rcases step_cases h hstep with ⟨-, -, -, -, -, hdistinct, -⟩ | ⟨-, hdistinct, -⟩
    · exact hdistinct
    · exact hdistinct
  · intro ain time htime
    rcases step_cases h hstep with ⟨answer, draws, -, horder, -, -, -, hsightings, hclock⟩ | ⟨-, -, hsightings, hclock, -⟩
    · rw [hsightings, Option.or_eq_some_iff] at htime
      rw [hclock]
      rcases htime with hsighted | ⟨-, hbefore⟩
      · obtain ⟨i, hi, rfl⟩ := reading_of_sightedIn hsighted
        exact (lastReading_ge horder hi).2
      · exact (h.past ain time hbefore).trans (clock_le_lastReading horder)
    · rw [hsightings] at htime
      rw [hclock]
      exact h.past ain time htime

/-! ### Runs -/

/-- A table that is right so far, such as the empty one. -/
structure SeenStart where
  rows : List DeviceRow := []
  sightings : String → Option DateTime := fun _ => none
  clock : DateTime
  distinct : mapper.Distinct rows
  right : ∀ row ∈ rows, row.lastSeen = sightings row.ain
  past : ∀ ain time, sightings ain = some time → time ≤ clock

/-- The state with these rows and sightings. -/
def SeenStart.state (start : SeenStart) : SeenState where
  db := { rows := start.rows }
  sightings := start.sightings
  clock := start.clock

/-- In every run `last_seen` means what it says after each step exactly if each step erases nothing. -/
theorem runs_keep_last_seen_iff (start : SeenStart) (es : List SeenStep) :
    Meets SeenState.step LastSeenKept start.state es ↔ Meets SeenState.step ErasesNothing start.state es :=
  meets_iff (I := SeenInvariant) (fun h hkept hstep => h.step hkept hstep)
    (fun h => ⟨erasesNothing_of_lastSeenKept h, lastSeenKept_of_erasesNothing h⟩)
    ⟨start.distinct, start.right, start.past⟩

/-- A plug that the box reaches, or not. -/
def seenPlug (isPresent : Bool) : DeviceInfo where
  ain := "08761 0374811"
  name := "Steckdose"
  deviceType := .switch
  capabilities := [.switch]
  isPresent

/-- A discovery of the plug. -/
def discoveryAt (time : DateTime) (id : Uuid) (isPresent : Bool) : SeenStep where
  event := .discovery (.ok [seenPlug isPresent])
    { device := fun _ => { now := time, id, transaction := time, flushed := time }, deactivated := fun _ => time }

/-- A plug is found, and is offline when it is listed again. -/
def plugGoesOffline : List SeenStep := [discoveryAt 100 1 true, discoveryAt 200 2 false]

/-- No device is known yet. -/
def emptyTable : SeenState where
  db := { rows := [] }
  clock := 0

theorem offline_plug_is_forgotten :
    ((run SeenState.step emptyTable plugGoesOffline).map fun s =>
      (s.db.rows.map fun row => (row.ain, row.lastSeen), s.sightings "08761 0374811")) =
        some ([("08761 0374811", none)], some 100) ∧
      ¬ Meets SeenState.step LastSeenKept emptyTable plugGoesOffline := by
  have hresult : ((run SeenState.step emptyTable plugGoesOffline).map fun s =>
      (s.db.rows.map fun row => (row.ain, row.lastSeen), s.sightings "08761 0374811")) =
        some ([("08761 0374811", none)], some 100) := by rfl
  refine ⟨hresult, fun h => ?_⟩
  obtain ⟨t, hrun, hseen⟩ := Option.map_eq_some_iff.mp hresult
  obtain ⟨hrows, hsighted⟩ := Prod.mk.inj hseen
  obtain ⟨row, hrow, hcolumns⟩ := List.map_eq_singleton_iff.mp hrows
  obtain ⟨hain, hlast⟩ := Prod.mk.inj hcolumns
  have hempty : SeenRight emptyTable := fun row hrow => absurd hrow List.not_mem_nil
  have hright : SeenRight t := invariant_of_meets (fun _ hkept hstep => (hkept _ hstep).1) hempty h hrun
  have herased := hright row (hrow ▸ List.mem_singleton_self row)
  rw [hain, hlast, hsighted] at herased
  cases herased

end SmartHome.Devices
