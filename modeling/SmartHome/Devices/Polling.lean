import SmartHome.Devices.Service

/-! # What the poller commits

The poller reads at most as many devices as the listing query returns, and saves all their snapshots in one
session. A snapshot that fails to be saved takes the session with it. -/

namespace SmartHome

/-- What fails in a pass of the poller: the reading of a device, or the flush of its snapshot. -/
structure PollPattern (R : Type) where
  read : String → Except PyError R
  save : String → Option PyError

/-- The tables that the poller uses, and its session: what it has flushed, and whether a flush has failed. -/
structure PollDb where
  devices : List Device
  snapshots : List DeviceStateSnapshot
  now : DateTime
  flushed : List DeviceStateSnapshot := []
  failed : Bool := false

namespace PollDb
variable {R : Type}

/-- A session that has failed expires its objects, so that even the attribute `device.ain` cannot be read. -/
def getDeviceState (pattern : PollPattern R) (ain : PyValue) : Py PollDb R := do
  if ← Eff.gets (·.failed) then Eff.raise .invalidRequest
  else Py.ofOutcome (pattern.read ain.text)

/-- `save_snapshot`. A failed flush rolls back what was flushed before, and until a rollback of its own the session
    refuses all further work. -/
def saveSnapshot (pattern : PollPattern R) (snapshot : DeviceStateSnapshot) : Py PollDb Unit := do
  if ← Eff.gets (·.failed) then Eff.raise .invalidRequest
  else match pattern.save snapshot.ain with
    | none => Eff.modify fun db => { db with flushed := db.flushed ++ [snapshot] }
    | some e => do
      Eff.modify fun db => { db with flushed := [], failed := true }
      Eff.raise e

/-- The commit of a poll; a session in which a flush failed cannot commit. -/
def commit : Py PollDb Unit := do
  if ← Eff.gets (·.failed) then Eff.raise .invalidRequest
  else Eff.modify fun db => { db with snapshots := db.snapshots ++ db.flushed, flushed := [] }

/-- The application as the poller uses it. -/
def env (collate : String → String → Bool) (pattern : PollPattern R) : DeviceEnv PollDb R where
  provider :=
    { discoverDevices := pure []
      getDeviceState := getDeviceState pattern
      setSwitch := fun _ _ => pure ()
      setTemperature := fun _ _ => pure ()
      setDimmer := fun _ _ => pure () }
  getCurrent := pure none
  utcnow db := db.now
  enabledRules := pure []
  commitTriggered _ := pure ()
  stampSchedule _ := pure ()
  monotonic _ := 0
  activeDevices := Eff.gets fun db => DeviceRepository.getAll collate db.devices false
  saveSnapshot := saveSnapshot pattern
  commitSnapshots := commit

end PollDb

section
variable {R : Type} [DeviceReading R] {collate : String → String → Bool} {pattern : PollPattern R}

/-- The snapshot of a device whose reading and save succeed. -/
def goodSnapshot (pattern : PollPattern R) (now : DateTime) (device : Device) : Option DeviceStateSnapshot :=
  match pattern.read device.ain, pattern.save device.ain with
  | .ok r, none => some (DeviceService.snapshot device now (DeviceReading.state r))
  | _, _ => none

/-- All active devices, in the order of the listing. -/
def activeInOrder (collate : String → String → Bool) (devices : List Device) : List Device :=
  (devices.filter (·.isActive)).mergeSort fun a b =>
    a.displayOrder < b.displayOrder || (a.displayOrder == b.displayOrder && collate a.name b.name)

/-- The pass commits one snapshot for each active device whose reading and save succeed, with the clock reading of
    the pass, and returns their number. -/
def PollsEveryDevice (collate : String → String → Bool) (pattern : PollPattern R) (devices : List Device)
    (snapshots : List DeviceStateSnapshot) (now : DateTime) (cache : TtlCache R) : Prop :=
  let start : Cached PollDb R := { world := { devices, snapshots, now }, cache }
  let good := (activeInOrder collate devices).filterMap (goodSnapshot pattern now)
  (pollAllDevices (PollDb.env collate pattern) start).2.world.snapshots = snapshots ++ good ∧
    (DeviceService.pollAndSnapshotAll (PollDb.env collate pattern) start).1 = .ok good.length

/-- The device is read and its snapshot is saved. -/
def Good (pattern : PollPattern R) (device : Device) : Prop :=
  (∃ r, pattern.read device.ain = .ok r) ∧ pattern.save device.ain = none

/-- The device is read, but its snapshot is not saved. -/
def SaveFails (pattern : PollPattern R) (device : Device) : Prop :=
  (∃ r, pattern.read device.ain = .ok r) ∧ pattern.save device.ain ≠ none

/-- Among the first two hundred active devices no save fails, and none of the others is good; or no active device is
    good at all. -/
def NoDeviceLost (collate : String → String → Bool) (pattern : PollPattern R) (devices : List Device) : Prop :=
  (∀ device ∈ (activeInOrder collate devices).take 200, ¬ SaveFails pattern device) ∧
      (∀ device ∈ (activeInOrder collate devices).drop 200, ¬ Good pattern device) ∨
    ∀ device ∈ devices, device.isActive = true → ¬ Good pattern device

/-! ### One device -/

omit [DeviceReading R] in
theorem device_cases (pattern : PollPattern R) (device : Device) :
    (∃ r, pattern.read device.ain = .ok r ∧ pattern.save device.ain = none) ∨
      (∃ e, pattern.read device.ain = .error e) ∨
      ∃ r e, pattern.read device.ain = .ok r ∧ pattern.save device.ain = some e := by
  rcases pattern.read device.ain with e | r
  · exact Or.inr (Or.inl ⟨e, rfl⟩)
  · rcases pattern.save device.ain with _ | e
    · exact Or.inl ⟨r, rfl, rfl⟩
    · exact Or.inr (Or.inr ⟨r, e, rfl, rfl⟩)

theorem goodSnapshot_eq_none_iff {now : DateTime} {device : Device} :
    goodSnapshot pattern now device = none ↔ ¬ Good pattern device := by
  unfold goodSnapshot Good
  rcases device_cases pattern device with ⟨r, hread, hsave⟩ | ⟨e, hread⟩ | ⟨r, e, hread, hsave⟩
  · simp [hread, hsave]
  · simp [hread]
  · simp [hread, hsave]

omit [DeviceReading R] in
theorem getDeviceState_run {db : PollDb} (h : db.failed = false) (ain : String) :
    PollDb.getDeviceState pattern (.str ain) db = (pattern.read ain, db) := by
  rw [PollDb.getDeviceState, Eff.gets_bind_run, h]
  simp only [Bool.false_eq_true, if_false]
  rw [show (PyValue.str ain).text = ain from rfl]
  rcases pattern.read ain with e | r <;> rfl

omit [DeviceReading R] in
/-- The loop reads through the cache's wrapper. -/
theorem outside_getDeviceState (collate : String → String → Bool) {s : Cached PollDb R} (h : s.world.failed = false)
    (ain : String) :
    Cached.outside ((PollDb.env collate pattern).provider.getDeviceState (.str ain)) s = (pattern.read ain, s) := by
  have hstate : (PollDb.env collate pattern).provider.getDeviceState (.str ain) s.world = (pattern.read ain, s.world) :=
    getDeviceState_run h ain
  rw [Cached.outside_run, hstate]

omit [DeviceReading R] in
theorem saveSnapshot_run {db : PollDb} (h : db.failed = false) (snapshot : DeviceStateSnapshot) :
    PollDb.saveSnapshot pattern snapshot db = match pattern.save snapshot.ain with
      | none => (.ok (), { db with flushed := db.flushed ++ [snapshot] })
      | some e => (.error e, { db with flushed := [], failed := true }) := by
  cases db
  cases h
  rw [PollDb.saveSnapshot, Eff.gets_bind_run]
  simp only [Bool.false_eq_true, if_false]
  rcases pattern.save snapshot.ain with _ | e <;> rfl

/-- After a reading the turn ends as the save of the snapshot does. -/
theorem pollDevice_of_read (collate : String → String → Bool) (now : DateTime) (device : Device) (s : Cached PollDb R)
    {r : R} (h : s.world.failed = false) (hread : pattern.read device.ain = .ok r) :
    ∃ cache, DeviceService.pollDevice (PollDb.env collate pattern) now device s =
      let saved := PollDb.saveSnapshot pattern (DeviceService.snapshot device now (DeviceReading.state r)) s.world
      (saved.1.map fun _ => 1, { world := saved.2, cache }) := by
  have hstate : Cached.outside ((PollDb.env collate pattern).provider.getDeviceState (.str device.ain)) s = (.ok r, s) := by
    rw [← hread, outside_getDeviceState collate h]
  refine ⟨s.cache.set (stateKey device.ain) r ((PollDb.env collate pattern).monotonic s.world + 65), ?_⟩
  rw [DeviceService.pollDevice, Eff.bind_of_ok hstate, Eff.modify_bind_run, Eff.bind_run, Cached.outside_run]
  simp only [PollDb.env]
  rcases PollDb.saveSnapshot pattern (DeviceService.snapshot device now (DeviceReading.state r)) s.world with ⟨e | _, db⟩ <;>
    rfl

/-- One turn of the loop in a session that has not failed. -/
theorem pollDevice_run (collate : String → String → Bool) (pattern : PollPattern R) (now : DateTime) (device : Device)
    (s : Cached PollDb R) (h : s.world.failed = false) :
    (∃ snapshot t, goodSnapshot pattern now device = some snapshot ∧
        DeviceService.pollDevice (PollDb.env collate pattern) now device s = (.ok 1, t) ∧
        t.world = { s.world with flushed := s.world.flushed ++ [snapshot] }) ∨
      (∃ e, ¬ Good pattern device ∧ ¬ SaveFails pattern device ∧
        DeviceService.pollDevice (PollDb.env collate pattern) now device s = (.error e, s)) ∨
      ∃ e t, SaveFails pattern device ∧ DeviceService.pollDevice (PollDb.env collate pattern) now device s = (.error e, t) ∧
        t.world = { s.world with flushed := [], failed := true } := by
  rcases device_cases pattern device with ⟨r, hread, hsave⟩ | ⟨e, hread⟩ | ⟨r, e, hread, hsave⟩
  · obtain ⟨cache, hrun⟩ := pollDevice_of_read collate now device s h hread
    rw [saveSnapshot_run h, show (DeviceService.snapshot device now (DeviceReading.state r)).ain = device.ain from rfl,
      hsave] at hrun
    exact Or.inl ⟨_, _, by simp only [goodSnapshot, hread, hsave], hrun, rfl⟩
  · refine Or.inr (Or.inl ⟨e, by simp [Good, hread], by simp [SaveFails, hread], ?_⟩)
    refine Eff.bind_of_error ?_
    rw [← hread, outside_getDeviceState collate h]
  · obtain ⟨cache, hrun⟩ := pollDevice_of_read collate now device s h hread
    rw [saveSnapshot_run h, show (DeviceService.snapshot device now (DeviceReading.state r)).ain = device.ain from rfl,
      hsave] at hrun
    exact Or.inr (Or.inr ⟨e, _, by simp [SaveFails, hread, hsave], hrun, rfl⟩)

/-- In a session that has failed nothing is done any more. -/
theorem pollDevice_of_failed (collate : String → String → Bool) (pattern : PollPattern R) (now : DateTime) (device : Device)
    (s : Cached PollDb R) (h : s.world.failed = true) :
    DeviceService.pollDevice (PollDb.env collate pattern) now device s = (.error .invalidRequest, s) := by
  refine Eff.bind_of_error ?_
  rw [Cached.outside_run]
  have hrefused : (PollDb.env collate pattern).provider.getDeviceState (.str device.ain) s.world =
      (.error .invalidRequest, s.world) := by
    change PollDb.getDeviceState pattern (.str device.ain) s.world = _
    rw [PollDb.getDeviceState, Eff.gets_bind_run, h]
    rfl
  rw [hrefused]

/-! ### The loop -/

theorem pollDevices_cons (env : DeviceEnv PollDb R) (now : DateTime) (device : Device) (devices : List Device)
    (s : Cached PollDb R) {n : ℕ} {t : Cached PollDb R}
    (hrest : DeviceService.pollDevices env now devices (DeviceService.pollDevice env now device s).2 = (.ok n, t)) :
    DeviceService.pollDevices env now (device :: devices) s =
      (.ok ((DeviceService.pollDevice env now device s).1.toOption.getD 0 + n), t) := by
  rw [DeviceService.pollDevices, Eff.bind_of_ok (Eff.attempt_pure_run _ _ s), Eff.bind_of_ok hrest]
  rfl

theorem pollDevices_of_failed (collate : String → String → Bool) (pattern : PollPattern R) (now : DateTime)
    (devices : List Device) (s : Cached PollDb R) (h : s.world.failed = true) :
    DeviceService.pollDevices (PollDb.env collate pattern) now devices s = (.ok 0, s) := by
  induction devices with
  | nil => rfl
  | cons device devices ih =>
    have hturn := pollDevice_of_failed collate pattern now device s h
    rw [pollDevices_cons (n := 0) (t := s) _ now device devices s (by rw [hturn]; exact ih), hturn]
    rfl

/-- Without a failing save the loop flushes the snapshots of all good devices. -/
theorem pollDevices_of_no_failure (collate : String → String → Bool) (pattern : PollPattern R) (now : DateTime)
    (devices : List Device) (s : Cached PollDb R) (h : s.world.failed = false)
    (hsaves : ∀ device ∈ devices, ¬ SaveFails pattern device) :
    ∃ t, DeviceService.pollDevices (PollDb.env collate pattern) now devices s =
        (.ok (devices.filterMap (goodSnapshot pattern now)).length, t) ∧
      t.world = { s.world with flushed := s.world.flushed ++ devices.filterMap (goodSnapshot pattern now) } := by
  induction devices generalizing s with
  | nil => exact ⟨s, rfl, by simp⟩
  | cons device devices ih =>
    rw [List.forall_mem_cons] at hsaves
    rcases pollDevice_run collate pattern now device s h with
      ⟨snapshot, t, hgood, hturn, ht⟩ | ⟨e, hgood, -, hturn⟩ | ⟨e, t, hfails, -, -⟩
    · obtain ⟨u, hrest, hu⟩ := ih t (by rw [ht]; exact h) hsaves.2
      refine ⟨u, ?_, ?_⟩
      · rw [pollDevices_cons _ now device devices s (by rw [hturn]; exact hrest), hturn, List.filterMap_cons, hgood]
        simp [Except.toOption, Nat.add_comm]
      · rw [hu, ht, List.filterMap_cons, hgood]
        simp
    · obtain ⟨u, hrest, hu⟩ := ih s h hsaves.2
      refine ⟨u, ?_, ?_⟩
      · rw [pollDevices_cons _ now device devices s (by rw [hturn]; exact hrest), hturn, List.filterMap_cons,
          goodSnapshot_eq_none_iff.mpr hgood]
        simp [Except.toOption]
      · rw [hu, List.filterMap_cons, goodSnapshot_eq_none_iff.mpr hgood]
    · exact absurd hfails hsaves.1

/-- A failing save ends the session, whatever it has flushed. -/
theorem pollDevices_of_failure (collate : String → String → Bool) (pattern : PollPattern R) (now : DateTime)
    (devices : List Device) (s : Cached PollDb R) (h : s.world.failed = false)
    (hfails : ∃ device ∈ devices, SaveFails pattern device) :
    ∃ n t, DeviceService.pollDevices (PollDb.env collate pattern) now devices s = (.ok n, t) ∧
      n ≤ (devices.filterMap (goodSnapshot pattern now)).length ∧ t.world.failed = true ∧
      t.world.snapshots = s.world.snapshots := by
  induction devices generalizing s with
  | nil => simp at hfails
  | cons device devices ih =>
    simp only [List.mem_cons, exists_eq_or_imp] at hfails
    rcases pollDevice_run collate pattern now device s h with
      ⟨snapshot, t, hgood, hturn, ht⟩ | ⟨e, hgood, hsaves, hturn⟩ | ⟨e, t, hfail, hturn, ht⟩
    · have hlater : ∃ device ∈ devices, SaveFails pattern device := by
        refine hfails.resolve_left fun hfail => ?_
        rw [goodSnapshot_eq_none_iff.mpr fun hg => hfail.2 hg.2] at hgood
        cases hgood
      obtain ⟨n, u, hrest, hn, hu, hsnapshots⟩ := ih t (by rw [ht]; exact h) hlater
      refine ⟨_, u, pollDevices_cons _ now device devices s (by rw [hturn]; exact hrest), ?_, hu, ?_⟩
      · rw [hturn, List.filterMap_cons, hgood]
        simp only [Except.toOption, Option.getD_some, List.length_cons]
        omega
      · rw [hsnapshots, ht]
    · obtain ⟨n, u, hrest, hn, hu, hsnapshots⟩ := ih s h (hfails.resolve_left hsaves)
      refine ⟨_, u, pollDevices_cons _ now device devices s (by rw [hturn]; exact hrest), ?_, hu, hsnapshots⟩
      rw [hturn, List.filterMap_cons, goodSnapshot_eq_none_iff.mpr hgood]
      simpa [Except.toOption] using hn
    · have hfailed : t.world.failed = true := by rw [ht]
      have hrest := pollDevices_of_failed collate pattern now devices t hfailed
      refine ⟨_, t, pollDevices_cons _ now device devices s (by rw [hturn]; exact hrest), ?_, hfailed, by rw [ht]⟩
      rw [hturn]
      simp [Except.toOption]

/-! ### The pass -/

omit [DeviceReading R] in
theorem getAll_eq (collate : String → String → Bool) (devices : List Device) :
    DeviceRepository.getAll collate devices false = (activeInOrder collate devices).take 200 := by
  simp only [DeviceRepository.getAll, activeInOrder, Bool.false_or]

omit [DeviceReading R] in
theorem mem_activeInOrder {devices : List Device} {device : Device} :
    device ∈ activeInOrder collate devices ↔ device ∈ devices ∧ device.isActive = true := by
  rw [activeInOrder, (List.mergeSort_perm _ _).mem_iff, List.mem_filter]

theorem filterMap_goodSnapshot_eq_nil {now : DateTime} {devices : List Device} :
    devices.filterMap (goodSnapshot pattern now) = [] ↔ ∀ device ∈ devices, ¬ Good pattern device := by
  rw [List.filterMap_eq_nil_iff]
  exact forall₂_congr fun device _ => goodSnapshot_eq_none_iff

/-- The loop of a pass and its commit. -/
theorem pass_of_loop {devices : List Device} {snapshots : List DeviceStateSnapshot} {now : DateTime} {cache : TtlCache R}
    {n : ℕ} {t : Cached PollDb R}
    (hloop : DeviceService.pollDevices (PollDb.env collate pattern) now ((activeInOrder collate devices).take 200)
      { world := { devices, snapshots, now }, cache } = (.ok n, t)) :
    (DeviceService.pollAndSnapshotAll (PollDb.env collate pattern) { world := { devices, snapshots, now }, cache }).1 =
        .ok n ∧
      (pollAllDevices (PollDb.env collate pattern) { world := { devices, snapshots, now }, cache }).2.world =
        (PollDb.commit t.world).2 := by
  have hpass : DeviceService.pollAndSnapshotAll (PollDb.env collate pattern)
      { world := { devices, snapshots, now }, cache } = (.ok n, t) := by
    have hactive : Cached.outside (PollDb.env collate pattern).activeDevices
        ({ world := { devices, snapshots, now }, cache } : Cached PollDb R) =
        (.ok ((activeInOrder collate devices).take 200), { world := { devices, snapshots, now }, cache }) := by
      rw [← getAll_eq]
      rfl
    rw [DeviceService.pollAndSnapshotAll, Eff.bind_of_ok hactive, Eff.gets_bind_run]
    exact hloop
  refine ⟨by rw [hpass], ?_⟩
  rw [pollAllDevices, Eff.attempt_pure_state, Eff.bind_of_ok hpass, Cached.outside_run]
  rfl

/-- A pass with a failing save commits nothing. -/
theorem pass_of_failure (snapshots : List DeviceStateSnapshot) (now : DateTime) (cache : TtlCache R)
    {devices : List Device} (hfails : ∃ device ∈ (activeInOrder collate devices).take 200, SaveFails pattern device) :
    (pollAllDevices (PollDb.env collate pattern) { world := { devices, snapshots, now }, cache }).2.world.snapshots =
        snapshots ∧
      ∃ n, (DeviceService.pollAndSnapshotAll (PollDb.env collate pattern)
          { world := { devices, snapshots, now }, cache }).1 = .ok n ∧
        n ≤ (((activeInOrder collate devices).take 200).filterMap (goodSnapshot pattern now)).length := by
  obtain ⟨n, t, hloop, hn, hfailed, hsnapshots⟩ := pollDevices_of_failure collate pattern now
    ((activeInOrder collate devices).take 200) { world := { devices, snapshots, now }, cache } rfl hfails
  obtain ⟨hcount, hworld⟩ := pass_of_loop hloop
  refine ⟨?_, n, hcount, hn⟩
  rw [hworld, PollDb.commit, Eff.gets_bind_run, hfailed]
  exact hsnapshots

/-- A pass of the poller commits the snapshots of exactly the good devices, and returns their number, exactly if it
    loses no device. -/
theorem polls_every_device_iff (collate : String → String → Bool) (pattern : PollPattern R) (devices : List Device)
    (snapshots : List DeviceStateSnapshot) (now : DateTime) (cache : TtlCache R) :
    PollsEveryDevice collate pattern devices snapshots now cache ↔ NoDeviceLost collate pattern devices := by
  have hactive : (∀ device ∈ devices, device.isActive = true → ¬ Good pattern device) ↔
      ∀ device ∈ activeInOrder collate devices, ¬ Good pattern device := by
    simp only [mem_activeInOrder, and_imp]
  have hsplit : (activeInOrder collate devices).filterMap (goodSnapshot pattern now) =
      ((activeInOrder collate devices).take 200).filterMap (goodSnapshot pattern now) ++
        ((activeInOrder collate devices).drop 200).filterMap (goodSnapshot pattern now) := by
    rw [← List.filterMap_append, List.take_append_drop]
  unfold PollsEveryDevice NoDeviceLost
  rw [hactive]
  by_cases hsaves : ∀ device ∈ (activeInOrder collate devices).take 200, ¬ SaveFails pattern device
  · -- The first two hundred are committed; it remains whether the others matter.
    obtain ⟨t, hloop, ht⟩ := pollDevices_of_no_failure collate pattern now
      ((activeInOrder collate devices).take 200) { world := { devices, snapshots, now }, cache } rfl hsaves
    obtain ⟨hcount, hworld⟩ := pass_of_loop hloop
    have hcommitted : (PollDb.commit t.world).2.snapshots =
        snapshots ++ ((activeInOrder collate devices).take 200).filterMap (goodSnapshot pattern now) := by
      rw [ht]
      rfl
    simp only [hcount, hworld, hcommitted, hsplit, List.append_cancel_left_eq, Except.ok.injEq, List.length_append]
    rw [List.self_eq_append_right, filterMap_goodSnapshot_eq_nil]
    constructor
    · exact fun h => Or.inl ⟨hsaves, h.1⟩
    · intro h
      have hrest : ∀ device ∈ (activeInOrder collate devices).drop 200, ¬ Good pattern device := by
        rcases h with ⟨-, hrest⟩ | hnone
        · exact hrest
        · exact fun device hdevice => hnone device (List.mem_of_mem_drop hdevice)
      refine ⟨hrest, ?_⟩
      rw [filterMap_goodSnapshot_eq_nil.mpr hrest]
      rfl
  · -- Nothing is committed, which is right only if there was nothing to commit.
    have hfails : ∃ device ∈ (activeInOrder collate devices).take 200, SaveFails pattern device := by
      by_contra hnone
      exact hsaves fun device hdevice hfail => hnone ⟨device, hdevice, hfail⟩
    obtain ⟨hlost, n, hcount, hn⟩ := pass_of_failure snapshots now cache hfails
    simp only [hcount, hlost, List.self_eq_append_right, filterMap_goodSnapshot_eq_nil, Except.ok.injEq]
    constructor
    · exact fun h => Or.inr h.1
    · rintro (⟨hsaves', -⟩ | hnone)
      · exact absurd hsaves' hsaves
      · have hnil : (activeInOrder collate devices).filterMap (goodSnapshot pattern now) = [] :=
          filterMap_goodSnapshot_eq_nil.mpr hnone
        refine ⟨hnone, ?_⟩
        rw [hsplit, List.append_eq_nil_iff] at hnil
        rw [hnil.1] at hn
        rw [hsplit, hnil.1, hnil.2]
        simpa using hn

end

/-! ### A pass -/

/-- A thermostat. -/
def heater : Device where
  id := 1
  ain := "09995 0123456"
  name := "Bad"
  deviceType := "thermostat"

/-- A lamp. -/
def lamp : Device where
  id := 2
  ain := "08761 0374811"
  name := "Flur"
  deviceType := "light"

/-- Both devices answer; the snapshot of the heater cannot be saved. -/
def heaterFails : PollPattern DeviceState where
  read ain := .ok { ain }
  save ain := if ain = heater.ain then some .external else none

/-- The snapshot of the lamp is lost with that of the heater. -/
theorem failing_save_loses_the_others :
    ¬ PollsEveryDevice (fun _ _ => true) heaterFails [heater, lamp] [] 0 .empty := by
  rintro ⟨hcommitted, -⟩
  have hshort : (activeInOrder (fun _ _ => true) [heater, lamp]).take 200 = activeInOrder (fun _ _ => true) [heater, lamp] :=
    List.take_of_length_le (by simp [activeInOrder, heater, lamp])
  have hfails : ∃ device ∈ (activeInOrder (fun _ _ => true) [heater, lamp]).take 200, SaveFails heaterFails device := by
    refine ⟨heater, ?_, ⟨_, rfl⟩, nofun⟩
    rw [hshort, mem_activeInOrder]
    exact ⟨List.mem_cons_self, rfl⟩
  rw [(pass_of_failure [] 0 .empty hfails).1] at hcommitted
  have hnone := filterMap_goodSnapshot_eq_nil.mp hcommitted.symm lamp
    (mem_activeInOrder.mpr ⟨List.mem_cons_of_mem _ List.mem_cons_self, rfl⟩)
  exact hnone ⟨⟨_, rfl⟩, rfl⟩

end SmartHome
