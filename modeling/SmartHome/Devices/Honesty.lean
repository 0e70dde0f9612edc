import SmartHome.Devices.Visibility
import SmartHome.Providers.Mock

/-! # The paths that command a device

Control requests, schedule jobs and passes over the rules command devices; only the first of them drops the
cached state. Every provider is followed here with a count of the commands that it has carried out for each
device, and readings carry the count at the time they were taken. -/

namespace SmartHome
open Run

/-- The world, and the number of successful commands for each device. -/
structure Counted (σ : Type) where
  world : σ
  effects : String → ℕ

instance {R : Type} [DeviceReading R] : DeviceReading (Stamped R) := ⟨fun r => DeviceReading.state r.reading⟩

section
variable {σ R α : Type}

namespace Counted

/-- A program that commands nothing. -/
def uncounted (m : Py σ α) : Py (Counted σ) α := Eff.zoom (·.world) (fun world s => { s with world }) m

/-- A command, counted when it succeeds. -/
def counted (ain : String) (m : Py σ Unit) : Py (Counted σ) Unit := do
  uncounted m
  Eff.modify fun s => { s with effects := Function.update s.effects ain (s.effects ain + 1) }

/-- A reading with the count of the commands before it. -/
def stamped (ain : String) (m : Py σ R) : Py (Counted σ) (Stamped R) := do
  let reading ← uncounted m
  let stamp ← Eff.gets (·.effects ain)
  pure { reading, stamp }

end Counted

open Counted

/-- The provider with the count; `address` is the AIN that a value stands for. -/
def Provider.counted (address : PyValue → String) (provider : Provider σ R) : Provider (Counted σ) (Stamped R) where
  discoverDevices := uncounted provider.discoverDevices
  getDeviceState ain := stamped (address ain) (provider.getDeviceState ain)
  setSwitch ain on := Counted.counted (address ain) (provider.setSwitch ain on)
  setTemperature ain celsius := Counted.counted (address ain) (provider.setTemperature ain celsius)
  setDimmer ain level := Counted.counted (address ain) (provider.setDimmer ain level)

/-- The same application over the counted world. -/
def DeviceEnv.counted (address : PyValue → String) (env : DeviceEnv σ R) : DeviceEnv (Counted σ) (Stamped R) where
  provider := env.provider.counted address
  getCurrent := uncounted env.getCurrent
  utcnow s := env.utcnow s.world
  enabledRules := uncounted env.enabledRules
  commitTriggered stamps := uncounted (env.commitTriggered stamps)
  stampSchedule id := uncounted (env.stampSchedule id)
  monotonic s := env.monotonic s.world
  activeDevices := uncounted env.activeDevices
  saveSnapshot snapshot := uncounted (env.saveSnapshot snapshot)
  commitSnapshots := uncounted env.commitSnapshots

/-- The clock does not go back. -/
def Later (monotonic : σ → ℚ) (s t : σ) : Prop := monotonic s ≤ monotonic t

/-- `time.monotonic()` never goes back during a call. -/
structure DeviceEnv.Steady (env : DeviceEnv σ R) : Prop extends Env.Keeps (Later env.monotonic) env.toEnv where
  activeDevices : Eff.Keeps (Later env.monotonic) env.activeDevices
  saveSnapshot : ∀ snapshot, Eff.Keeps (Later env.monotonic) (env.saveSnapshot snapshot)
  commitSnapshots : Eff.Keeps (Later env.monotonic) env.commitSnapshots

/-- The world with its counts, and `device_state_cache`. -/
abbrev Home (σ R : Type) := Cached (Counted σ) (Stamped R)

/-- What is asked of the application, and the time that passes. -/
inductive HomeEvent (σ : Type) where
  | turnOn (ain : String)
  | turnOff (ain : String)
  | setTemperature (ain : String) (celsius : PyFloat)
  | setBrightness (ain : String) (level : Int)
  | job (scheduleId : Uuid) (actionConfig : PyDict)
  | rules
  | poll
  | getLiveState (ain : String)
  | elapse (world : σ)

namespace Home
variable [DeviceReading R] {env : DeviceEnv σ R} {address : PyValue → String}

/-- The program of an event, its answer left aside. -/
def program (env : DeviceEnv (Counted σ) (Stamped R)) : HomeEvent σ → Py (Home σ R) Unit
  | .turnOn ain => DeviceService.turnOn env ain
  | .turnOff ain => DeviceService.turnOff env ain
  | .setTemperature ain celsius => DeviceService.setTemperature env ain celsius
  | .setBrightness ain level => DeviceService.setBrightness env ain level
  | .job scheduleId actionConfig => Cached.outside (jobFunc env scheduleId actionConfig)
  | .rules => Cached.outside (evaluateAllRules env.toEnv)
  | .poll => pollAllDevices env
  | .getLiveState ain => do let _ ← DeviceService.getLiveState env ain; pure ()
  | .elapse world => Eff.modify fun s => { s with world := { s.world with world } }

/-- What an event does; time does not go back. -/
def step (env : DeviceEnv σ R) (address : PyValue → String) (s : Home σ R) (e : HomeEvent σ) : Option (Home σ R) :=
  match e with
  | .elapse world =>
    if env.monotonic s.world.world ≤ env.monotonic world then some (program (env.counted address) e s).2 else none
  | e => some (program (env.counted address) e s).2

/-- A `get_live_state` returns no reading from before the latest successful command for its device. -/
def Honest (env : DeviceEnv σ R) (address : PyValue → String) (s : Home σ R) : HomeEvent σ → Prop
  | .getLiveState ain => ∀ r t, DeviceService.getLiveState (env.counted address) ain s = (.ok r, t) →
      s.world.effects ain ≤ r.stamp
  | _ => True

/-- A job or a pass over the rules carries out no command for a device whose cached state is still valid when
    it ends. -/
def Unseen (env : DeviceEnv σ R) (address : PyValue → String) (s : Home σ R) (e : HomeEvent σ) : Prop :=
  match e with
  | .job _ _ | .rules => ∀ t ain, step env address s e = some t → t.world.effects ain ≠ s.world.effects ain →
      s.cache.lookup (env.monotonic t.world.world) (stateKey ain) = none
  | _ => True

/-! ### The invariant -/

/-- A valid entry was read after every command for its device. -/
def UpToDate (env : DeviceEnv σ R) (s : Home σ R) : Prop :=
  ∀ ain r, s.cache.lookup (env.monotonic s.world.world) (stateKey ain) = some r → s.world.effects ain ≤ r.stamp

omit [DeviceReading R] in
/-- Time makes no entry valid, and a command that leaves no valid entry behind no reading stale. -/
theorem UpToDate.later {s t : Home σ R} (h : UpToDate env s)
    (hlater : Later env.monotonic s.world.world t.world.world)
    (hentry : ∀ ain r, t.cache.lookup (env.monotonic t.world.world) (stateKey ain) = some r →
      (s.cache.store (stateKey ain) = t.cache.store (stateKey ain) ∧ t.world.effects ain = s.world.effects ain) ∨
        t.world.effects ain ≤ r.stamp) : UpToDate env t := by
  intro ain r hlookup
  rcases hentry ain r hlookup with ⟨hstore, heffects⟩ | hle
  · rw [heffects]
    rw [← TtlCache.lookup_congr hstore] at hlookup
    exact h ain r (TtlCache.lookup_of_later hlookup hlater)
  · exact hle

/-- The program keeps the promise that nothing in the cache is older than the last command. -/
abbrev KeepsUpToDate (env : DeviceEnv σ R) (m : Py (Home σ R) α) : Prop :=
  Eff.Keeps (fun s t => UpToDate env s → UpToDate env t) m

omit [DeviceReading R] in
theorem KeepsUpToDate.seq {β : Type} {m : Py (Home σ R) α} {f : α → Py (Home σ R) β} (hm : KeepsUpToDate env m)
    (hf : ∀ a, KeepsUpToDate env (f a)) : KeepsUpToDate env (m >>= f) :=
  Eff.Keeps.bind (R := fun s t => UpToDate env s → UpToDate env t) (fun h h' hs => h' (h hs)) hm hf

omit [DeviceReading R] in
theorem KeepsUpToDate.attempt {m : Py (Home σ R) α} {handler : PyError → Py (Home σ R) α} (hm : KeepsUpToDate env m)
    (hh : ∀ e, KeepsUpToDate env (handler e)) : KeepsUpToDate env (m.attempt handler) :=
  Eff.Keeps.attempt (R := fun s t => UpToDate env s → UpToDate env t) (fun h h' hs => h' (h hs)) hm hh

omit [DeviceReading R] in
theorem KeepsUpToDate.pure (a : α) : KeepsUpToDate env (Pure.pure a : Py (Home σ R) α) := fun _ h => h

omit [DeviceReading R] in
theorem keepsUpToDate_uncounted {m : Py σ α} (h : Eff.Keeps (Later env.monotonic) m) :
    KeepsUpToDate env (Cached.outside (uncounted m) : Py (Home σ R) α) := by
  intro s hs
  exact hs.later (h s.world.world) fun ain r _ => Or.inl ⟨rfl, rfl⟩

/-! ### Reads and commands -/

omit [DeviceReading R] in
theorem stamped_eq {m : Py σ R} {ain : String} {s : Counted σ} :
    stamped ain m s = match m s.world with
      | (.ok reading, world) => (.ok ⟨reading, s.effects ain⟩, { s with world })
      | (.error e, world) => (.error e, { s with world }) := by
  unfold stamped
  rw [Eff.bind_run]
  unfold uncounted Eff.zoom
  rcases m s.world with ⟨_ | reading, world⟩ <;> rfl

omit [DeviceReading R] in
theorem counted_eq {m : Py σ Unit} {ain : String} {s : Counted σ} :
    Counted.counted ain m s = match m s.world with
      | (.ok (), world) => (.ok (), { world, effects := Function.update s.effects ain (s.effects ain + 1) })
      | (.error e, world) => (.error e, { s with world }) := by
  unfold Counted.counted
  rw [Eff.bind_run]
  unfold uncounted Eff.zoom
  rcases m s.world with ⟨_ | reading, world⟩ <;> rfl

omit [DeviceReading R] in
theorem send_counted (ain : PyValue) (command : Command) :
    (env.provider.counted address).send ain command =
      Counted.counted (address ain) (env.provider.send ain command) := by
  cases command <;> rfl

omit [DeviceReading R] in
theorem getDeviceState_counted (haddress : ∀ ain, address (.str ain) = ain) (ain : String) :
    (env.counted address).provider.getDeviceState (.str ain) =
      stamped ain (env.provider.getDeviceState (.str ain)) := by
  show stamped (address (.str ain)) _ = _
  rw [haddress]

omit [DeviceReading R] in
theorem keepsUpToDate_control (hsteady : env.Steady) (haddress : ∀ ain, address (.str ain) = ain) (ain : String)
    (command : Command) : KeepsUpToDate env (DeviceService.control (env.counted address) ain command) := by
  intro s hs
  have hlater := hsteady.send (.str ain) command s.world.world
  have hsend : (env.counted address).provider.send (.str ain) command s.world =
      Counted.counted ain (env.provider.send (.str ain) command) s.world := by
    rw [show (env.counted address).provider = env.provider.counted address from rfl, send_counted, haddress]
  unfold DeviceService.control
  rw [Eff.bind_run, Cached.outside_run, hsend, counted_eq]
  rcases hrun : env.provider.send (.str ain) command s.world.world with ⟨e | ⟨⟩, world⟩ <;> rw [hrun] at hlater
  · exact hs.later hlater fun other r _ => Or.inl ⟨rfl, rfl⟩
  · refine hs.later hlater fun other r hlookup => Or.inl ?_
    have hother : other ≠ ain := by
      rintro rfl
      obtain ⟨entry, hentry, -⟩ := TtlCache.lookup_eq_some.mp hlookup
      exact (TtlCache.store_of_invalidate hentry).1 rfl
    have hkey : stateKey other ≠ stateKey ain := fun h => hother (stateKey_inj h)
    exact ⟨(TtlCache.store_invalidate_of_ne _ hkey).symm, Function.update_of_ne hother ..⟩

omit [DeviceReading R] in
theorem UpToDate.set {s : Home σ R} (h : UpToDate env s) {ain : String} (r : Stamped R) (expiresAt : ℚ)
    (hr : r.stamp = s.world.effects ain) : UpToDate env { s with cache := s.cache.set (stateKey ain) r expiresAt } := by
  refine h.later (le_refl _) fun other r' hlookup => ?_
  by_cases hother : other = ain
  · subst hother
    obtain ⟨entry, hentry, -, rfl⟩ := TtlCache.lookup_eq_some.mp hlookup
    rw [TtlCache.store_set_self] at hentry
    cases hentry
    exact Or.inr hr.ge
  · have hkey : stateKey other ≠ stateKey ain := fun h => hother (stateKey_inj h)
    exact Or.inl ⟨(TtlCache.store_set_of_ne _ _ _ hkey).symm, rfl⟩

theorem keepsUpToDate_pollDevice (hsteady : env.Steady) (haddress : ∀ ain, address (.str ain) = ain) (now : DateTime)
    (device : Device) : KeepsUpToDate env (DeviceService.pollDevice (env.counted address) now device) := by
  intro s hs
  have hlater := hsteady.getDeviceState (.str device.ain) s.world.world
  unfold DeviceService.pollDevice
  rw [Eff.bind_run, Cached.outside_run, getDeviceState_counted haddress, stamped_eq]
  rcases hrun : env.provider.getDeviceState (.str device.ain) s.world.world with ⟨e | reading, world⟩ <;>
    rw [hrun] at hlater
  · exact hs.later hlater fun other r _ => Or.inl ⟨rfl, rfl⟩
  · simp only [Eff.modify_bind_run]
    have hread : UpToDate env { s with world := { s.world with world } } :=
      hs.later hlater fun other r _ => Or.inl ⟨rfl, rfl⟩
    have hset := hread.set ⟨reading, s.world.effects device.ain⟩ (env.monotonic world + 65) rfl
    refine KeepsUpToDate.seq (keepsUpToDate_uncounted (hsteady.saveSnapshot _)) (fun _ => KeepsUpToDate.pure 1) _ hset

theorem keepsUpToDate_pollDevices (hsteady : env.Steady) (haddress : ∀ ain, address (.str ain) = ain) (now : DateTime)
    (devices : List Device) : KeepsUpToDate env (DeviceService.pollDevices (env.counted address) now devices) := by
  induction devices with
  | nil => exact KeepsUpToDate.pure 0
  | cons device devices ih =>
    unfold DeviceService.pollDevices
    refine KeepsUpToDate.seq ?_ fun one => KeepsUpToDate.seq ih fun rest => KeepsUpToDate.pure _
    exact (keepsUpToDate_pollDevice hsteady haddress now device).attempt fun _ => KeepsUpToDate.pure 0

theorem keepsUpToDate_poll (hsteady : env.Steady) (haddress : ∀ ain, address (.str ain) = ain) :
    KeepsUpToDate env (pollAllDevices (env.counted address)) := by
  unfold pollAllDevices DeviceService.pollAndSnapshotAll
  refine KeepsUpToDate.attempt ?_ fun _ => KeepsUpToDate.pure ()
  refine KeepsUpToDate.seq ?_ fun _ => keepsUpToDate_uncounted hsteady.commitSnapshots
  refine KeepsUpToDate.seq (keepsUpToDate_uncounted hsteady.activeDevices) fun devices => ?_
  refine KeepsUpToDate.seq (fun _ h => h) fun now => keepsUpToDate_pollDevices hsteady haddress now devices

omit [DeviceReading R] in
/-- A `get_live_state` returns a valid entry, or a reading with the present count, which it stores. -/
theorem getLiveState_cases (env : DeviceEnv σ R) (haddress : ∀ ain, address (.str ain) = ain) (ain : String) (s : Home σ R) :
    (∃ r, s.cache.lookup (env.monotonic s.world.world) (stateKey ain) = some r ∧
        DeviceService.getLiveState (env.counted address) ain s = (.ok r, s)) ∨
      (∃ e world, (env.provider.getDeviceState (.str ain) s.world.world).2 = world ∧
        DeviceService.getLiveState (env.counted address) ain s = (.error e, { s with world := { s.world with world } })) ∨
      ∃ reading world, (env.provider.getDeviceState (.str ain) s.world.world).2 = world ∧
        DeviceService.getLiveState (env.counted address) ain s = (.ok ⟨reading, s.world.effects ain⟩,
          { world := { s.world with world },
            cache := s.cache.set (stateKey ain) ⟨reading, s.world.effects ain⟩ (env.monotonic world + 10) }) := by
  unfold DeviceService.getLiveState
  rcases hlookup : s.cache.lookup (env.monotonic s.world.world) (stateKey ain) with _ | r
  · have hmiss : s.cache.lookup ((env.counted address).monotonic s.world) (stateKey ain) = none := hlookup
    refine Or.inr ?_
    rw [Cached.getOrFetch_of_fetch hmiss, getDeviceState_counted haddress, stamped_eq]
    rcases env.provider.getDeviceState (.str ain) s.world.world with ⟨e | reading, world⟩
    · exact Or.inl ⟨e, world, rfl, rfl⟩
    · exact Or.inr ⟨reading, world, rfl, rfl⟩
  · exact Or.inl ⟨r, rfl, Cached.getOrFetch_of_lookup hlookup⟩

omit [DeviceReading R] in
theorem honest_of_upToDate (haddress : ∀ ain, address (.str ain) = ain) {s : Home σ R} {e : HomeEvent σ}
    (h : UpToDate env s) : Honest env address s e := by
  cases e with
  | getLiveState ain =>
    intro r t hrun
    rcases getLiveState_cases env haddress ain s with
      ⟨r', hlookup, hget⟩ | ⟨e, world, -, hget⟩ | ⟨reading, world, -, hget⟩ <;> rw [hget] at hrun <;> cases hrun
    · exact h ain r hlookup
    · exact le_rfl
  | turnOn | turnOff | setTemperature | setBrightness | job | rules | poll | elapse => trivial

omit [DeviceReading R] in
theorem keepsUpToDate_getLiveState (hsteady : env.Steady) (haddress : ∀ ain, address (.str ain) = ain) (ain : String) :
    KeepsUpToDate env (DeviceService.getLiveState (env.counted address) ain) := by
  intro s hs
  have hlater := hsteady.getDeviceState (.str ain) s.world.world
  rcases getLiveState_cases env haddress ain s with
    ⟨r, -, hget⟩ | ⟨e, world, hworld, hget⟩ | ⟨reading, world, hworld, hget⟩ <;> rw [hget]
  · exact hs
  · rw [hworld] at hlater
    exact hs.later hlater fun other r _ => Or.inl ⟨rfl, rfl⟩
  · rw [hworld] at hlater
    have hread : UpToDate env { s with world := { s.world with world } } :=
      hs.later hlater fun other r _ => Or.inl ⟨rfl, rfl⟩
    exact hread.set _ _ rfl

/-! ### Jobs and rules -/

omit [DeviceReading R] in
theorem counted_keeps (hsteady : env.Steady) :
    (env.counted address).toEnv.Keeps fun s t => Later env.monotonic s.world t.world where
  getDeviceState ain s := by
    have hlater := hsteady.getDeviceState ain s.world
    show Later env.monotonic s.world (stamped (address ain) (env.provider.getDeviceState ain) s).2.world
    rw [stamped_eq]
    rcases hrun : env.provider.getDeviceState ain s.world with ⟨e | reading, world⟩ <;> rw [hrun] at hlater <;>
      exact hlater
  send ain command s := by
    have hlater := hsteady.send ain command s.world
    rw [show (env.counted address).provider = env.provider.counted address from rfl, send_counted, counted_eq]
    rcases hrun : env.provider.send ain command s.world with ⟨e | ⟨⟩, world⟩ <;> rw [hrun] at hlater <;> exact hlater
  getCurrent s := hsteady.getCurrent s.world
  enabledRules s := hsteady.enabledRules s.world
  commitTriggered stamps s := hsteady.commitTriggered stamps s.world
  stampSchedule id s := hsteady.stampSchedule id s.world

theorem later_refl {monotonic : σ → ℚ} (s : Counted σ) : Later monotonic s.world s.world := le_refl (monotonic s.world)

theorem later_trans {monotonic : σ → ℚ} (s t u : Counted σ) (h : Later monotonic s.world t.world)
    (h' : Later monotonic t.world u.world) : Later monotonic s.world u.world :=
  le_trans h h'

omit [DeviceReading R] in
theorem jobFunc_later (hsteady : env.Steady) (id : Uuid) (config : PyDict) (s : Counted σ) :
    Later env.monotonic s.world (jobFunc (env.counted address) id config s).2.world :=
  Env.Keeps.seq later_trans (Env.Keeps.executeAction later_refl (counted_keeps hsteady) config)
    (fun _ => (counted_keeps hsteady).stampSchedule id) s

theorem evaluateAllRules_later (hsteady : env.Steady) (s : Counted σ) :
    Later env.monotonic s.world (evaluateAllRules (env.counted address).toEnv s).2.world :=
  Env.Keeps.evaluateAllRules later_refl later_trans (counted_keeps hsteady) s

omit [DeviceReading R] in
/-- A background task leaves the cache alone, so that it has to leave alone the devices with a valid entry. -/
theorem upToDate_outside {m : Py (Counted σ) Unit} {s t : Home σ R} (h : UpToDate env s)
    (ht : (Cached.outside m s).2 = t) (hlater : Later env.monotonic s.world.world (m s.world).2.world)
    (hunseen : ∀ ain, t.world.effects ain ≠ s.world.effects ain →
      s.cache.lookup (env.monotonic t.world.world) (stateKey ain) = none) :
    UpToDate env t := by
  subst ht
  refine h.later hlater fun ain r hlookup => Or.inl ⟨rfl, ?_⟩
  by_contra hne
  have hcache : (Cached.outside m s).2.cache = s.cache := rfl
  rw [hcache, hunseen ain hne] at hlookup
  cases hlookup

/-! ### The steps -/

theorem upToDate_step (hsteady : env.Steady) (haddress : ∀ ain, address (.str ain) = ain) {s t : Home σ R}
    {e : HomeEvent σ} (h : UpToDate env s) (hok : Unseen env address s e) (hstep : step env address s e = some t) :
    UpToDate env t := by
  cases e with
  | turnOn ain =>
    cases hstep
    exact keepsUpToDate_control hsteady haddress ain _ s h
  | turnOff ain =>
    cases hstep
    exact keepsUpToDate_control hsteady haddress ain _ s h
  | setTemperature ain celsius =>
    cases hstep
    exact keepsUpToDate_control hsteady haddress ain _ s h
  | setBrightness ain level =>
    cases hstep
    exact keepsUpToDate_control hsteady haddress ain _ s h
  | job id config =>
    have ht : (Cached.outside (jobFunc (env.counted address) id config) s).2 = t := Option.some.inj hstep
    exact upToDate_outside h ht (jobFunc_later hsteady id config s.world) fun ain hne => hok t ain hstep hne
  | rules =>
    have ht : (Cached.outside (evaluateAllRules (env.counted address).toEnv) s).2 = t := Option.some.inj hstep
    exact upToDate_outside h ht (evaluateAllRules_later hsteady s.world) fun ain hne => hok t ain hstep hne
  | poll =>
    cases hstep
    exact keepsUpToDate_poll hsteady haddress s h
  | getLiveState ain =>
    cases hstep
    exact KeepsUpToDate.seq (keepsUpToDate_getLiveState hsteady haddress ain) (fun _ => KeepsUpToDate.pure ()) s h
  | elapse world =>
    simp only [step] at hstep
    split at hstep
    next hlater =>
      cases hstep
      exact h.later hlater fun ain r _ => Or.inl ⟨rfl, rfl⟩
    · cases hstep

end Home

/-- In every run, from an empty cache, whose jobs and passes over the rules carry out no command for a device
    with a valid entry, no `get_live_state` returns a reading from before the latest successful command. -/
theorem live_states_honest [DeviceReading R] (env : DeviceEnv σ R) (address : PyValue → String) (world : σ)
    (es : List (HomeEvent σ)) (hsteady : env.Steady) (haddress : ∀ ain, address (.str ain) = ain)
    (hunseen : Meets (Home.step env address) (Home.Unseen env address)
      { world := { world, effects := fun _ => 0 }, cache := .empty } es) :
    Meets (Home.step env address) (Home.Honest env address)
      { world := { world, effects := fun _ => 0 }, cache := .empty } es := by
  refine Meets.imp (I := Home.UpToDate env) (Home.upToDate_step hsteady haddress)
    (fun h _ => Home.honest_of_upToDate haddress h) ?_ hunseen
  rintro ain r ⟨⟩

end

/-! ### A run -/

/-- The mock provider beside a clock. -/
structure MockWorld where
  devices : MockProvider
  clock : ℚ

namespace MockWorld

/-- A program over the mock provider. -/
def lift {α : Type} (m : Py MockProvider α) : Py MockWorld α :=
  Eff.zoom (·.devices) (fun devices w => { w with devices }) m

/-- The application with the mock provider. -/
def env : DeviceEnv MockWorld DeviceState where
  provider := {
    discoverDevices := lift MockProvider.discoverDevices
    getDeviceState := fun ain => lift (MockProvider.getDeviceState ain)
    setSwitch := fun ain on => lift (MockProvider.setSwitch ain on)
    setTemperature := fun ain celsius => lift (MockProvider.setTemperature ain celsius)
    setDimmer := fun ain level => lift (MockProvider.setDimmer ain level) }
  getCurrent := pure none
  utcnow _ := 0
  enabledRules := pure []
  commitTriggered _ := pure ()
  stampSchedule _ := pure ()
  monotonic w := w.clock
  activeDevices := pure []
  saveSnapshot _ := pure ()
  commitSnapshots := pure ()

theorem env_steady : env.Steady where
  getDeviceState _ _ := le_rfl
  send _ command _ := by cases command <;> exact le_rfl
  getCurrent _ := le_rfl
  enabledRules _ := le_rfl
  commitTriggered _ _ := le_rfl
  stampSchedule _ _ := le_rfl
  activeDevices _ := le_rfl
  saveSnapshot _ _ := le_rfl
  commitSnapshots _ := le_rfl

/-- A plug that is off. -/
def plug : MockWorld where
  devices := {
    devices := [{ ain := "08761 0374811", name := "Küche Steckdose", deviceType := .switch, capabilities := [.switch],
                  isPresent := true }]
    states := fun ain => { ain, isOn := some false } }
  clock := 0

/-- The action that switches the plug on. -/
def switchOn : PyDict := [("ain", .str "08761 0374811"), ("action", .str "on")]

/-- The page reads the plug, a schedule switches it on, and the page reads it again. -/
def switchedBehindCache : List (HomeEvent MockWorld) :=
  [.getLiveState "08761 0374811", .job 1 switchOn, .getLiveState "08761 0374811"]

theorem switched_behind_cache_stale :
    ¬ Meets (Home.step env PyValue.text) (Home.Honest env PyValue.text)
      { world := { world := plug, effects := fun _ => 0 }, cache := .empty } switchedBehindCache := by
  intro h
  have hlast := (h.2 _ rfl).2 _ rfl
  have hstale : 1 ≤ 0 := by
    refine hlast.1 ⟨{ ain := "08761 0374811", isOn := some false }, 0⟩ _ (Cached.getOrFetch_of_lookup ?_)
    refine TtlCache.lookup_eq_some.mpr ⟨_, rfl, ?_, rfl⟩
    show (0 : ℚ) < 0 + 10
    norm_num
  omega

/-- The schedule fires before the page reads the plug, and the page then switches it off. -/
def switchedBeforeCache : List (HomeEvent MockWorld) :=
  [.job 1 switchOn, .getLiveState "08761 0374811", .turnOff "08761 0374811", .getLiveState "08761 0374811"]

theorem switched_before_cache_honest :
    Meets (Home.step env PyValue.text) (Home.Honest env PyValue.text)
      { world := { world := plug, effects := fun _ => 0 }, cache := .empty } switchedBeforeCache := by
  refine live_states_honest env PyValue.text plug switchedBeforeCache env_steady (fun _ => rfl) ⟨?_, ?_⟩
  · rintro t ain ⟨⟩ -
    rfl
  · rintro t ⟨⟩
    refine ⟨trivial, ?_⟩
    rintro t ⟨⟩
    refine ⟨trivial, ?_⟩
    rintro t ⟨⟩
    exact ⟨trivial, fun _ _ => trivial⟩

end MockWorld
end SmartHome
