import SmartHome.Devices.Service

/-! # Commands and later reads

Calls of the device service overlap over one `device_state_cache`. Every provider call takes effect at one
instant between its call and its return. A reading carries the number of commands for its device that had
taken effect when it was read. -/

namespace SmartHome
open Run

/-- A reading with the count of the commands before it. -/
structure Stamped (R : Type) where
  reading : R
  stamp : ℕ

/-- How far a call of the device service has come. -/
inductive DeviceCall (R : Type) where
  | idle
  /-- `get_live_state`: the latest command that had returned when it was called, and what its fetch has read. -/
  | get (ain : String) (floor : ℕ) (read : Option (Stamped R))
  /-- `turn_on`, `turn_off`, `set_temperature` or `set_brightness` has called the provider. -/
  | command (ain : String)
  /-- The command has taken effect, as the `n`-th of its device. -/
  | commanded (ain : String) (n : ℕ)
  | poll (ains : List String)
  | polled (ain : String) (read : Stamped R) (ains : List String)
  | done

/-- The cache of the states, with the commands and the readers. -/
structure Traffic (R : Type) where
  shared : SharedCache (Stamped R)
  /-- The number of commands of a device that have taken effect. -/
  effects : String → ℕ
  /-- The latest command of a device that has returned. -/
  returned : String → ℕ
  call : ℕ → DeviceCall R

/-- What readers, commands and polls do. -/
inductive TrafficEvent (R : Type) where
  | getCall (i : ℕ) (ain : String)
  | getEnter (i : ℕ)
  | read (i : ℕ) (reading : R)
  | getReturn (i : ℕ)
  | getFail (i : ℕ)
  | command (i : ℕ) (ain : String)
  | effect (i : ℕ)
  | commandReturn (i : ℕ)
  | commandFail (i : ℕ)
  | poll (i : ℕ) (ains : List String)
  | store (i : ℕ)
  | skip (i : ℕ)
  | tick (now : ℚ)

namespace Traffic
variable {R : Type}

/-- Nothing is cached, and nobody calls. -/
def initial (now : ℚ) : Traffic R where
  shared := {
    cache := .empty
    clock := now
    lock := fun _ => none
    getter := fun _ => .idle }
  effects _ := 0
  returned _ := 0
  call _ := .idle

/-- The call is at this point now. -/
def setCall (i : ℕ) (c : DeviceCall R) (s : Traffic R) : Traffic R := { s with call := Function.update s.call i c }

/-- A step of the cache together with the call. -/
def drive (s : Traffic R) (e : CacheEvent (Stamped R)) (i : ℕ) (c : DeviceCall R) : Option (Traffic R) :=
  (s.shared.step e).map fun shared => setCall i c { s with shared }

/-- What an event does, if the call is at the point for it. -/
def step (s : Traffic R) : TrafficEvent R → Option (Traffic R)
  | .getCall i ain =>
    match s.call i with
    | .idle => s.drive (.call i (stateKey ain) 10) i (.get ain (s.returned ain) none)
    | _ => none
  | .getEnter i =>
    match s.call i with
    | .get ain floor read => s.drive (.enter i) i (.get ain floor read)
    | _ => none
  | .read i reading =>
    match s.call i, s.shared.getter i with
    | .get ain floor none, .fetching _ _ => some (s.setCall i (.get ain floor (some ⟨reading, s.effects ain⟩)))
    | .poll (ain :: ains), _ => some (s.setCall i (.polled ain ⟨reading, s.effects ain⟩ ains))
    | _, _ => none
  | .getReturn i =>
    match s.call i with
    | .get ain floor (some read) => s.drive (.fetched i read) i (.get ain floor (some read))
    | _ => none
  | .getFail i =>
    match s.call i with
    | .get ain floor read => s.drive (.failed i) i (.get ain floor read)
    | _ => none
  | .command i ain =>
    match s.call i with
    | .idle => some (s.setCall i (.command ain))
    | _ => none
  | .effect i =>
    match s.call i with
    | .command ain =>
      some (setCall i (.commanded ain (s.effects ain + 1)) { s with
        effects := Function.update s.effects ain (s.effects ain + 1) })
    | _ => none
  | .commandReturn i =>
    match s.call i with
    | .commanded ain n =>
      drive { s with returned := Function.update s.returned ain (max (s.returned ain) n) }
        (.invalidate (stateKey ain)) i .done
    | _ => none
  | .commandFail i =>
    match s.call i with
    | .command _ | .commanded _ _ => some (s.setCall i .done)
    | _ => none
  | .poll i ains =>
    match s.call i with
    | .idle => some (s.setCall i (.poll ains))
    | _ => none
  | .store i =>
    match s.call i with
    | .polled ain read ains => s.drive (.set (stateKey ain) read 65) i (.poll ains)
    | _ => none
  | .skip i =>
    match s.call i with
    | .poll (_ :: ains) | .polled _ _ ains => some (s.setCall i (.poll ains))
    | _ => none
  | .tick now => (s.shared.step (.tick now)).map fun shared => { s with shared }

/-- No call of `get_live_state` has returned a reading that was taken before the effect of a command that had
    returned when it was called. -/
def Visible (s : Traffic R) : Prop :=
  ∀ i ain floor read v, s.call i = .get ain floor read → s.shared.getter i = .returned v → floor ≤ v.stamp

/-- No fetch and no poll stores a reading that was taken before the effect of a command that has returned. -/
def Current (s : Traffic R) : TrafficEvent R → Prop
  | .getReturn i => ∀ ain floor read, s.call i = .get ain floor (some read) → s.returned ain ≤ read.stamp
  | .store i => ∀ ain read ains, s.call i = .polled ain read ains → s.returned ain ≤ read.stamp
  | _ => True

/-! ### The invariant -/

/-- What a reader gets is not older than the commands that had returned when it began. -/
def GetFresh (returned : String → ℕ) (ain : String) (floor : ℕ) (read : Option (Stamped R)) :
    Getter (Stamped R) → Prop
  | .waiting key _ | .fetching key _ =>
    key = stateKey ain ∧ floor ≤ returned ain ∧ ∀ r, read = some r → floor ≤ r.stamp
  | .returned v => floor ≤ v.stamp
  | .idle | .raised => True

/-- What holds in every state: nothing that can still be read is older than the last command that has returned. -/
structure Fresh (s : Traffic R) : Prop where
  returned : ∀ ain, s.returned ain ≤ s.effects ain
  commanded : ∀ i ain n, s.call i = .commanded ain n → n ≤ s.effects ain
  stored : ∀ ain entry, s.shared.cache.store (stateKey ain) = some entry → s.returned ain ≤ entry.value.stamp
  gets : ∀ i ain floor read, s.call i = .get ain floor read →
    GetFresh s.returned ain floor read (s.shared.getter i)

theorem GetFresh.mono {returned returned' : String → ℕ} {ain : String} {floor : ℕ} {read : Option (Stamped R)}
    {g : Getter (Stamped R)} (h : GetFresh returned ain floor read g) (hmore : returned ain ≤ returned' ain) :
    GetFresh returned' ain floor read g := by
  cases g with
  | waiting key ttl => exact ⟨h.1, h.2.1.trans hmore, h.2.2⟩
  | fetching key ttl => exact ⟨h.1, h.2.1.trans hmore, h.2.2⟩
  | returned v => exact h
  | idle => trivial
  | raised => trivial

theorem Fresh.visible {s : Traffic R} (h : s.Fresh) : s.Visible := by
  intro i ain floor read v hcall hgetter
  have hget := h.gets i ain floor read hcall
  rwa [hgetter] at hget

theorem fresh_initial (now : ℚ) : (initial now : Traffic R).Fresh where
  returned _ := le_rfl
  commanded := by rintro i ain n ⟨⟩
  stored := by rintro ain entry ⟨⟩
  gets := by rintro i ain floor read ⟨⟩

@[simp] theorem setCall_self (s : Traffic R) (i : ℕ) (c : DeviceCall R) : (s.setCall i c).call i = c :=
  Function.update_self ..

theorem setCall_of_ne (s : Traffic R) {i j : ℕ} (c : DeviceCall R) (h : j ≠ i) : (s.setCall i c).call j = s.call j :=
  Function.update_of_ne h ..

theorem Fresh.move {s t : Traffic R} (h : s.Fresh) {i : ℕ} (hreturned : t.returned = s.returned)
    (heffects : t.effects = s.effects) (hcall : ∀ j, j ≠ i → t.call j = s.call j)
    (hgetter : ∀ j, j ≠ i → t.shared.getter j = s.shared.getter j) (hcommanded : ∀ ain n, t.call i ≠ .commanded ain n)
    (hstored : ∀ ain entry, t.shared.cache.store (stateKey ain) = some entry → s.returned ain ≤ entry.value.stamp)
    (hget : ∀ ain floor read, t.call i = .get ain floor read →
      GetFresh s.returned ain floor read (t.shared.getter i)) : t.Fresh where
  returned ain := by
    rw [hreturned, heffects]
    exact h.returned ain
  commanded j ain n hj := by
    by_cases hji : j = i
    · subst hji
      exact absurd hj (hcommanded ain n)
    · rw [hcall j hji] at hj
      rw [heffects]
      exact h.commanded j ain n hj
  stored ain entry hentry := by
    rw [hreturned]
    exact hstored ain entry hentry
  gets j ain floor read hj := by
    rw [hreturned]
    by_cases hji : j = i
    · subst hji
      exact hget ain floor read hj
    · rw [hcall j hji] at hj
      rw [hgetter j hji]
      exact h.gets j ain floor read hj

theorem Fresh.setCall {s : Traffic R} (h : s.Fresh) {i : ℕ} {c : DeviceCall R}
    (hget : ∀ ain floor read, c ≠ .get ain floor read) (hcommanded : ∀ ain n, c ≠ .commanded ain n) :
    (s.setCall i c).Fresh := by
  refine h.move (i := i) rfl rfl (fun j hj => setCall_of_ne s c hj) (fun j _ => rfl) ?_ h.stored ?_
  · intro ain n
    rw [setCall_self]
    exact hcommanded ain n
  · intro ain floor read hcall
    rw [setCall_self] at hcall
    exact absurd hcall (hget ain floor read)

theorem Fresh.setGet {s : Traffic R} (h : s.Fresh) {i : ℕ} {ain : String} {floor : ℕ} {read : Option (Stamped R)}
    {g : Getter (Stamped R)} (shared : SharedCache (Stamped R)) (hgetter : shared.getter = s.shared.getter)
    (hstored : ∀ ain entry, shared.cache.store (stateKey ain) = some entry → s.returned ain ≤ entry.value.stamp)
    (hget : GetFresh s.returned ain floor read g) :
    (Traffic.setCall i (.get ain floor read) { s with shared := shared.setGetter i g }).Fresh := by
  refine h.move (i := i) rfl rfl (fun j hj => setCall_of_ne _ _ hj) (fun j hj => ?_) (by simp) hstored ?_
  · show (shared.setGetter i g).getter j = s.shared.getter j
    rw [SharedCache.setGetter_of_ne _ _ hj, hgetter]
  · intro ain' floor' read' hcall
    rw [setCall_self] at hcall
    cases hcall
    show GetFresh s.returned ain floor read ((shared.setGetter i g).getter i)
    rwa [SharedCache.setGetter_self]

theorem Fresh.lookup {s : Traffic R} (h : s.Fresh) {ain : String} {v : Stamped R}
    (hlookup : s.shared.cache.lookup s.shared.clock (stateKey ain) = some v) : s.returned ain ≤ v.stamp := by
  obtain ⟨entry, hentry, -, rfl⟩ := TtlCache.lookup_eq_some.mp hlookup
  exact h.stored ain entry hentry

theorem Fresh.stored_set {s : Traffic R} (h : s.Fresh) {ain : String} {v : Stamped R} {expiresAt : ℚ}
    (hv : s.returned ain ≤ v.stamp) (other : String) (entry : Entry (Stamped R))
    (hentry : (s.shared.cache.set (stateKey ain) v expiresAt).store (stateKey other) = some entry) :
    s.returned other ≤ entry.value.stamp := by
  rcases TtlCache.store_set_cases hentry with ⟨hkey, rfl⟩ | hentry
  · obtain rfl := stateKey_inj hkey
    exact hv
  · exact h.stored other entry hentry

/-! ### The steps -/

theorem fresh_getCall {s t : Traffic R} {i : ℕ} {ain : String} (h : s.Fresh) (hstep : s.step (.getCall i ain) = some t) :
    t.Fresh := by
  simp only [step.eq_def] at hstep
  split at hstep
  · obtain ⟨shared, hshared, rfl⟩ := Option.map_eq_some_iff.mp hstep
    obtain ⟨-, ⟨value, hlookup, rfl⟩ | ⟨-, rfl⟩⟩ := SharedCache.step_call_inv hshared
    · exact h.setGet _ rfl h.stored (h.lookup hlookup)
    · exact h.setGet _ rfl h.stored ⟨rfl, le_rfl, by rintro r ⟨⟩⟩
  · cases hstep

theorem fresh_getEnter {s t : Traffic R} {i : ℕ} (h : s.Fresh) (hstep : s.step (.getEnter i) = some t) : t.Fresh := by
  simp only [step.eq_def] at hstep
  split at hstep
  next ain floor read hcall =>
    have hget := h.gets i ain floor read hcall
    obtain ⟨shared, hshared, rfl⟩ := Option.map_eq_some_iff.mp hstep
    obtain ⟨key, ttl, hgetter, -, hafter⟩ := SharedCache.step_enter_inv hshared
    rw [hgetter] at hget
    obtain ⟨rfl, hfloor, hread⟩ := hget
    rcases hafter with ⟨value, hlookup, rfl⟩ | ⟨-, rfl⟩
    · exact h.setGet _ rfl h.stored (hfloor.trans (h.lookup hlookup))
    · exact h.setGet { s.shared with lock := _ } rfl h.stored ⟨rfl, hfloor, hread⟩
  · cases hstep

theorem fresh_read {s t : Traffic R} {i : ℕ} {reading : R} (h : s.Fresh) (hstep : s.step (.read i reading) = some t) :
    t.Fresh := by
  simp only [step.eq_def] at hstep
  split at hstep
  next ain floor key ttl hcall hgetter =>
    cases hstep
    have hget := h.gets i ain floor none hcall
    rw [hgetter] at hget
    obtain ⟨rfl, hfloor, -⟩ := hget
    refine h.move (i := i) rfl rfl (fun j hj => setCall_of_ne s _ hj) (fun j _ => rfl) (by simp) h.stored ?_
    intro ain' floor' read' hcall'
    rw [setCall_self] at hcall'
    cases hcall'
    show GetFresh s.returned ain floor _ (s.shared.getter i)
    rw [hgetter]
    refine ⟨rfl, hfloor, ?_⟩
    rintro r ⟨⟩
    exact hfloor.trans (h.returned ain)
  · cases hstep
    exact h.setCall (by simp) (by simp)
  · cases hstep

theorem fresh_getReturn {s t : Traffic R} {i : ℕ} (h : s.Fresh) (hok : s.Current (.getReturn i))
    (hstep : s.step (.getReturn i) = some t) : t.Fresh := by
  simp only [step.eq_def] at hstep
  split at hstep
  next ain floor read hcall =>
    have hget := h.gets i ain floor (some read) hcall
    have hread := hok ain floor read hcall
    obtain ⟨shared, hshared, rfl⟩ := Option.map_eq_some_iff.mp hstep
    obtain ⟨key, ttl, hgetter, rfl⟩ := SharedCache.step_fetched_inv hshared
    rw [hgetter] at hget
    obtain ⟨rfl, -, hfloor⟩ := hget
    exact h.setGet { s.shared with
      cache := s.shared.cache.set (stateKey ain) read (s.shared.clock + ttl)
      lock := _ } rfl (h.stored_set hread) (hfloor read rfl)
  · cases hstep

theorem fresh_getFail {s t : Traffic R} {i : ℕ} (h : s.Fresh) (hstep : s.step (.getFail i) = some t) : t.Fresh := by
  simp only [step.eq_def] at hstep
  split at hstep
  · obtain ⟨shared, hshared, rfl⟩ := Option.map_eq_some_iff.mp hstep
    obtain ⟨key, ttl, -, rfl⟩ := SharedCache.step_failed_inv hshared
    exact h.setGet { s.shared with lock := _ } rfl h.stored trivial
  · cases hstep

theorem fresh_effect {s t : Traffic R} {i : ℕ} (h : s.Fresh) (hstep : s.step (.effect i) = some t) : t.Fresh := by
  simp only [step.eq_def] at hstep
  split at hstep
  next ain hcall =>
    cases hstep
    have hmore : ∀ other, s.effects other ≤ Function.update s.effects ain (s.effects ain + 1) other := by
      intro other
      by_cases hother : other = ain
      · subst hother
        rw [Function.update_self]
        omega
      · rw [Function.update_of_ne hother]
    refine ⟨fun other => (h.returned other).trans (hmore other), fun j other n hj => ?_, h.stored,
      fun j other floor read hj => ?_⟩
    · by_cases hji : j = i
      · subst hji
        rw [setCall_self] at hj
        cases hj
        show s.effects ain + 1 ≤ Function.update s.effects ain (s.effects ain + 1) ain
        rw [Function.update_self]
      · rw [setCall_of_ne _ _ hji] at hj
        exact (h.commanded j other n hj).trans (hmore other)
    · by_cases hji : j = i
      · subst hji
        rw [setCall_self] at hj
        cases hj
      · rw [setCall_of_ne _ _ hji] at hj
        exact h.gets j other floor read hj
  · cases hstep

theorem fresh_commandReturn {s t : Traffic R} {i : ℕ} (h : s.Fresh) (hstep : s.step (.commandReturn i) = some t) :
    t.Fresh := by
  simp only [step.eq_def] at hstep
  split at hstep
  next ain n hcall =>
    cases hstep
    have hn := h.commanded i ain n hcall
    have hmore : ∀ other, s.returned other ≤ Function.update s.returned ain (max (s.returned ain) n) other := by
      intro other
      by_cases hother : other = ain
      · subst hother
        rw [Function.update_self]
        exact le_max_left ..
      · rw [Function.update_of_ne hother]
    refine ⟨fun other => ?_, fun j other n hj => ?_, fun other entry hentry => ?_, fun j other floor read hj => ?_⟩
    · show Function.update s.returned ain (max (s.returned ain) n) other ≤ s.effects other
      by_cases hother : other = ain
      · subst hother
        rw [Function.update_self]
        exact max_le (h.returned other) hn
      · rw [Function.update_of_ne hother]
        exact h.returned other
    · by_cases hji : j = i
      · subst hji
        rw [setCall_self] at hj
        cases hj
      · rw [setCall_of_ne _ _ hji] at hj
        exact h.commanded j other n hj
    · obtain ⟨hkey, hentry⟩ := TtlCache.store_of_invalidate hentry
      have hother : other ≠ ain := fun heq => hkey (congrArg stateKey heq)
      show Function.update s.returned ain (max (s.returned ain) n) other ≤ entry.value.stamp
      rw [Function.update_of_ne hother]
      exact h.stored other entry hentry
    · by_cases hji : j = i
      · subst hji
        rw [setCall_self] at hj
        cases hj
      · rw [setCall_of_ne _ _ hji] at hj
        exact (h.gets j other floor read hj).mono (hmore other)
  · cases hstep

theorem fresh_store {s t : Traffic R} {i : ℕ} (h : s.Fresh) (hok : s.Current (.store i))
    (hstep : s.step (.store i) = some t) : t.Fresh := by
  simp only [step.eq_def] at hstep
  split at hstep
  next ain read ains hcall =>
    cases hstep
    refine h.move (i := i) rfl rfl (fun j hj => setCall_of_ne _ _ hj) (fun j _ => rfl) (by simp)
      (h.stored_set (hok ain read ains hcall)) ?_
    intro ain' floor' read' hcall'
    rw [setCall_self] at hcall'
    cases hcall'
  · cases hstep

theorem fresh_step {s t : Traffic R} {e : TrafficEvent R} (h : s.Fresh) (hok : s.Current e) (hstep : s.step e = some t) :
    t.Fresh := by
  cases e with
  | getCall i ain => exact fresh_getCall h hstep
  | getEnter i => exact fresh_getEnter h hstep
  | read i reading => exact fresh_read h hstep
  | getReturn i => exact fresh_getReturn h hok hstep
  | getFail i => exact fresh_getFail h hstep
  | effect i => exact fresh_effect h hstep
  | commandReturn i => exact fresh_commandReturn h hstep
  | store i => exact fresh_store h hok hstep
  | tick now =>
    obtain ⟨shared, hshared, rfl⟩ := Option.map_eq_some_iff.mp hstep
    obtain ⟨-, rfl⟩ := SharedCache.step_tick_inv hshared
    exact ⟨h.returned, h.commanded, h.stored, h.gets⟩
  | command i ain | commandFail i | poll i ains | skip i =>
    simp only [step.eq_def] at hstep
    split at hstep
    all_goals first
      | (cases hstep; exact h.setCall (by simp) (by simp))
      | cases hstep

/-- However the calls overlap: as long as no fetch and no poll stores a reading from before a command that has
    returned, every `get_live_state` that starts after a command returns a reading from after it. -/
theorem commands_visible {s : Traffic R} (now : ℚ) (es : List (TrafficEvent R))
    (hcurrent : Meets step Current (initial now) es) (hvisit : Visits step (initial now) es s) : s.Visible :=
  (invariant_of_visits (I := Fresh) fresh_step (fresh_initial now) hcurrent hvisit).visible

/-! ### A run -/

/-- A fetch reads the device; a command is carried out and returns; the fetch stores what it has read; a new
    call finds it. -/
def staleFetch : List (TrafficEvent Bool) :=
  [.getCall 0 "08761 0374811", .getEnter 0, .read 0 false, .command 1 "08761 0374811", .effect 1, .commandReturn 1,
    .getReturn 0, .getCall 2 "08761 0374811"]

theorem step_getCall_of_lookup {s : Traffic R} {i : ℕ} {ain : String} {v : Stamped R} (hcall : s.call i = .idle)
    (hgetter : s.shared.getter i = .idle)
    (hlookup : s.shared.cache.lookup s.shared.clock (stateKey ain) = some v) :
    s.step (.getCall i ain) = some (Traffic.setCall i (.get ain (s.returned ain) none) { s with
      shared := s.shared.setGetter i (.returned v) }) := by
  simp [step, hcall, drive, SharedCache.step, hgetter, hlookup]

theorem stale_fetch_hides_command : ∃ s, Visits step (initial 0) staleFetch s ∧ ¬ s.Visible := by
  refine ⟨_, ⟨staleFetch, List.prefix_rfl, (run_append : run _ _ ([_, _, _, _, _, _, _] ++ _) = _ ↔ _).mpr
    ⟨_, rfl, run_cons.mpr ⟨_, step_getCall_of_lookup (v := ⟨false, 0⟩) rfl rfl ?_, rfl⟩⟩⟩, fun h => ?_⟩
  · refine TtlCache.lookup_eq_some.mpr ⟨_, rfl, ?_, rfl⟩
    show (0 : ℚ) < 0 + 10
    norm_num
  · have hfloor : 1 ≤ 0 := h 2 "08761 0374811" 1 none ⟨false, 0⟩ rfl rfl
    omega

/-- The same calls, the command being called after the fetch has returned. -/
def freshFetch : List (TrafficEvent Bool) :=
  [.getCall 0 "08761 0374811", .getEnter 0, .read 0 false, .getReturn 0, .command 1 "08761 0374811", .effect 1,
    .commandReturn 1, .getCall 2 "08761 0374811"]

theorem fresh_fetch_shows_command : ∃ s, Visits step (initial 0) freshFetch s ∧ s.Visible := by
  have hvisit : Visits step (initial 0) freshFetch _ := ⟨freshFetch, List.prefix_rfl, rfl⟩
  refine ⟨_, hvisit, commands_visible 0 freshFetch ?_ hvisit⟩
  refine ⟨trivial, ?_⟩
  rintro _ ⟨⟩
  refine ⟨trivial, ?_⟩
  rintro _ ⟨⟩
  refine ⟨trivial, ?_⟩
  rintro _ ⟨⟩
  refine ⟨?_, ?_⟩
  · rintro ain floor read ⟨⟩
    exact le_rfl
  · rintro _ ⟨⟩
    refine ⟨trivial, ?_⟩
    rintro _ ⟨⟩
    refine ⟨trivial, ?_⟩
    rintro _ ⟨⟩
    refine ⟨trivial, ?_⟩
    rintro _ ⟨⟩
    exact ⟨trivial, fun _ _ => trivial⟩

end Traffic
end SmartHome
