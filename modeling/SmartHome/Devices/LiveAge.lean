import SmartHome.Devices.Service

/-! # The age of live states

`device_state_cache` has two writers: `get_live_state`, whose entries last 10 seconds, and the poller, whose entries
last 65. Reads, polls and commands overlap, and the provider takes any time to answer. -/

namespace SmartHome
open Run

/-- A reading, the time when the provider's read of it returned, and who asked. -/
structure Dated (R : Type) where
  reading : R
  readAt : ℚ
  byPoll : Bool

/-- The cache of the states, with the clock and the readers. -/
structure LiveReads (R : Type) where
  shared : SharedCache (Dated R)
  /-- When a call of `get_live_state` began. -/
  began : ℕ → ℚ

/-- What readers and polls do. -/
inductive LiveReadsEvent (R : Type) where
  | getCall (i : ℕ) (ain : String)
  | getEnter (i : ℕ)
  /-- The provider answers a fetch, which is stored in the same instant. -/
  | getReturn (i : ℕ) (reading : R)
  | getFail (i : ℕ)
  /-- The provider answers the poller. -/
  | polled (ain : String) (reading : R)
  /-- A command of the device has returned. -/
  | commanded (ain : String)
  | tick (now : ℚ)

namespace LiveReads
variable {R : Type}

/-- Nothing is cached, and nobody reads. -/
def initial (now : ℚ) : LiveReads R where
  shared := {
    cache := .empty
    clock := now
    lock := fun _ => none
    getter := fun _ => .idle }
  began _ := now

/-- A step of the cache alone. -/
def drive (s : LiveReads R) (e : CacheEvent (Dated R)) : Option (LiveReads R) :=
  (s.shared.step e).map fun shared => { s with shared }

/-- What an event does to the cache. -/
def step (s : LiveReads R) : LiveReadsEvent R → Option (LiveReads R)
  | .getCall i ain => drive { s with began := Function.update s.began i s.shared.clock } (.call i (stateKey ain) 10)
  | .getEnter i => s.drive (.enter i)
  | .getReturn i reading => s.drive (.fetched i ⟨reading, s.shared.clock, false⟩)
  | .getFail i => s.drive (.failed i)
  | .polled ain reading => s.drive (.set (stateKey ain) ⟨reading, s.shared.clock, true⟩ 65)
  | .commanded ain => s.drive (.invalidate (stateKey ain))
  | .tick now => s.drive (.tick now)

/-- A state that a call has returned was read at most 10 seconds before the call began, or since. -/
def Recent (s : LiveReads R) : Prop := ∀ i v, s.shared.getter i = .returned v → s.began i ≤ v.readAt + 10

/-- After the step all returned states are recent. -/
def Serves (s : LiveReads R) (e : LiveReadsEvent R) : Prop := ∀ t, s.step e = some t → t.Recent

/-- No call begins while an entry of the poller is valid and more than 10 seconds old. -/
def Timely (s : LiveReads R) : LiveReadsEvent R → Prop
  | .getCall i ain => s.shared.getter i = .idle → ∀ entry, s.shared.cache.store (stateKey ain) = some entry →
      entry.value.byPoll = true → s.shared.clock ≤ entry.value.readAt + 10 ∨ entry.expiresAt ≤ s.shared.clock
  | _ => True

/-! ## The invariant -/

/-- How long a value is kept. -/
def ttlOf (v : Dated R) : ℚ := if v.byPoll then 65 else 10

/-- The value was read in the past, and expires when its time is over. -/
structure EntryDated (clock : ℚ) (entry : Entry (Dated R)) : Prop where
  past : entry.value.readAt ≤ clock
  lasts : entry.expiresAt = entry.value.readAt + ttlOf entry.value

/-- A call that waits for the lock finds nothing from before it began. -/
def GetDated (cache : TtlCache (Dated R)) (began : ℚ) : Getter (Dated R) → Prop
  | .waiting key ttl => ttl = 10 ∧
      ∀ entry, cache.store key = some entry → began ≤ entry.value.readAt ∨ entry.expiresAt ≤ began
  | .fetching _ ttl => ttl = 10
  | .returned v => began ≤ v.readAt + 10
  | .idle | .raised => True

/-- What holds in every state: dated entries, dated reads. -/
structure DatedInv (s : LiveReads R) : Prop where
  entries : ∀ key entry, s.shared.cache.store key = some entry → EntryDated s.shared.clock entry
  begun : ∀ i, s.shared.getter i ≠ .idle → s.began i ≤ s.shared.clock
  gets : ∀ i, GetDated s.shared.cache (s.began i) (s.shared.getter i)

theorem DatedInv.recent {s : LiveReads R} (h : s.DatedInv) : s.Recent := by
  intro i v hreturned
  have hget := h.gets i
  rwa [hreturned] at hget

theorem datedInv_initial (now : ℚ) : (initial now : LiveReads R).DatedInv where
  entries := by rintro key entry ⟨⟩
  begun i hbusy := absurd rfl hbusy
  gets _ := trivial

variable {s t : LiveReads R}

/-- Another entry in the cache is no older than the calls that wait. -/
theorem GetDated.store {cache cache' : TtlCache (Dated R)} {began : ℚ} {g : Getter (Dated R)} (h : GetDated cache began g)
    (hnew : ∀ key entry, cache'.store key = some entry → cache.store key = some entry ∨ began ≤ entry.value.readAt) :
    GetDated cache' began g := by
  cases g with
  | waiting key ttl =>
    refine ⟨h.1, fun entry hentry => ?_⟩
    rcases hnew key entry hentry with hold | hlater
    · exact h.2 entry hold
    · exact Or.inl hlater
  | fetching key ttl => exact h
  | returned v => exact h
  | idle => trivial
  | raised => trivial

/-- A step that changes one call, and writes to the cache only what was read now. -/
theorem DatedInv.move (h : s.DatedInv) {i : ℕ} {g : Getter (Dated R)} (hclock : t.shared.clock = s.shared.clock)
    (hself : t.shared.getter i = g) (hothers : ∀ j, j ≠ i → t.shared.getter j = s.shared.getter j)
    (hbegan : ∀ j, j ≠ i → t.began j = s.began j) (hbegun : t.began i ≤ s.shared.clock)
    (hcache : ∀ key entry, t.shared.cache.store key = some entry → s.shared.cache.store key = some entry ∨
      entry.value.readAt = s.shared.clock ∧ EntryDated s.shared.clock entry)
    (hget : GetDated t.shared.cache (t.began i) g) : t.DatedInv where
  entries key entry hentry := by
    rw [hclock]
    rcases hcache key entry hentry with hold | ⟨-, hnew⟩
    · exact h.entries key entry hold
    · exact hnew
  begun j hbusy := by
    rw [hclock]
    by_cases hji : j = i
    · rw [hji]
      exact hbegun
    · rw [hothers j hji] at hbusy
      rw [hbegan j hji]
      exact h.begun j hbusy
  gets j := by
    by_cases hji : j = i
    · rw [hji, hself]
      exact hget
    · rw [hothers j hji, hbegan j hji]
      by_cases hbusy : s.shared.getter j = .idle
      · rw [hbusy]
        trivial
      · refine (h.gets j).store fun key entry hentry => (hcache key entry hentry).imp_right fun hnew => ?_
        rw [hnew.1]
        exact h.begun j hbusy

/-- A step of the cache alone. -/
theorem DatedInv.write (h : s.DatedInv) {cache : TtlCache (Dated R)}
    (hcache : ∀ key entry, cache.store key = some entry → s.shared.cache.store key = some entry ∨
      entry.value.readAt = s.shared.clock ∧ EntryDated s.shared.clock entry) :
    ({ s with shared := { s.shared with cache } } : LiveReads R).DatedInv where
  entries key entry hentry := by
    rcases hcache key entry hentry with hold | ⟨-, hnew⟩
    · exact h.entries key entry hold
    · exact hnew
  begun := h.begun
  gets j := by
    by_cases hbusy : s.shared.getter j = .idle
    · dsimp only
      rw [hbusy]
      trivial
    · refine (h.gets j).store fun key entry hentry => (hcache key entry hentry).imp_right fun hnew => ?_
      rw [hnew.1]
      exact h.begun j hbusy

/-! ## The steps -/

theorem lookup_eq_none {cache : TtlCache (Dated R)} {now : ℚ} {key : String} {entry : Entry (Dated R)}
    (h : cache.lookup now key = none) (hentry : cache.store key = some entry) : entry.expiresAt ≤ now := by
  by_contra hvalid
  have hfound := TtlCache.lookup_eq_some.mpr ⟨entry, hentry, not_le.mp hvalid, rfl⟩
  rw [h] at hfound
  cases hfound

theorem datedInv_getCall {i : ℕ} {ain : String} (h : s.DatedInv) (hok : s.Timely (.getCall i ain))
    (hstep : s.step (.getCall i ain) = some t) : t.DatedInv := by
  obtain ⟨shared, hshared, rfl⟩ := Option.map_eq_some_iff.mp hstep
  obtain ⟨hidle, ⟨v, hlookup, rfl⟩ | ⟨hlookup, rfl⟩⟩ := SharedCache.step_call_inv hshared
  · obtain ⟨entry, hentry, hvalid, rfl⟩ := TtlCache.lookup_eq_some.mp hlookup
    have hdated := h.entries _ entry hentry
    refine h.move (i := i) (g := .returned entry.value) rfl (SharedCache.setGetter_self _ _ _)
      (fun j hji => SharedCache.setGetter_of_ne _ _ hji) (fun j hji => Function.update_of_ne hji _ _)
      (Function.update_self ..).le (fun _ _ hold => Or.inl hold) ?_
    show Function.update s.began i s.shared.clock i ≤ entry.value.readAt + 10
    rw [Function.update_self]
    cases hwriter : entry.value.byPoll with
    | true => exact (hok hidle entry hentry hwriter).resolve_right (not_le.mpr hvalid)
    | false =>
      rw [hdated.lasts, ttlOf, hwriter, if_neg Bool.false_ne_true] at hvalid
      exact hvalid.le
  · refine h.move (i := i) (g := .waiting (stateKey ain) 10) rfl (SharedCache.setGetter_self _ _ _)
      (fun j hji => SharedCache.setGetter_of_ne _ _ hji) (fun j hji => Function.update_of_ne hji _ _)
      (Function.update_self ..).le (fun _ _ hold => Or.inl hold) ⟨rfl, fun entry hentry => Or.inr ?_⟩
    have hbegan : Function.update s.began i s.shared.clock i = s.shared.clock := Function.update_self ..
    exact (lookup_eq_none hlookup hentry).trans hbegan.ge

theorem datedInv_getEnter {i : ℕ} (h : s.DatedInv) (hstep : s.step (.getEnter i) = some t) : t.DatedInv := by
  obtain ⟨shared, hshared, rfl⟩ := Option.map_eq_some_iff.mp hstep
  obtain ⟨key, ttl, hwaiting, -, hafter⟩ := SharedCache.step_enter_inv hshared
  have hbegun : s.began i ≤ s.shared.clock := h.begun i (by rw [hwaiting]; simp)
  have hget := h.gets i
  rw [hwaiting] at hget
  rcases hafter with ⟨v, hlookup, rfl⟩ | ⟨-, rfl⟩
  · obtain ⟨entry, hentry, hvalid, rfl⟩ := TtlCache.lookup_eq_some.mp hlookup
    refine h.move (i := i) (g := .returned entry.value) rfl (SharedCache.setGetter_self _ _ _)
      (fun j hji => SharedCache.setGetter_of_ne _ _ hji) (fun _ _ => rfl) hbegun (fun _ _ hold => Or.inl hold) ?_
    -- The entry was not there when the call began, or it had expired.
    have hsince := (hget.2 entry hentry).resolve_right (not_le.mpr (hbegun.trans_lt hvalid))
    show s.began i ≤ entry.value.readAt + 10
    linarith
  · exact h.move (i := i) (g := .fetching key ttl) rfl (SharedCache.setGetter_self _ _ _)
      (fun j hji => SharedCache.setGetter_of_ne _ _ hji) (fun _ _ => rfl) hbegun (fun _ _ hold => Or.inl hold) hget.1

theorem datedInv_getReturn {i : ℕ} {reading : R} (h : s.DatedInv) (hstep : s.step (.getReturn i reading) = some t) :
    t.DatedInv := by
  obtain ⟨shared, hshared, rfl⟩ := Option.map_eq_some_iff.mp hstep
  obtain ⟨key, ttl, hfetching, rfl⟩ := SharedCache.step_fetched_inv hshared
  have hbegun : s.began i ≤ s.shared.clock := h.begun i (by rw [hfetching]; simp)
  have hget := h.gets i
  rw [hfetching] at hget
  obtain rfl : ttl = 10 := hget
  refine h.move (i := i) (g := .returned ⟨reading, s.shared.clock, false⟩) rfl (SharedCache.setGetter_self _ _ _)
    (fun j hji => SharedCache.setGetter_of_ne _ _ hji) (fun _ _ => rfl) hbegun ?_ ?_
  · intro other entry hentry
    rcases TtlCache.store_set_cases hentry with ⟨-, rfl⟩ | hold
    · exact Or.inr ⟨rfl, le_rfl, rfl⟩
    · exact Or.inl hold
  · show s.began i ≤ s.shared.clock + 10
    linarith

theorem datedInv_getFail {i : ℕ} (h : s.DatedInv) (hstep : s.step (.getFail i) = some t) : t.DatedInv := by
  obtain ⟨shared, hshared, rfl⟩ := Option.map_eq_some_iff.mp hstep
  obtain ⟨key, ttl, hfetching, rfl⟩ := SharedCache.step_failed_inv hshared
  have hbegun : s.began i ≤ s.shared.clock := h.begun i (by rw [hfetching]; simp)
  exact h.move (i := i) (g := .raised) rfl (SharedCache.setGetter_self _ _ _)
    (fun j hji => SharedCache.setGetter_of_ne _ _ hji) (fun _ _ => rfl) hbegun (fun _ _ hold => Or.inl hold) trivial

theorem datedInv_step {e : LiveReadsEvent R} (h : s.DatedInv) (hok : s.Timely e) (hstep : s.step e = some t) : t.DatedInv := by
  cases e with
  | getCall i ain => exact datedInv_getCall h hok hstep
  | getEnter i => exact datedInv_getEnter h hstep
  | getReturn i reading => exact datedInv_getReturn h hstep
  | getFail i => exact datedInv_getFail h hstep
  | polled ain reading =>
    cases hstep
    refine h.write fun key entry hentry => ?_
    rcases TtlCache.store_set_cases hentry with ⟨-, rfl⟩ | hold
    · exact Or.inr ⟨rfl, le_rfl, rfl⟩
    · exact Or.inl hold
  | commanded ain =>
    cases hstep
    exact h.write fun key entry hentry => Or.inl (TtlCache.store_of_invalidate hentry).2
  | tick now =>
    obtain ⟨shared, hshared, rfl⟩ := Option.map_eq_some_iff.mp hstep
    obtain ⟨hlater, rfl⟩ := SharedCache.step_tick_inv hshared
    refine ⟨fun key entry hentry => ?_, fun i hbusy => (h.begun i hbusy).trans hlater, h.gets⟩
    have hdated := h.entries key entry hentry
    exact ⟨hdated.past.trans hlater, hdated.lasts⟩

/-- A call that begins too late returns what it finds. -/
theorem timely_of_serves {e : LiveReadsEvent R} (h : s.Serves e) : s.Timely e := by
  cases e with
  | getCall i ain =>
    intro hidle entry hentry _
    by_contra hlate
    rw [not_or, not_le, not_le] at hlate
    have hlookup : s.shared.cache.lookup s.shared.clock (stateKey ain) = some entry.value :=
      TtlCache.lookup_eq_some.mpr ⟨entry, hentry, hlate.2, rfl⟩
    have hstep : s.step (.getCall i ain) = some
        { shared := s.shared.setGetter i (.returned entry.value)
          began := Function.update s.began i s.shared.clock } := by
      simp only [step, drive, SharedCache.step, hidle, hlookup, Option.map_some]
    have hrecent := h _ hstep i entry.value (SharedCache.setGetter_self _ _ _)
    dsimp only at hrecent
    rw [Function.update_self] at hrecent
    exact absurd hrecent (not_le.mpr hlate.1)
  | getEnter | getReturn | getFail | polled | commanded | tick => trivial

/-- However the calls overlap: all states served are recent exactly if no call begins while an entry of the poller
    is valid and more than 10 seconds old. -/
theorem live_states_recent_iff (now : ℚ) (es : List (LiveReadsEvent R)) :
    Meets step Serves (initial now) es ↔ Meets step Timely (initial now) es :=
  meets_iff (I := DatedInv) (fun h hserves hstep => datedInv_step h (timely_of_serves hserves) hstep)
    (fun h => ⟨timely_of_serves, fun hok _ hstep => (datedInv_step h hok hstep).recent⟩) (datedInv_initial now)

/-- The page asks for a plug half a minute after the poller has read it. -/
def halfAMinuteLater : List (LiveReadsEvent Bool) := [.polled "08761 0374811" true, .tick 30, .getCall 0 "08761 0374811"]

theorem polled_state_is_old : ¬ Meets step Serves (initial 0) halfAMinuteLater := by
  rintro ⟨-, hpolled⟩
  obtain ⟨-, hticked⟩ := hpolled _ rfl
  obtain ⟨hserves, -⟩ := hticked _ rfl
  have hage : (30 : ℚ) ≤ 0 + 10 ∨ (0 + 65 : ℚ) ≤ 30 := timely_of_serves hserves rfl ⟨⟨true, 0, true⟩, 0 + 65⟩ rfl rfl
  norm_num at hage

end LiveReads
end SmartHome
