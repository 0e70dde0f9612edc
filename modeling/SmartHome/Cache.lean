import Mathlib.Logic.Function.Basic
import Mathlib.Algebra.Order.Ring.Rat
import SmartHome.Exceptions
import SmartHome.Lib.Run

/-! # The TTL cache

`TTLCache` (`app/cache.py`): its operations, `get_or_fetch` as a program without overlap, and `get_or_fetch`
cut at its `await` points. `time.monotonic()` is a rational. -/

namespace SmartHome

/-- A cached value. -/
structure Entry (V : Type) where
  value : V
  expiresAt : ℚ

/-- The store of `TTLCache`. -/
structure TtlCache (V : Type) where
  store : String → Option (Entry V)

namespace TtlCache
variable {V : Type}

/-- Nothing is cached. -/
def empty : TtlCache V where
  store _ := none

/-- `entry = self._store.get(key)`, when `entry and entry.is_valid()`. -/
def lookup (c : TtlCache V) (now : ℚ) (key : String) : Option V :=
  (c.store key).bind fun entry => if now < entry.expiresAt then some entry.value else none

/-- `TTLCache.set`. -/
def set (key : String) (value : V) (expiresAt : ℚ) (c : TtlCache V) : TtlCache V where
  store := Function.update c.store key (some { value, expiresAt })

/-- `TTLCache.invalidate`. -/
def invalidate (key : String) (c : TtlCache V) : TtlCache V where
  store := Function.update c.store key none

/-- Who holds the value that is stored under the key changes it. -/
def mutate (key : String) (f : V → V) (c : TtlCache V) : TtlCache V where
  store := Function.update c.store key ((c.store key).map fun entry => { entry with value := f entry.value })

theorem lookup_eq_some {c : TtlCache V} {now : ℚ} {key : String} {v : V} :
    c.lookup now key = some v ↔ ∃ entry, c.store key = some entry ∧ now < entry.expiresAt ∧ entry.value = v := by
  simp [lookup, Option.bind_eq_some_iff]

theorem lookup_of_later {c : TtlCache V} {now later : ℚ} {key : String} {v : V} (h : c.lookup later key = some v)
    (hle : now ≤ later) : c.lookup now key = some v := by
  obtain ⟨entry, hentry, hvalid, hv⟩ := lookup_eq_some.mp h
  exact lookup_eq_some.mpr ⟨entry, hentry, hle.trans_lt hvalid, hv⟩

theorem lookup_congr {c d : TtlCache V} {now : ℚ} {key : String} (h : c.store key = d.store key) :
    c.lookup now key = d.lookup now key := by
  rw [lookup, lookup, h]

@[simp] theorem store_set_self (c : TtlCache V) (key : String) (v : V) (t : ℚ) :
    (c.set key v t).store key = some { value := v, expiresAt := t } :=
  Function.update_self ..

theorem store_set_of_ne (c : TtlCache V) {key other : String} (v : V) (t : ℚ) (h : other ≠ key) :
    (c.set key v t).store other = c.store other :=
  Function.update_of_ne h ..

@[simp] theorem store_invalidate_self (c : TtlCache V) (key : String) : (c.invalidate key).store key = none :=
  Function.update_self ..

theorem store_invalidate_of_ne (c : TtlCache V) {key other : String} (h : other ≠ key) :
    (c.invalidate key).store other = c.store other :=
  Function.update_of_ne h ..

theorem store_mutate_self {c : TtlCache V} {key : String} {f : V → V} {entry : Entry V} (h : c.store key = some entry) :
    (c.mutate key f).store key = some { entry with value := f entry.value } := by
  rw [mutate, h]
  exact Function.update_self ..

theorem store_mutate_of_ne (c : TtlCache V) {key other : String} (f : V → V) (h : other ≠ key) :
    (c.mutate key f).store other = c.store other :=
  Function.update_of_ne h ..

@[simp] theorem set_invalidate (c : TtlCache V) (key : String) (v : V) (t : ℚ) :
    (c.invalidate key).set key v t = c.set key v t :=
  congrArg TtlCache.mk (Function.update_idem ..)

theorem store_set_cases {c : TtlCache V} {key other : String} {v : V} {t : ℚ} {entry : Entry V}
    (h : (c.set key v t).store other = some entry) :
    (other = key ∧ entry = { value := v, expiresAt := t }) ∨ c.store other = some entry := by
  by_cases hkey : other = key
  · subst hkey
    rw [store_set_self] at h
    exact Or.inl ⟨rfl, (Option.some.inj h).symm⟩
  · rw [store_set_of_ne c v t hkey] at h
    exact Or.inr h

theorem store_of_invalidate {c : TtlCache V} {key other : String} {entry : Entry V}
    (h : (c.invalidate key).store other = some entry) : other ≠ key ∧ c.store other = some entry := by
  by_cases hkey : other = key
  · subst hkey
    rw [store_invalidate_self] at h
    cases h
  · rw [store_invalidate_of_ne c hkey] at h
    exact ⟨hkey, h⟩

end TtlCache

/-! ## `get_or_fetch` without overlap -/

/-- A world with a cache beside it. -/
structure Cached (σ V : Type) where
  world : σ
  cache : TtlCache V

namespace Cached
variable {σ V α : Type}

/-- A program that does not touch the cache. -/
def outside (m : Py σ α) : Py (Cached σ V) α := Eff.zoom (·.world) (fun world s => { s with world }) m

@[simp] theorem outside_run (m : Py σ α) (s : Cached σ V) :
    outside m s = ((m s.world).1, { s with world := (m s.world).2 }) := rfl

/-- `get_or_fetch`; the lock of the key is free. -/
def getOrFetch (monotonic : σ → ℚ) (key : String) (ttl : ℚ) (fetch : Py σ V) : Py (Cached σ V) V := do
  match ← Eff.gets (fun s => s.cache.lookup (monotonic s.world) key) with
  | some value => pure value
  | none =>
    let value ← outside fetch
    Eff.modify fun s => { s with cache := s.cache.set key value (monotonic s.world + ttl) }
    pure value

theorem getOrFetch_of_lookup {monotonic : σ → ℚ} {key : String} {ttl : ℚ} {fetch : Py σ V} {s : Cached σ V} {v : V}
    (h : s.cache.lookup (monotonic s.world) key = some v) : getOrFetch monotonic key ttl fetch s = (.ok v, s) := by
  unfold getOrFetch
  rw [Eff.gets_bind_run, h]
  rfl

theorem getOrFetch_of_fetch {monotonic : σ → ℚ} {key : String} {ttl : ℚ} {fetch : Py σ V} {s : Cached σ V}
    (h : s.cache.lookup (monotonic s.world) key = none) :
    getOrFetch monotonic key ttl fetch s = match fetch s.world with
      | (.ok v, w) => (.ok v, { world := w, cache := s.cache.set key v (monotonic w + ttl) })
      | (.error e, w) => (.error e, { s with world := w }) := by
  unfold getOrFetch
  rw [Eff.gets_bind_run, h]
  simp only [Eff.bind_run, outside_run]
  rcases fetch s.world with ⟨_ | v, w⟩ <;> rfl

end Cached

/-! ## `get_or_fetch` between its `await` points -/

/-- How far a call of `get_or_fetch` has come. -/
inductive Getter (V : Type) where
  | idle
  | waiting (key : String) (ttl : ℚ)
  | fetching (key : String) (ttl : ℚ)
  | returned (value : V)
  | raised

/-- The cache shared by the coroutines of the process. -/
structure SharedCache (V : Type) where
  cache : TtlCache V
  clock : ℚ
  lock : String → Option ℕ
  getter : ℕ → Getter V

/-- What callers of one cache do, in any order. -/
inductive CacheEvent (V : Type) where
  /-- `get_or_fetch` is called, and runs up to the lock. -/
  | call (i : ℕ) (key : String) (ttl : ℚ)
  | enter (i : ℕ)
  | fetched (i : ℕ) (value : V)
  | failed (i : ℕ)
  | set (key : String) (value : V) (ttl : ℚ)
  | invalidate (key : String)
  | clear
  | tick (now : ℚ)

namespace SharedCache
variable {V : Type}

/-- The caller is at this point now. -/
def setGetter (i : ℕ) (g : Getter V) (s : SharedCache V) : SharedCache V :=
  { s with getter := Function.update s.getter i g }

/-- What an event does, if the caller is at the point for it. -/
def step (s : SharedCache V) : CacheEvent V → Option (SharedCache V)
  | .call i key ttl =>
    match s.getter i with
    | .idle =>
      match s.cache.lookup s.clock key with
      | some value => some (s.setGetter i (.returned value))
      | none => some (s.setGetter i (.waiting key ttl))
    | _ => none
  | .enter i =>
    match s.getter i with
    | .waiting key ttl =>
      match s.lock key with
      | some _ => none
      | none =>
        -- The second check, under the lock.
        match s.cache.lookup s.clock key with
        | some value => some (s.setGetter i (.returned value))
        | none => some (setGetter i (.fetching key ttl) { s with lock := Function.update s.lock key (some i) })
    | _ => none
  | .fetched i value =>
    match s.getter i with
    | .fetching key ttl =>
      some (setGetter i (.returned value) { s with
        cache := s.cache.set key value (s.clock + ttl)
        lock := Function.update s.lock key none })
    | _ => none
  | .failed i =>
    match s.getter i with
    | .fetching key _ => some (setGetter i .raised { s with lock := Function.update s.lock key none })
    | _ => none
  | .set key value ttl => some { s with cache := s.cache.set key value (s.clock + ttl) }
  | .invalidate key => some { s with cache := s.cache.invalidate key }
  | .clear => some { s with cache := .empty }
  | .tick now => if s.clock ≤ now then some { s with clock := now } else none

@[simp] theorem setGetter_self (s : SharedCache V) (i : ℕ) (g : Getter V) : (s.setGetter i g).getter i = g :=
  Function.update_self ..

theorem setGetter_of_ne (s : SharedCache V) {i j : ℕ} (g : Getter V) (h : j ≠ i) :
    (s.setGetter i g).getter j = s.getter j :=
  Function.update_of_ne h ..

/-! ### What a step does -/

theorem step_call_inv {s t : SharedCache V} {i : ℕ} {key : String} {ttl : ℚ} (h : s.step (.call i key ttl) = some t) :
    s.getter i = .idle ∧
      ((∃ value, s.cache.lookup s.clock key = some value ∧ t = s.setGetter i (.returned value)) ∨
        (s.cache.lookup s.clock key = none ∧ t = s.setGetter i (.waiting key ttl))) := by
  simp only [step] at h
  split at h
  · next hidle =>
    refine ⟨hidle, ?_⟩
    split at h
    · next value hlookup =>
      cases h
      exact Or.inl ⟨value, hlookup, rfl⟩
    · next hlookup =>
      cases h
      exact Or.inr ⟨hlookup, rfl⟩
  · cases h

theorem step_enter_inv {s t : SharedCache V} {i : ℕ} (h : s.step (.enter i) = some t) :
    ∃ key ttl, s.getter i = .waiting key ttl ∧ s.lock key = none ∧
      ((∃ value, s.cache.lookup s.clock key = some value ∧ t = s.setGetter i (.returned value)) ∨
        (s.cache.lookup s.clock key = none ∧
          t = setGetter i (.fetching key ttl) { s with lock := Function.update s.lock key (some i) })) := by
  simp only [step] at h
  split at h
  · next key ttl hwaiting =>
    split at h
    · cases h
    · next hfree =>
      refine ⟨key, ttl, hwaiting, hfree, ?_⟩
      split at h
      · next value hlookup =>
        cases h
        exact Or.inl ⟨value, hlookup, rfl⟩
      · next hlookup =>
        cases h
        exact Or.inr ⟨hlookup, rfl⟩
  · cases h

theorem step_fetched_inv {s t : SharedCache V} {i : ℕ} {value : V} (h : s.step (.fetched i value) = some t) :
    ∃ key ttl, s.getter i = .fetching key ttl ∧ t = setGetter i (.returned value) { s with
      cache := s.cache.set key value (s.clock + ttl)
      lock := Function.update s.lock key none } := by
  simp only [step] at h
  split at h
  · next key ttl hfetching =>
    cases h
    exact ⟨key, ttl, hfetching, rfl⟩
  · cases h

theorem step_failed_inv {s t : SharedCache V} {i : ℕ} (h : s.step (.failed i) = some t) :
    ∃ key ttl, s.getter i = .fetching key ttl ∧
      t = setGetter i .raised { s with lock := Function.update s.lock key none } := by
  simp only [step] at h
  split at h
  · next key ttl hfetching =>
    cases h
    exact ⟨key, ttl, hfetching, rfl⟩
  · cases h

theorem step_tick_inv {s t : SharedCache V} {now : ℚ} (h : s.step (.tick now) = some t) :
    s.clock ≤ now ∧ t = { s with clock := now } := by
  simp only [step] at h
  split at h
  · next hle =>
    cases h
    exact ⟨hle, rfl⟩
  · cases h

/-- A call without company does what `getOrFetch` does. -/
theorem solo_call {σ : Type} {monotonic : σ → ℚ} {key : String} {ttl : ℚ} {fetch : Py σ V} {s : SharedCache V}
    {w w' : σ} {v : V} {c : TtlCache V} {i : ℕ} (hidle : s.getter i = .idle) (hfree : s.lock key = none)
    (hclock : s.clock = monotonic w) (hlater : monotonic w ≤ monotonic w')
    (hrun : Cached.getOrFetch monotonic key ttl fetch { world := w, cache := s.cache } =
      (.ok v, { world := w', cache := c })) :
    ∃ es q, Run.run step s es = some q ∧ q.getter i = .returned v ∧ q.cache = c := by
  rcases hlookup : s.cache.lookup (monotonic w) key with _ | value
  · rw [Cached.getOrFetch_of_fetch hlookup] at hrun
    rcases hfetch : fetch w with ⟨_ | value, w''⟩ <;> rw [hfetch] at hrun
    · cases hrun
    · cases hrun
      refine ⟨[.call i key ttl, .enter i, .tick (monotonic w'), .fetched i v], _, ?_, setGetter_self { s with
        cache := s.cache.set key v (monotonic w' + ttl)
        clock := monotonic w'
        lock := Function.update s.lock key none } i _, rfl⟩
      simp [Run.run, step, hidle, hclock, hlookup, hfree, hlater, setGetter]
  · rw [Cached.getOrFetch_of_lookup hlookup] at hrun
    cases hrun
    refine ⟨[.call i key ttl], s.setGetter i (.returned v), ?_, setGetter_self s i _, rfl⟩
    simp [Run.run, step, hidle, hclock, hlookup]

end SharedCache
end SmartHome
