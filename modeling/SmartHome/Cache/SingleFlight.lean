import SmartHome.Cache
import SmartHome.Lib.AsyncLock

/-! # The locks of the cache

`get_or_fetch` with both kinds of locks: `_meta_lock`, under which the lock of a key is looked up or created, and
the locks of the keys. Every acquisition is a step of its own, and any number of coroutines take their steps in
any order. -/

namespace SmartHome
open Run

/-- How far a coroutine that calls `get_or_fetch` has come. -/
inductive Point (V : Type) where
  | idle
  /-- Before `async with self._meta_lock`. -/
  | atMeta (key : String) (ttl : ℚ)
  | inMeta (key : String) (ttl : ℚ)
  /-- Before `async with lock`. -/
  | atLock (key : String) (ttl : ℚ) (lock : ℕ)
  /-- Before the second look at the store. -/
  | inLock (key : String) (ttl : ℚ) (lock : ℕ)
  | fetching (key : String) (ttl : ℚ) (lock : ℕ)
  | returned (value : V)
  | raised

/-- A `TTLCache` and the coroutines that use it. Lock objects are numbered as they are created. -/
structure LockedCache (V : Type) where
  cache : TtlCache V := .empty
  clock : ℚ
  metaLock : Option ℕ := none
  /-- `_locks`. -/
  locks : String → Option ℕ := fun _ => none
  created : ℕ := 0
  holder : ℕ → Option ℕ := fun _ => none
  point : ℕ → Point V := fun _ => .idle
  /-- The entry that was stored last under each key; nothing reads it. -/
  latest : String → Option (Entry V) := fun _ => none

/-- The steps between the locks of `get_or_fetch`. -/
inductive LockEvent (V : Type) where
  /-- `get_or_fetch` is called, and looks at the store. -/
  | call (i : ℕ) (key : String) (ttl : ℚ)
  | enterMeta (i : ℕ)
  /-- The body of `_key_lock`, and the release of the meta lock. -/
  | keyLock (i : ℕ)
  | acquire (i : ℕ)
  /-- The second look at the store; on a miss the fetch starts. -/
  | check (i : ℕ)
  | fetched (i : ℕ) (value : V)
  | failed (i : ℕ)
  | set (key : String) (value : V) (ttl : ℚ)
  | invalidate (key : String)
  | clear
  | tick (now : ℚ)

namespace LockedCache
variable {V : Type}

/-- The caller goes to this point. -/
def move (i : ℕ) (p : Point V) (s : LockedCache V) : LockedCache V := { s with point := Function.update s.point i p }

/-- The lock is free again. -/
def release (lock : ℕ) (s : LockedCache V) : LockedCache V := { s with holder := Function.update s.holder lock none }

/-- The value goes into the cache, and is noted as the latest one. -/
def store (key : String) (value : V) (ttl : ℚ) (s : LockedCache V) : LockedCache V :=
  { s with
    cache := s.cache.set key value (s.clock + ttl)
    latest := Function.update s.latest key (some { value, expiresAt := s.clock + ttl }) }

/-- What a step does, if the caller is at the point for it and the lock is free. -/
def step (s : LockedCache V) : LockEvent V → Option (LockedCache V)
  | .call i key ttl =>
    match s.point i with
    | .idle =>
      match s.cache.lookup s.clock key with
      | some value => some (s.move i (.returned value))
      | none => some (s.move i (.atMeta key ttl))
    | _ => none
  | .enterMeta i =>
    match s.point i, s.metaLock with
    | .atMeta key ttl, none => some (move i (.inMeta key ttl) { s with metaLock := some i })
    | _, _ => none
  | .keyLock i =>
    match s.point i with
    | .inMeta key ttl =>
      match s.locks key with
      | some lock => some (move i (.atLock key ttl lock) { s with metaLock := none })
      | none => some (move i (.atLock key ttl s.created) { s with
          metaLock := none
          locks := Function.update s.locks key (some s.created)
          created := s.created + 1 })
    | _ => none
  | .acquire i =>
    match s.point i with
    | .atLock key ttl lock =>
      match s.holder lock with
      | some _ => none
      | none => some (move i (.inLock key ttl lock) { s with holder := Function.update s.holder lock (some i) })
    | _ => none
  | .check i =>
    match s.point i with
    | .inLock key ttl lock =>
      match s.cache.lookup s.clock key with
      | some value => some ((s.release lock).move i (.returned value))
      | none => some (s.move i (.fetching key ttl lock))
    | _ => none
  | .fetched i value =>
    match s.point i with
    | .fetching key ttl lock => some (((s.store key value ttl).release lock).move i (.returned value))
    | _ => none
  | .failed i =>
    match s.point i with
    | .fetching _ _ lock => some ((s.release lock).move i .raised)
    | _ => none
  | .set key value ttl => some (s.store key value ttl)
  | .invalidate key => some { s with cache := s.cache.invalidate key }
  | .clear => some { s with cache := .empty }
  | .tick now => if s.clock ≤ now then some { s with clock := now } else none

@[simp] theorem move_self (s : LockedCache V) (i : ℕ) (p : Point V) : (s.move i p).point i = p := Function.update_self ..

theorem move_of_ne (s : LockedCache V) {i j : ℕ} (p : Point V) (h : j ≠ i) : (s.move i p).point j = s.point j :=
  Function.update_of_ne h ..

/-! ### What a step can do -/

/-- The coroutine's step, from one point to the next, with what it does to the rest. -/
inductive Moves (s : LockedCache V) (i : ℕ) : LockEvent V → Point V → LockedCache V → Prop where
  | hit (key ttl value) : s.point i = .idle → s.cache.lookup s.clock key = some value →
      Moves s i (.call i key ttl) (.returned value) s
  | miss (key ttl) : s.point i = .idle → s.cache.lookup s.clock key = none → Moves s i (.call i key ttl) (.atMeta key ttl) s
  | enterMeta (key ttl) : s.point i = .atMeta key ttl → s.metaLock = none →
      Moves s i (.enterMeta i) (.inMeta key ttl) { s with metaLock := some i }
  | knownLock (key ttl lock) : s.point i = .inMeta key ttl → s.locks key = some lock →
      Moves s i (.keyLock i) (.atLock key ttl lock) { s with metaLock := none }
  | newLock (key ttl) : s.point i = .inMeta key ttl → s.locks key = none →
      Moves s i (.keyLock i) (.atLock key ttl s.created) { s with
        metaLock := none, locks := Function.update s.locks key (some s.created), created := s.created + 1 }
  | acquire (key ttl lock) : s.point i = .atLock key ttl lock → s.holder lock = none →
      Moves s i (.acquire i) (.inLock key ttl lock) { s with holder := Function.update s.holder lock (some i) }
  | found (key ttl lock value) : s.point i = .inLock key ttl lock → s.cache.lookup s.clock key = some value →
      Moves s i (.check i) (.returned value) (s.release lock)
  | start (key ttl lock) : s.point i = .inLock key ttl lock → s.cache.lookup s.clock key = none →
      Moves s i (.check i) (.fetching key ttl lock) s
  | fetched (key ttl lock value) : s.point i = .fetching key ttl lock →
      Moves s i (.fetched i value) (.returned value) ((s.store key value ttl).release lock)
  | failed (key ttl lock) : s.point i = .fetching key ttl lock → Moves s i (.failed i) .raised (s.release lock)

/-- A step of no coroutine. -/
inductive Writes (s : LockedCache V) : LockEvent V → LockedCache V → Prop where
  | set (key value ttl) : Writes s (.set key value ttl) (s.store key value ttl)
  | invalidate (key) : Writes s (.invalidate key) { s with cache := s.cache.invalidate key }
  | clear : Writes s .clear { s with cache := .empty }
  | tick (now) : s.clock ≤ now → Writes s (.tick now) { s with clock := now }

theorem step_cases {s t : LockedCache V} {e : LockEvent V} (h : step s e = some t) :
    (∃ i p u, Moves s i e p u ∧ t = u.move i p) ∨ Writes s e t := by
  cases e with
  | call i key ttl =>
    simp only [step] at h
    split at h
    · next hpoint =>
      split at h
      · next value hlookup =>
        cases h
        exact Or.inl ⟨i, _, _, .hit key ttl value hpoint hlookup, rfl⟩
      · next hlookup =>
        cases h
        exact Or.inl ⟨i, _, _, .miss key ttl hpoint hlookup, rfl⟩
    · cases h
  | enterMeta i =>
    simp only [step] at h
    split at h
    · next key ttl hpoint hmeta =>
      cases h
      exact Or.inl ⟨i, _, _, .enterMeta key ttl hpoint hmeta, rfl⟩
    · cases h
  | keyLock i =>
    simp only [step] at h
    split at h
    · next key ttl hpoint =>
      split at h
      · next lock hlock =>
        cases h
        exact Or.inl ⟨i, _, _, .knownLock key ttl lock hpoint hlock, rfl⟩
      · next hlock =>
        cases h
        exact Or.inl ⟨i, _, _, .newLock key ttl hpoint hlock, rfl⟩
    · cases h
  | acquire i =>
    simp only [step] at h
    split at h
    · next key ttl lock hpoint =>
      split at h
      · cases h
      · next hholder =>
        cases h
        exact Or.inl ⟨i, _, _, .acquire key ttl lock hpoint hholder, rfl⟩
    · cases h
  | check i =>
    simp only [step] at h
    split at h
    · next key ttl lock hpoint =>
      split at h
      · next value hlookup =>
        cases h
        exact Or.inl ⟨i, _, _, .found key ttl lock value hpoint hlookup, rfl⟩
      · next hlookup =>
        cases h
        exact Or.inl ⟨i, _, _, .start key ttl lock hpoint hlookup, rfl⟩
    · cases h
  | fetched i value =>
    simp only [step] at h
    split at h
    · next key ttl lock hpoint =>
      cases h
      exact Or.inl ⟨i, _, _, .fetched key ttl lock value hpoint, rfl⟩
    · cases h
  | failed i =>
    simp only [step] at h
    split at h
    · next key ttl lock hpoint =>
      cases h
      exact Or.inl ⟨i, _, _, .failed key ttl lock hpoint, rfl⟩
    · cases h
  | set key value ttl =>
    cases h
    exact Or.inr (.set key value ttl)
  | invalidate key =>
    cases h
    exact Or.inr (.invalidate key)
  | clear =>
    cases h
    exact Or.inr .clear
  | tick now =>
    simp only [step] at h
    split at h
    · next hle =>
      cases h
      exact Or.inr (.tick now hle)
    · cases h

/-! ### The invariant -/

end LockedCache

namespace Point
variable {V : Type}

/-- The key and the lock object that the coroutine was given for it. -/
def lock? : Point V → Option (String × ℕ)
  | atLock key _ lock | inLock key _ lock | fetching key _ lock => some (key, lock)
  | _ => none

/-- The lock object that the coroutine holds. -/
def holds? : Point V → Option ℕ
  | inLock _ _ lock | fetching _ _ lock => some lock
  | _ => none

/-- The caller holds the meta lock. -/
def inMeta? : Point V → Bool
  | inMeta _ _ => true
  | _ => false

end Point

namespace LockedCache
variable {V : Type} {s t : LockedCache V}

/-- Each lock is held by the coroutine that is under it, each key has a lock of its own, and what is in the store was
    stored last. -/
structure Inv (s : LockedCache V) : Prop where
  metaLock : ∀ i, s.metaLock = some i ↔ (s.point i).inMeta? = true
  known : ∀ i key lock, (s.point i).lock? = some (key, lock) → s.locks key = some lock
  distinct : ∀ key key' lock, s.locks key = some lock → s.locks key' = some lock → key = key'
  created : ∀ key lock, s.locks key = some lock → lock < s.created
  holder : ∀ i lock, s.holder lock = some i ↔ (s.point i).holds? = some lock
  latest : ∀ key entry, s.cache.store key = some entry → s.latest key = some entry

theorem move_point (s : LockedCache V) (i j : ℕ) (p : Point V) :
    (s.move i p).point j = if j = i then p else s.point j := Function.update_apply ..

section Fields
variable (s : LockedCache V) (i : ℕ) (p : Point V) (key : String) (value : V) (ttl : ℚ) (lock : ℕ)

@[simp] theorem move_cache : (s.move i p).cache = s.cache := rfl
@[simp] theorem move_clock : (s.move i p).clock = s.clock := rfl
@[simp] theorem move_metaLock : (s.move i p).metaLock = s.metaLock := rfl
@[simp] theorem move_locks : (s.move i p).locks = s.locks := rfl
@[simp] theorem move_created : (s.move i p).created = s.created := rfl
@[simp] theorem move_holder : (s.move i p).holder = s.holder := rfl
@[simp] theorem move_latest : (s.move i p).latest = s.latest := rfl
@[simp] theorem release_cache : (s.release lock).cache = s.cache := rfl
@[simp] theorem release_clock : (s.release lock).clock = s.clock := rfl
@[simp] theorem release_metaLock : (s.release lock).metaLock = s.metaLock := rfl
@[simp] theorem release_locks : (s.release lock).locks = s.locks := rfl
@[simp] theorem release_created : (s.release lock).created = s.created := rfl
@[simp] theorem release_point : (s.release lock).point = s.point := rfl
@[simp] theorem release_latest : (s.release lock).latest = s.latest := rfl
@[simp] theorem store_clock : (s.store key value ttl).clock = s.clock := rfl
@[simp] theorem store_metaLock : (s.store key value ttl).metaLock = s.metaLock := rfl
@[simp] theorem store_locks : (s.store key value ttl).locks = s.locks := rfl
@[simp] theorem store_created : (s.store key value ttl).created = s.created := rfl
@[simp] theorem store_holder : (s.store key value ttl).holder = s.holder := rfl
@[simp] theorem store_point : (s.store key value ttl).point = s.point := rfl

end Fields

theorem release_holder (s : LockedCache V) (lock other : ℕ) :
    (s.release lock).holder other = if other = lock then none else s.holder other := Function.update_apply ..

section Moves
variable {i : ℕ} {e : LockEvent V} {p : Point V}

theorem moves_point (hmoves : Moves s i e p t) : t.point = s.point := by
  cases hmoves <;> rfl

theorem point_other (hmoves : Moves s i e p t) {j : ℕ} (hne : j ≠ i) : (t.move i p).point j = s.point j := by
  rw [move_of_ne _ _ hne, moves_point hmoves]

theorem metaLock_moves (h : Inv s) (hmoves : Moves s i e p t) :
    HeldBy (t.move i p).metaLock fun j => ((t.move i p).point j).inMeta? = true := by
  have hheld : HeldBy s.metaLock fun j => (s.point j).inMeta? = true := h.metaLock
  have hothers : ∀ j, j ≠ i → (((t.move i p).point j).inMeta? = true ↔ (s.point j).inMeta? = true) := by
    intro j hne
    rw [point_other hmoves hne]
  rw [move_metaLock]
  cases hmoves with
  | enterMeta key ttl hpoint hfree =>
    rw [hfree] at hheld
    exact hheld.take (by rw [move_self]; rfl) hothers
  | knownLock key ttl lock hpoint hlock | newLock key ttl hpoint hlock =>
    exact hheld.release (by rw [hpoint]; rfl) (by simp [Point.inMeta?]) hothers
  | hit key ttl value hpoint _ | miss key ttl hpoint _ | acquire key ttl lock hpoint _ | found key ttl lock value hpoint _
  | start key ttl lock hpoint _ | fetched key ttl lock value hpoint | failed key ttl lock hpoint =>
    refine hheld.keep ?_ hothers
    rw [move_self, hpoint]
    exact Iff.rfl

/-- Lock objects stay with their keys, and a coroutine knows the lock object of its key. -/
theorem locks_moves (h : Inv s) (hmoves : Moves s i e p t) :
    (∀ key lock, s.locks key = some lock → t.locks key = some lock) ∧
      ∀ key lock, p.lock? = some (key, lock) → t.locks key = some lock := by
  have hknown := h.known i
  cases hmoves with
  | newLock key ttl hpoint hlock =>
    refine ⟨fun other lock hother => ?_, fun other lock hnew => ?_⟩
    · have hne : other ≠ key := by
        rintro rfl
        rw [hlock] at hother
        cases hother
      exact (Function.update_of_ne hne ..).trans hother
    · simp only [Point.lock?, Option.some.injEq, Prod.mk.injEq] at hnew
      rw [← hnew.1, ← hnew.2]
      exact Function.update_self ..
  | knownLock key ttl lock hpoint hlock =>
    refine ⟨fun _ _ hother => hother, fun other lock' hnew => ?_⟩
    simp only [Point.lock?, Option.some.injEq, Prod.mk.injEq] at hnew
    rw [← hnew.1, ← hnew.2, hlock]
  | acquire key ttl lock hpoint _ | start key ttl lock hpoint _ =>
    rw [hpoint] at hknown
    exact ⟨fun _ _ hother => hother, hknown⟩
  | hit | miss | enterMeta | found | fetched | failed => exact ⟨fun _ _ hother => hother, nofun⟩

theorem tables_moves (h : Inv s) (hmoves : Moves s i e p t) :
    (∀ key key' lock, t.locks key = some lock → t.locks key' = some lock → key = key') ∧
      ∀ key lock, t.locks key = some lock → lock < t.created := by
  cases hmoves with
  | newLock key ttl hpoint hlock =>
    have hold : ∀ other lock, Function.update s.locks key (some s.created) other = some lock →
        (other = key ∧ lock = s.created) ∨ (s.locks other = some lock ∧ lock < s.created) := fun other lock hother => by
      by_cases heq : other = key
      · rw [heq, Function.update_self] at hother
        exact Or.inl ⟨heq, (Option.some.inj hother).symm⟩
      · rw [Function.update_of_ne heq] at hother
        exact Or.inr ⟨hother, h.created other lock hother⟩
    refine ⟨fun key₁ key₂ lock h₁ h₂ => ?_, fun other lock hother => ?_⟩
    · rcases hold key₁ lock h₁ with ⟨rfl, rfl⟩ | ⟨hold₁, hlt₁⟩
      · rcases hold key₂ _ h₂ with ⟨rfl, -⟩ | ⟨-, hlt₂⟩
        · rfl
        · exact absurd hlt₂ (Nat.lt_irrefl _)
      · rcases hold key₂ lock h₂ with ⟨-, rfl⟩ | ⟨hold₂, -⟩
        · exact absurd hlt₁ (Nat.lt_irrefl _)
        · exact h.distinct key₁ key₂ lock hold₁ hold₂
    · rcases hold other lock hother with ⟨-, rfl⟩ | ⟨-, hlt⟩
      · exact Nat.lt_succ_self _
      · exact Nat.lt_succ_of_lt hlt
  | hit | miss | enterMeta | knownLock | acquire | found | start | fetched | failed => exact ⟨h.distinct, h.created⟩

theorem holder_moves (h : Inv s) (hmoves : Moves s i e p t) (lock : ℕ) :
    HeldBy ((t.move i p).holder lock) fun j => ((t.move i p).point j).holds? = some lock := by
  have hheld : HeldBy (s.holder lock) fun j => (s.point j).holds? = some lock := fun j => h.holder j lock
  have hothers : ∀ j, j ≠ i → (((t.move i p).point j).holds? = some lock ↔ (s.point j).holds? = some lock) := by
    intro j hne
    rw [point_other hmoves hne]
  rw [move_holder]
  cases hmoves with
  | acquire key ttl own hpoint hfree =>
    dsimp only
    by_cases hlock : lock = own
    · subst hlock
      rw [hfree] at hheld
      rw [Function.update_self]
      exact hheld.take (by rw [move_self]; rfl) hothers
    · rw [Function.update_of_ne hlock]
      exact hheld.keep (by simp [hpoint, Point.holds?, Ne.symm hlock]) hothers
  | found key ttl own value hpoint _ | fetched key ttl own value hpoint | failed key ttl own hpoint =>
    rw [release_holder]
    by_cases hlock : lock = own
    · subst hlock
      rw [if_pos rfl]
      exact hheld.release (by rw [hpoint]; rfl) (by simp [Point.holds?]) hothers
    · rw [if_neg hlock]
      exact hheld.keep (by simp [hpoint, Point.holds?, Ne.symm hlock]) hothers
  | hit key ttl value hpoint _ | miss key ttl hpoint _ | enterMeta key ttl hpoint _ | knownLock key ttl own hpoint _
  | newLock key ttl hpoint _ | start key ttl own hpoint _ =>
    refine hheld.keep ?_ hothers
    rw [move_self, hpoint]
    exact Iff.rfl

end Moves

theorem latest_store (h : Inv s) {key other : String} {value : V} {ttl : ℚ} {entry : Entry V}
    (hentry : (s.store key value ttl).cache.store other = some entry) :
    (s.store key value ttl).latest other = some entry := by
  by_cases heq : other = key
  · subst heq
    rw [store, TtlCache.store_set_self] at hentry
    exact (Function.update_self ..).trans hentry
  · rw [store, TtlCache.store_set_of_ne _ _ _ heq] at hentry
    exact (Function.update_of_ne heq ..).trans (h.latest other entry hentry)

theorem inv_moves {i : ℕ} {e : LockEvent V} {p : Point V} (h : Inv s) (hmoves : Moves s i e p t) : Inv (t.move i p) where
  metaLock := metaLock_moves h hmoves
  known j key lock hknown := by
    obtain ⟨hold, hnew⟩ := locks_moves h hmoves
    rw [move_point, moves_point hmoves] at hknown
    split at hknown
    · exact hnew key lock hknown
    · exact hold key lock (h.known j key lock hknown)
  distinct := (tables_moves h hmoves).1
  created := (tables_moves h hmoves).2
  holder j lock := holder_moves h hmoves lock j
  latest key entry hentry := by
    cases hmoves with
    | fetched => exact latest_store h hentry
    | hit | miss | enterMeta | knownLock | newLock | acquire | found | start | failed => exact h.latest key entry hentry

theorem inv_writes {e : LockEvent V} (h : Inv s) (hwrites : Writes s e t) : Inv t := by
  cases hwrites with
  | set key value ttl => exact ⟨h.metaLock, h.known, h.distinct, h.created, h.holder, fun _ _ hentry => latest_store h hentry⟩
  | invalidate key =>
    refine ⟨h.metaLock, h.known, h.distinct, h.created, h.holder, fun other entry hentry => ?_⟩
    exact h.latest other entry (TtlCache.store_of_invalidate hentry).2
  | clear => exact ⟨h.metaLock, h.known, h.distinct, h.created, h.holder, nofun⟩
  | tick now => exact ⟨h.metaLock, h.known, h.distinct, h.created, h.holder, h.latest⟩

theorem inv_step {e : LockEvent V} (h : Inv s) (hstep : step s e = some t) : Inv t := by
  rcases step_cases hstep with ⟨i, p, u, hmoves, rfl⟩ | hwrites
  · exact inv_moves h hmoves
  · exact inv_writes h hwrites

theorem inv_start (clock : ℚ) : Inv ({ clock } : LockedCache V) :=
  ⟨by simp [Point.inMeta?], nofun, nofun, nofun, by simp [Point.holds?], nofun⟩

/-! ### One fetch for each key -/

/-- The coroutine's fetch of the key is in flight. -/
def Fetching (s : LockedCache V) (i : ℕ) (key : String) : Prop := ∃ ttl lock, s.point i = .fetching key ttl lock

theorem fetching_unique (h : Inv s) {i j : ℕ} {key : String} (hi : s.Fetching i key) (hj : s.Fetching j key) : i = j := by
  obtain ⟨ttl, lock, hi⟩ := hi
  obtain ⟨ttl', lock', hj⟩ := hj
  have hlock := h.known i key lock (by rw [hi]; rfl)
  rw [h.known j key lock' (by rw [hj]; rfl), Option.some.injEq] at hlock
  subst hlock
  have hheld : HeldBy (s.holder lock') fun i => (s.point i).holds? = some lock' := fun i => h.holder i lock'
  exact hheld.unique (by rw [hi]; rfl) (by rw [hj]; rfl)

/-! ### No fetch stands in the way of another key -/

end LockedCache

/-- The steps that a coroutine takes by itself until its fetch starts. -/
def LockEvent.Locking {V : Type} : LockEvent V → Prop
  | .enterMeta _ | .keyLock _ | .acquire _ | .check _ => True
  | _ => False

/-- The step sets the key, or removes it. -/
def LockEvent.Touches {V : Type} (key : String) : LockEvent V → Prop
  | .set other _ _ => other = key
  | .invalidate other => other = key
  | .clear => True
  | _ => False

/-- The key that a call in progress is for, until its fetch starts. -/
def Point.waitsFor? {V : Type} : Point V → Option String
  | atMeta key _ | inMeta key _ | atLock key _ _ | inLock key _ _ => some key
  | _ => none

namespace LockedCache
variable {V : Type} {s t : LockedCache V}

/-- With no other steps than those of locks, and every fetch still in flight, a fetch of the key starts or the call
    returns. -/
def Proceeds (s : LockedCache V) (i : ℕ) (key : String) : Prop :=
  ∃ es t, (∀ e ∈ es, LockEvent.Locking e) ∧ run step s es = some t ∧
    (∀ j other, s.Fetching j other → t.Fetching j other) ∧
      ((∃ j, t.Fetching j key) ∨ ∃ value, t.point i = .returned value)

theorem step_of_moves {i : ℕ} {e : LockEvent V} {p : Point V} (h : Moves s i e p t) : step s e = some (t.move i p) := by
  cases h with
  | hit key ttl value hpoint hlookup | miss key ttl hpoint hlookup => simp [step, hpoint, hlookup]
  | enterMeta key ttl hpoint hfree => simp [step, hpoint, hfree]
  | knownLock key ttl lock hpoint hlock | newLock key ttl hpoint hlock => simp [step, hpoint, hlock]
  | acquire key ttl lock hpoint hfree => simp [step, hpoint, hfree]
  | found key ttl lock value hpoint hlookup | start key ttl lock hpoint hlookup => simp [step, hpoint, hlookup]
  | fetched key ttl lock value hpoint | failed key ttl lock hpoint => simp [step, hpoint]

theorem fetching_locking {i : ℕ} {e : LockEvent V} {p : Point V} (h : Moves s i e p t) (he : e.Locking) {j : ℕ}
    {key : String} (hj : s.Fetching j key) : (t.move i p).Fetching j key := by
  obtain ⟨ttl, lock, hj⟩ := hj
  have hne : j ≠ i := by
    rintro rfl
    cases h with
    | hit _ _ _ hpoint | miss _ _ hpoint | enterMeta _ _ hpoint | knownLock _ _ _ hpoint | newLock _ _ hpoint
    | acquire _ _ _ hpoint | found _ _ _ _ hpoint | start _ _ _ hpoint =>
      rw [hpoint] at hj
      cases hj
    | fetched | failed => exact he
  exact ⟨ttl, lock, by rw [move_of_ne _ _ hne, moves_point h, hj]⟩

theorem Proceeds.now {i : ℕ} {key : String} (h : (∃ j, s.Fetching j key) ∨ ∃ value, s.point i = .returned value) :
    s.Proceeds i key :=
  ⟨[], s, nofun, rfl, fun _ _ hj => hj, h⟩

theorem Proceeds.after {i j : ℕ} {key : String} {e : LockEvent V} {p : Point V} (h : (t.move j p).Proceeds i key)
    (hmoves : Moves s j e p t) (he : e.Locking) : s.Proceeds i key := by
  obtain ⟨es, u, hes, hrun, hkept, hdone⟩ := h
  refine ⟨e :: es, u, ?_, run_cons.mpr ⟨_, step_of_moves hmoves, hrun⟩, fun _ _ hf => hkept _ _ (fetching_locking hmoves he hf),
    hdone⟩
  intro e' he'
  rcases List.mem_cons.mp he' with rfl | he'
  · exact he
  · exact hes e' he'

theorem proceeds_inLock {i : ℕ} {key : String} {ttl : ℚ} {lock : ℕ} (hpoint : s.point i = .inLock key ttl lock) :
    s.Proceeds i key := by
  cases hlookup : s.cache.lookup s.clock key with
  | some value => exact (Proceeds.now (Or.inr ⟨value, move_self ..⟩)).after (.found key ttl lock value hpoint hlookup) trivial
  | none =>
    exact (Proceeds.now (Or.inl ⟨i, ttl, lock, move_self ..⟩)).after (.start key ttl lock hpoint hlookup) trivial

theorem proceeds_atLock_free {i : ℕ} {key : String} {ttl : ℚ} {lock : ℕ} (hpoint : s.point i = .atLock key ttl lock)
    (hfree : s.holder lock = none) : s.Proceeds i key :=
  (proceeds_inLock (move_self ..)).after (.acquire key ttl lock hpoint hfree) trivial

theorem proceeds_atLock {i : ℕ} {key : String} {ttl : ℚ} {lock : ℕ} (h : Inv s) (hnone : ∀ j, ¬ s.Fetching j key)
    (hpoint : s.point i = .atLock key ttl lock) : s.Proceeds i key := by
  cases hholder : s.holder lock with
  | none => exact proceeds_atLock_free hpoint hholder
  | some j =>
    have hlock := h.known i key lock (by rw [hpoint]; rfl)
    have hholds := (h.holder j lock).mp hholder
    -- The holder is about to look at the store, since no fetch of the key is in flight.
    cases hj : s.point j with
    | inLock other ttl' lock' =>
      rw [hj] at hholds
      cases hholds
      have hkey : other = key := h.distinct other key lock (h.known j other lock (by rw [hj]; rfl)) hlock
      subst hkey
      cases hlookup : s.cache.lookup s.clock other with
      | none => exact (Proceeds.now (Or.inl ⟨j, ttl', lock, move_self ..⟩)).after (.start other ttl' lock hj hlookup) trivial
      | some value =>
        have hne : i ≠ j := by
          rintro rfl
          rw [hpoint] at hj
          cases hj
        have hpoint' : ((s.release lock).move j (.returned value)).point i = .atLock other ttl lock := by
          rw [move_of_ne _ _ hne, release_point, hpoint]
        have hfree : ((s.release lock).move j (.returned value)).holder lock = none := by
          rw [move_holder, release_holder, if_pos rfl]
        exact (proceeds_atLock_free hpoint' hfree).after (.found other ttl' lock value hj hlookup) trivial
    | fetching other ttl' lock' =>
      rw [hj] at hholds
      cases hholds
      have hkey : other = key := h.distinct other key lock (h.known j other lock (by rw [hj]; rfl)) hlock
      exact absurd ⟨ttl', lock, hkey ▸ hj⟩ (hnone j)
    | idle | atMeta | inMeta | atLock | returned | raised =>
      rw [hj] at hholds
      cases hholds

theorem not_fetching_moves {i : ℕ} {e : LockEvent V} {p : Point V} {key : String} (h : Moves s i e p t)
    (hp : ∀ ttl lock, p ≠ .fetching key ttl lock) (hnone : ∀ j, ¬ s.Fetching j key) (j : ℕ) :
    ¬ (t.move i p).Fetching j key := by
  rintro ⟨ttl, lock, hj⟩
  rw [move_point, moves_point h] at hj
  split at hj
  · exact hp ttl lock hj
  · exact hnone j ⟨ttl, lock, hj⟩

theorem keyLock_moves {i : ℕ} {key : String} {ttl : ℚ} (hpoint : s.point i = .inMeta key ttl) :
    ∃ lock t, Moves s i (.keyLock i) (.atLock key ttl lock) t ∧ t.metaLock = none := by
  cases hlock : s.locks key with
  | some lock => exact ⟨lock, _, .knownLock key ttl lock hpoint hlock, rfl⟩
  | none => exact ⟨s.created, _, .newLock key ttl hpoint hlock, rfl⟩

theorem proceeds_inMeta {i : ℕ} {key : String} {ttl : ℚ} (h : Inv s) (hnone : ∀ j, ¬ s.Fetching j key)
    (hpoint : s.point i = .inMeta key ttl) : s.Proceeds i key := by
  obtain ⟨lock, t, hmoves, -⟩ := keyLock_moves hpoint
  have hnone' := not_fetching_moves hmoves nofun hnone
  exact (proceeds_atLock (inv_moves h hmoves) hnone' (move_self ..)).after hmoves trivial

theorem proceeds_atMeta_free {i : ℕ} {key : String} {ttl : ℚ} (h : Inv s) (hnone : ∀ j, ¬ s.Fetching j key)
    (hpoint : s.point i = .atMeta key ttl) (hfree : s.metaLock = none) : s.Proceeds i key := by
  have hmoves : Moves s i (.enterMeta i) (.inMeta key ttl) _ := .enterMeta key ttl hpoint hfree
  have hnone' := not_fetching_moves hmoves nofun hnone
  exact (proceeds_inMeta (inv_moves h hmoves) hnone' (move_self ..)).after hmoves trivial

theorem proceeds_atMeta {i : ℕ} {key : String} {ttl : ℚ} (h : Inv s) (hnone : ∀ j, ¬ s.Fetching j key)
    (hpoint : s.point i = .atMeta key ttl) : s.Proceeds i key := by
  cases hmeta : s.metaLock with
  | none => exact proceeds_atMeta_free h hnone hpoint hmeta
  | some j =>
    have hinside := (h.metaLock j).mp hmeta
    cases hj : s.point j with
    | inMeta other ttl' =>
      obtain ⟨lock, t, hmoves, hfree⟩ := keyLock_moves hj
      have hne : i ≠ j := by
        rintro rfl
        rw [hpoint] at hj
        cases hj
      have hpoint' : (t.move j (.atLock other ttl' lock)).point i = .atMeta key ttl := by
        rw [move_of_ne _ _ hne, moves_point hmoves, hpoint]
      have hnone' := not_fetching_moves hmoves nofun hnone
      exact (proceeds_atMeta_free (inv_moves h hmoves) hnone' hpoint' hfree).after hmoves trivial
    | idle | atMeta | atLock | inLock | fetching | returned | raised =>
      rw [hj] at hinside
      cases hinside

theorem proceeds {i : ℕ} {key : String} (h : Inv s) (hnone : ∀ j, ¬ s.Fetching j key)
    (hwaits : (s.point i).waitsFor? = some key) : s.Proceeds i key := by
  cases hpoint : s.point i with
  | atMeta key' ttl =>
    rw [hpoint] at hwaits
    cases hwaits
    exact proceeds_atMeta h hnone hpoint
  | inMeta key' ttl =>
    rw [hpoint] at hwaits
    cases hwaits
    exact proceeds_inMeta h hnone hpoint
  | atLock key' ttl lock =>
    rw [hpoint] at hwaits
    cases hwaits
    exact proceeds_atLock h hnone hpoint
  | inLock key' ttl lock =>
    rw [hpoint] at hwaits
    cases hwaits
    exact proceeds_inLock hpoint
  | idle | fetching | returned | raised =>
    rw [hpoint] at hwaits
    cases hwaits

/-! ### What a call returns -/

/-- The key of the call that takes this step of its own. -/
def callKey? (s : LockedCache V) (i : ℕ) : LockEvent V → Option String
  | .call j key _ => if j = i then some key else none
  | _ => (s.point i).waitsFor?

/-- The value was stored last under the key, and has not expired at this reading of the clock. -/
def Current (s : LockedCache V) (key : String) (value : V) : Prop :=
  ∃ entry, s.latest key = some entry ∧ entry.value = value ∧ s.clock < entry.expiresAt

theorem current_of_lookup (h : Inv s) {key : String} {value : V} (hlookup : s.cache.lookup s.clock key = some value) :
    s.Current key value := by
  obtain ⟨entry, hentry, hvalid, hvalue⟩ := TtlCache.lookup_eq_some.mp hlookup
  exact ⟨entry, h.latest key entry hentry, hvalue, hvalid⟩

theorem returns_step {e : LockEvent V} (h : Inv s) (hstep : step s e = some t) {i : ℕ} {value : V}
    (hreturned : t.point i = .returned value) :
    s.point i = .returned value ∨ (e = .fetched i value ∧ ∃ key, s.Fetching i key) ∨
      ∃ key, s.callKey? i e = some key ∧ s.Current key value := by
  rcases step_cases hstep with ⟨j, p, u, hmoves, rfl⟩ | hwrites
  · rw [move_point, moves_point hmoves] at hreturned
    split at hreturned
    · next heq =>
      subst heq
      subst hreturned
      cases hmoves with
      | hit key ttl value hpoint hlookup =>
        exact Or.inr (Or.inr ⟨key, if_pos rfl, current_of_lookup h hlookup⟩)
      | found key ttl lock value hpoint hlookup =>
        exact Or.inr (Or.inr ⟨key, by simp [callKey?, hpoint, Point.waitsFor?], current_of_lookup h hlookup⟩)
      | fetched key ttl lock value hpoint => exact Or.inr (Or.inl ⟨rfl, key, ttl, lock, hpoint⟩)
    · exact Or.inl hreturned
  · cases hwrites <;> exact Or.inl hreturned

/-! ### No fetch before the entry expires -/

/-- The step starts no fetch of the key before the time. -/
def StartsFrom (key : String) (time : ℚ) (s : LockedCache V) (e : LockEvent V) : Prop :=
  ∀ t i, step s e = some t → t.Fetching i key → s.Fetching i key ∨ time ≤ s.clock

/-- Until the time the entry is in the store, and nobody fetches the key. -/
def Kept (key : String) (value : V) (time : ℚ) (s : LockedCache V) : Prop :=
  s.clock < time → s.cache.store key = some { value, expiresAt := time } ∧ ∀ i, ¬ s.Fetching i key

theorem kept_startsFrom {key : String} {value : V} {time : ℚ} (h : Kept key value time s) (e : LockEvent V) :
    StartsFrom key time s e := by
  intro t i hstep hfetching
  by_contra hnot
  rw [not_or, not_le] at hnot
  obtain ⟨hentry, hnone⟩ := h hnot.2
  obtain ⟨ttl, lock, hpoint⟩ := hfetching
  rcases step_cases hstep with ⟨j, p, u, hmoves, rfl⟩ | hwrites
  · rw [move_point, moves_point hmoves] at hpoint
    split at hpoint
    · next heq =>
      subst hpoint
      cases hmoves with
      | start key ttl lock _ hlookup =>
        rw [TtlCache.lookup_eq_some.mpr ⟨_, hentry, hnot.2, rfl⟩] at hlookup
        cases hlookup
    · exact hnone i ⟨ttl, lock, hpoint⟩
  · have hsame : t.point = s.point := by cases hwrites <;> rfl
    exact hnone i ⟨ttl, lock, hsame ▸ hpoint⟩

theorem kept_step {key : String} {value : V} {time : ℚ} {e : LockEvent V} (h : Kept key value time s)
    (htouches : ¬ e.Touches key) (hstep : step s e = some t) : Kept key value time t := by
  intro hlater
  have hclock : s.clock ≤ t.clock := by
    rcases step_cases hstep with ⟨j, p, u, hmoves, rfl⟩ | hwrites
    · cases hmoves <;> exact le_rfl
    · cases hwrites with
      | tick now hle => exact hle
      | set | invalidate | clear => exact le_rfl
  have hbefore := hclock.trans_lt hlater
  obtain ⟨hentry, hnone⟩ := h hbefore
  refine ⟨?_, fun i hfetching => ?_⟩
  · rcases step_cases hstep with ⟨j, p, u, hmoves, rfl⟩ | hwrites
    · cases hmoves with
      | fetched other ttl lock value' hpoint =>
        have hne : key ≠ other := by
          rintro rfl
          exact hnone j ⟨ttl, lock, hpoint⟩
        exact (TtlCache.store_set_of_ne _ _ _ hne).trans hentry
      | hit | miss | enterMeta | knownLock | newLock | acquire | found | start | failed => exact hentry
    · cases hwrites with
      | set other value' ttl => exact (TtlCache.store_set_of_ne _ _ _ (Ne.symm htouches)).trans hentry
      | invalidate other => exact (TtlCache.store_invalidate_of_ne _ (Ne.symm htouches)).trans hentry
      | clear => exact absurd trivial htouches
      | tick => exact hentry
  · rcases kept_startsFrom h e t i hstep hfetching with hfetching | hlate
    · exact hnone i hfetching
    · exact absurd hbefore (not_lt.mpr hlate)

theorem kept_fetched {i : ℕ} {key : String} {ttl : ℚ} {lock : ℕ} {value : V} (h : Inv s)
    (hpoint : s.point i = .fetching key ttl lock) (hstep : step s (.fetched i value) = some t) :
    Kept key value (s.clock + ttl) t := by
  intro _
  rw [step, hpoint] at hstep
  cases hstep
  refine ⟨TtlCache.store_set_self .., fun j hfetching => ?_⟩
  obtain ⟨ttl', lock', hj⟩ := hfetching
  rw [move_point, release_point, store_point] at hj
  split at hj
  · cases hj
  · next hne => exact hne (fetching_unique h ⟨ttl', lock', hj⟩ ⟨ttl, lock, hpoint⟩)

/-! ### A fetch that raises -/

/-- A failed fetch leaves the store alone, ends the own call only, and frees the lock of its key. -/
structure FailsAlone (s : LockedCache V) (i : ℕ) (key : String) (t : LockedCache V) : Prop where
  raised : t.point i = .raised
  others : ∀ j, j ≠ i → t.point j = s.point j
  store : t.cache = s.cache
  released : ∀ j ttl lock, t.point j = .atLock key ttl lock → (step t (.acquire j)).isSome = true

theorem failsAlone {i : ℕ} {key : String} {ttl : ℚ} {lock : ℕ} (h : Inv s) (hpoint : s.point i = .fetching key ttl lock)
    (hstep : step s (.failed i) = some t) : FailsAlone s i key t := by
  have ht := inv_step h hstep
  rw [step, hpoint] at hstep
  cases hstep
  have hlock : s.locks key = some lock := h.known i key lock (by rw [hpoint]; rfl)
  refine ⟨move_self .., fun j hne => by rw [move_of_ne _ _ hne, release_point], rfl, fun j ttl' lock' hj => ?_⟩
  have hsame := ht.known j key lock' (by rw [hj]; rfl)
  rw [move_locks, release_locks, hlock, Option.some.injEq] at hsame
  subst hsame
  have hfree : (((s.release lock).move i .raised).holder lock) = none := by
    rw [move_holder, release_holder, if_pos rfl]
  rw [step_of_moves (.acquire key ttl' lock hj hfree)]
  rfl

/-! ## The cache over every run -/

/-- What the cache promises in a state, and of the steps and runs that go on from it. -/
structure SingleFlight (s : LockedCache V) : Prop where
  single : ∀ i j key, s.Fetching i key → s.Fetching j key → i = j
  independent : ∀ i key, (s.point i).waitsFor? = some key → (∀ j, ¬ s.Fetching j key) → s.Proceeds i key
  returns : ∀ e t i value, step s e = some t → t.point i = .returned value →
    s.point i = .returned value ∨ (e = .fetched i value ∧ ∃ key, s.Fetching i key) ∨
      ∃ key, s.callKey? i e = some key ∧ s.Current key value
  lasts : ∀ i value t key ttl lock, step s (.fetched i value) = some t → s.point i = .fetching key ttl lock →
    ∀ es, (∀ e ∈ es, ¬ LockEvent.Touches key e) → Meets step (StartsFrom key (s.clock + ttl)) t es
  failure : ∀ i t key ttl lock, step s (.failed i) = some t → s.point i = .fetching key ttl lock → FailsAlone s i key t

/-- In every state that a run of a new cache visits, it is a single-flight map with expiring entries. -/
theorem cache_is_single_flight (clock : ℚ) (es : List (LockEvent V)) {s : LockedCache V}
    (hvisits : Visits step { clock } es s) : SingleFlight s := by
  have h : Inv s := invariant_of_steps inv_step (inv_start clock) hvisits
  refine ⟨fun i j key hi hj => fetching_unique h hi hj, fun i key hwaits hnone => proceeds h hnone hwaits,
    fun e t i value hstep hreturned => returns_step h hstep hreturned, ?_,
    fun i t key ttl lock hstep hpoint => failsAlone h hpoint hstep⟩
  intro i value t key ttl lock hstep hpoint es htouches
  have hmeets : Meets step (fun _ e => ¬ LockEvent.Touches key e) t es := meets_of_mem fun e he _ => htouches e he
  exact hmeets.imp (I := Kept key value (s.clock + ttl)) (fun hs he hstep => kept_step hs he hstep)
    (fun hs _ => kept_startsFrom hs _) (kept_fetched h hpoint hstep)

/-- Two calls for one key: the second waits for the fetch of the first, and finds its value. -/
def twoCallers : List (LockEvent ℕ) :=
  [.call 0 "hosts" 30, .call 1 "hosts" 30, .enterMeta 0, .keyLock 0, .acquire 0, .check 0, .enterMeta 1, .keyLock 1,
    .fetched 0 7, .acquire 1, .check 1]

theorem second_caller_finds_the_value :
    ∃ s, run step ({ clock := 0 } : LockedCache ℕ) twoCallers = some s ∧ s.point 1 = .returned 7 ∧ SingleFlight s := by
  have hrun : (run step ({ clock := 0 } : LockedCache ℕ) twoCallers).map (fun s => s.point 1) = some (.returned 7) := by
    simp [twoCallers, run, step, move, release, store, TtlCache.empty, TtlCache.lookup, TtlCache.set]
  obtain ⟨s, hs, hpoint⟩ := Option.map_eq_some_iff.mp hrun
  exact ⟨s, hs, hpoint, cache_is_single_flight 0 twoCallers ⟨twoCallers, List.prefix_rfl, hs⟩⟩

end LockedCache
end SmartHome
