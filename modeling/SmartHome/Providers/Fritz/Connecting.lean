import SmartHome.Lib.AsyncLock
import SmartHome.Lib.Run
import SmartHome.Providers.Fritz.Provider

/-! # Connecting to the box

`_ensure_connected` of `FritzProvider` and the calls that begin with it, for any number of coroutines on one
provider. A step leads a coroutine up to its next `await`, and no further; the attempts to connect end as the
environment decides. -/

namespace SmartHome.Fritz
open Run

/-- A call of the provider. -/
inductive ProviderOp where
  | discoverDevices
  | getDeviceState (ain : PyValue)
  /-- `discover_devices`, called by `get_device_state` for an AIN it does not know. -/
  | rediscover (ain : PyValue)
  | send (ain : PyValue) (command : Command)
  | healthCheck

/-- How a call ends. -/
inductive Outcome where
  | returned
  | healthy (b : Bool)
  | raised (e : AppError)

namespace ProviderOp

/-- The call is made from within another one. -/
def nested : ProviderOp → Bool
  | rediscover _ => true
  | _ => false

/-- What becomes of the call when `_ensure_connected` raises. -/
def failure (exc : FritzError) : ProviderOp → Outcome
  | healthCheck => .healthy false
  | _ => .raised (mapFritzError "" exc)

/-- What becomes of the call after `_ensure_connected`; `none` when the rest does not raise. -/
def outcome (error : Option AppError) : ProviderOp → Outcome
  | healthCheck => .healthy true
  | _ => error.elim .returned .raised

end ProviderOp

/-- How far a coroutine has come. -/
inductive Point where
  | idle
  /-- In `async with self._lock`. -/
  | waiting (op : ProviderOp)
  /-- Before the second look at `_fha`. -/
  | inLock (op : ProviderOp)
  | connecting (op : ProviderOp)
  /-- Past `_ensure_connected`. -/
  | past (op : ProviderOp)
  | done (outcome : Outcome)

/-- What the point means for the lock. -/
def Point.role : Point → LockRole
  | waiting _ => .waiting
  | inLock _ | connecting _ => .holding
  | _ => .outside

/-- What happens to the attempts of connecting. -/
inductive Attempt (C : Type) where
  | started (i : ℕ)
  | succeeded (i : ℕ) (c : C)
  | failed (i : ℕ)

/-- A provider and its coroutines. -/
structure Connecting (C : Type) where
  /-- `_fha`. -/
  fha : Option C := none
  /-- The connection that `_adapter` was built from. -/
  adapter : Option C := none
  /-- `_lock`. -/
  lock : AsyncLock := {}
  point : ℕ → Point := fun _ => .idle
  /-- The attempts so far; nothing reads them. -/
  attempts : List (Attempt C) := []

/-- The steps of calls that share one connection. -/
inductive ConnectEvent (C : Type) where
  /-- A call comes, and looks at `_fha`. -/
  | call (i : ℕ) (op : ProviderOp)
  | wake (i : ℕ)
  /-- The second look at `_fha`; without a connection the attempt starts. -/
  | check (i : ℕ)
  | connected (i : ℕ) (c : C)
  | failed (i : ℕ) (exc : FritzError)
  | rediscover (i : ℕ)
  | rediscovered (i : ℕ)
  /-- The rest of the call. -/
  | finish (i : ℕ) (error : Option AppError)

namespace Connecting
variable {C : Type}

/-- The call is at this point now. -/
def move (i : ℕ) (p : Point) (s : Connecting C) : Connecting C := { s with point := Function.update s.point i p }

/-- `_ensure_connected` up to its first `await`. -/
def ensure (i : ℕ) (op : ProviderOp) (s : Connecting C) : Connecting C :=
  match s.fha with
  | some _ => s.move i (.past op)
  | none =>
    if s.lock.free then move i (.inLock op) { s with lock := s.lock.take i }
    else move i (.waiting op) { s with lock := s.lock.lineUp i }

/-- What a step does, if the call is at the point for it. -/
def step (s : Connecting C) : ConnectEvent C → Option (Connecting C)
  | .call i op =>
    match s.point i, op.nested with
    | .idle, false => some (s.ensure i op)
    | _, _ => none
  | .wake i =>
    match s.point i with
    | .waiting op => (s.lock.wake i).map fun lock => move i (.inLock op) { s with lock }
    | _ => none
  | .check i =>
    match s.point i with
    | .inLock op =>
      match s.fha with
      | some _ => some (move i (.past op) { s with lock := s.lock.release })
      | none => some (move i (.connecting op) { s with attempts := s.attempts ++ [.started i] })
    | _ => none
  | .connected i c =>
    match s.point i with
    | .connecting op => some (move i (.past op)
        { s with
          fha := some c
          adapter := some c
          lock := s.lock.release
          attempts := s.attempts ++ [.succeeded i c] })
    | _ => none
  | .failed i exc =>
    match s.point i with
    | .connecting op => some (move i (.done (op.failure exc))
        { s with lock := s.lock.release, attempts := s.attempts ++ [.failed i] })
    | _ => none
  | .rediscover i =>
    match s.point i with
    | .past (.getDeviceState ain) => some (s.ensure i (.rediscover ain))
    | _ => none
  | .rediscovered i =>
    match s.point i with
    | .past (.rediscover ain) => some (s.move i (.past (.getDeviceState ain)))
    | _ => none
  | .finish i error =>
    match s.point i with
    | .past op => some (s.move i (.done (op.outcome error)))
    | _ => none

/-! ### What a step can do -/

/-- `_ensure_connected` begins. -/
def Begins (s : Connecting C) (i : ℕ) (op : ProviderOp) (e : ConnectEvent C) : Prop :=
  e = .call i op ∧ s.point i = .idle ∧ op.nested = false ∨
    e = .rediscover i ∧ ∃ ain, s.point i = .past (.getDeviceState ain) ∧ op = .rediscover ain

/-- The coroutine's step, from one point to the next, with what it does to the rest. -/
inductive Moves (s : Connecting C) (i : ℕ) : ConnectEvent C → Point → Connecting C → Prop where
  | fast (op c e) : s.Begins i op e → s.fha = some c → Moves s i e (.past op) s
  | take (op e) : s.Begins i op e → s.fha = none → s.lock.free = true →
      Moves s i e (.inLock op) { s with lock := s.lock.take i }
  | lineUp (op e) : s.Begins i op e → s.fha = none → s.lock.free = false →
      Moves s i e (.waiting op) { s with lock := s.lock.lineUp i }
  | wake (op lock) : s.point i = .waiting op → s.lock.wake i = some lock →
      Moves s i (.wake i) (.inLock op) { s with lock }
  | found (op c) : s.point i = .inLock op → s.fha = some c →
      Moves s i (.check i) (.past op) { s with lock := s.lock.release }
  | start (op) : s.point i = .inLock op → s.fha = none →
      Moves s i (.check i) (.connecting op) { s with attempts := s.attempts ++ [.started i] }
  | connected (op c) : s.point i = .connecting op →
      Moves s i (.connected i c) (.past op)
        { s with fha := some c, adapter := some c, lock := s.lock.release,
                 attempts := s.attempts ++ [.succeeded i c] }
  | failed (op exc) : s.point i = .connecting op →
      Moves s i (.failed i exc) (.done (op.failure exc))
        { s with lock := s.lock.release, attempts := s.attempts ++ [.failed i] }
  | rediscovered (ain) : s.point i = .past (.rediscover ain) →
      Moves s i (.rediscovered i) (.past (.getDeviceState ain)) s
  | finish (op error) : s.point i = .past op → Moves s i (.finish i error) (.done (op.outcome error)) s

section Cases
variable {s t : Connecting C} {i : ℕ} {e : ConnectEvent C}

theorem ensure_moves {op : ProviderOp} (h : s.Begins i op e) :
    ∃ p u, Moves s i e p u ∧ s.ensure i op = u.move i p := by
  unfold ensure
  split
  · next c hfha => exact ⟨_, _, .fast op c e h hfha, rfl⟩
  · next hfha =>
    split
    · next hfree => exact ⟨_, _, .take op e h hfha hfree, rfl⟩
    · next hbusy => exact ⟨_, _, .lineUp op e h hfha (Bool.not_eq_true _ ▸ hbusy), rfl⟩

theorem step_cases (h : step s e = some t) : ∃ i p u, Moves s i e p u ∧ t = u.move i p := by
  cases e with
  | call i op =>
    simp only [step] at h
    split at h
    · next hpoint hnested =>
      cases h
      obtain ⟨p, u, hmoves, ht⟩ := ensure_moves (.inl ⟨rfl, hpoint, hnested⟩)
      exact ⟨i, p, u, hmoves, ht⟩
    · cases h
  | wake i =>
    simp only [step] at h
    split at h
    · next op hpoint =>
      obtain ⟨lock, hlock, rfl⟩ := Option.map_eq_some_iff.mp h
      exact ⟨i, _, _, .wake op lock hpoint hlock, rfl⟩
    · cases h
  | check i =>
    simp only [step] at h
    split at h
    · next op hpoint =>
      split at h
      · next c hfha =>
        cases h
        exact ⟨i, _, _, .found op c hpoint hfha, rfl⟩
      · next hfha =>
        cases h
        exact ⟨i, _, _, .start op hpoint hfha, rfl⟩
    · cases h
  | connected i c =>
    simp only [step] at h
    split at h
    · next op hpoint =>
      cases h
      exact ⟨i, _, _, .connected op c hpoint, rfl⟩
    · cases h
  | failed i exc =>
    simp only [step] at h
    split at h
    · next op hpoint =>
      cases h
      exact ⟨i, _, _, .failed op exc hpoint, rfl⟩
    · cases h
  | rediscover i =>
    simp only [step] at h
    split at h
    · next ain hpoint =>
      cases h
      obtain ⟨p, u, hmoves, ht⟩ := ensure_moves (.inr ⟨rfl, ain, hpoint, rfl⟩)
      exact ⟨i, p, u, hmoves, ht⟩
    · cases h
  | rediscovered i =>
    simp only [step] at h
    split at h
    · next ain hpoint =>
      cases h
      exact ⟨i, _, _, .rediscovered ain hpoint, rfl⟩
    · cases h
  | finish i error =>
    simp only [step] at h
    split at h
    · next op hpoint =>
      cases h
      exact ⟨i, _, _, .finish op error hpoint, rfl⟩
    · cases h

end Cases

end Connecting

/-! ### The attempts -/

/-- Where the attempts have come to: none under way, the one of a coroutine, or a connection. -/
inductive Phase (C : Type) where
  | quiet
  | trying (i : ℕ)
  | connected (c : C)

/-- An attempt begins when none is under way, ends as its own, and is the last when it succeeds. -/
def Phase.next {C : Type} : Phase C → Attempt C → Option (Phase C)
  | quiet, .started i => some (trying i)
  | trying i, .succeeded j c => if i = j then some (connected c) else none
  | trying i, .failed j => if i = j then some quiet else none
  | _, _ => none

namespace Connecting
variable {C : Type}

/-- The state is where its attempts have led to. -/
def Fits (s : Connecting C) : Phase C → Prop
  | .quiet => s.fha = none ∧ ∀ i op, s.point i ≠ .connecting op
  | .trying i => ∃ op, s.point i = .connecting op
  | .connected c => s.fha = some c

/-! ### The invariant -/

/-- The lock is with the coroutine that is under it, the adapter belongs to the connection, and who is past the
    connecting has one. -/
structure Inv (s : Connecting C) : Prop where
  lock : s.lock.Tracks fun i => (s.point i).role
  whole : s.adapter = s.fha
  past : ∀ i op, s.point i = .past op → s.fha ≠ none
  trying : ∀ i op, s.point i = .connecting op → s.fha = none
  log : ∃ phase, run Phase.next .quiet s.attempts = some phase ∧ s.Fits phase

theorem move_point (s : Connecting C) (i j : ℕ) (p : Point) :
    (s.move i p).point j = if j = i then p else s.point j := Function.update_apply ..

@[simp] theorem move_fha (s : Connecting C) (i : ℕ) (p : Point) : (s.move i p).fha = s.fha := rfl
@[simp] theorem move_adapter (s : Connecting C) (i : ℕ) (p : Point) : (s.move i p).adapter = s.adapter := rfl
@[simp] theorem move_lock (s : Connecting C) (i : ℕ) (p : Point) : (s.move i p).lock = s.lock := rfl
@[simp] theorem move_attempts (s : Connecting C) (i : ℕ) (p : Point) : (s.move i p).attempts = s.attempts := rfl

section Moves
variable {s t : Connecting C} {i j : ℕ} {e : ConnectEvent C} {p : Point} {op : ProviderOp}

theorem Begins.outside (h : s.Begins i op e) : (s.point i).role = .outside := by
  rcases h with ⟨-, hpoint, -⟩ | ⟨-, ain, hpoint, -⟩ <;> rw [hpoint] <;> rfl

theorem Moves.point (h : Moves s i e p t) : t.point = s.point := by
  cases h <;> rfl

theorem role_move (s : Connecting C) (i : ℕ) (p : Point) :
    (fun j => ((s.move i p).point j).role) = Function.update (fun j => (s.point j).role) i p.role := by
  funext j
  rw [move_point, Function.update_apply]
  split <;> rfl

theorem lock_moves (h : Inv s) (hmoves : Moves s i e p t) :
    (t.move i p).lock.Tracks fun j => ((t.move i p).point j).role := by
  rw [role_move, hmoves.point, move_lock]
  have hlock := h.lock
  cases hmoves with
  | fast op c e hbegins _ => exact hlock.keep hbegins.outside
  | take op e hbegins _ hfree => exact hlock.take hfree
  | lineUp op e hbegins _ _ => exact hlock.lineUp hbegins.outside
  | wake op lock hpoint hwake => exact hlock.wake hwake
  | found op c hpoint _ | connected op c hpoint | failed op exc hpoint => exact hlock.release (by rw [hpoint]; rfl)
  | start op hpoint _ => exact hlock.keep (by rw [hpoint]; rfl)
  | rediscovered ain hpoint => exact hlock.keep (by rw [hpoint]; rfl)
  | finish op error hpoint => exact hlock.keep (by rw [hpoint]; rfl)

theorem whole_moves (h : Inv s) (hmoves : Moves s i e p t) : (t.move i p).adapter = (t.move i p).fha := by
  cases hmoves with
  | connected op c _ => rfl
  | _ => exact h.whole

/-- A connection stays. -/
theorem fha_moves (h : Inv s) (hmoves : Moves s i e p t) {c : C} (hc : s.fha = some c) : t.fha = some c := by
  cases hmoves with
  | connected op c' hpoint =>
    rw [h.trying i op hpoint] at hc
    cases hc
  | _ => exact hc

theorem past_moves (h : Inv s) (hmoves : Moves s i e p t) {op : ProviderOp}
    (hj : (t.move i p).point j = .past op) : (t.move i p).fha ≠ none := by
  rw [move_point, hmoves.point] at hj
  rw [move_fha]
  split at hj
  · cases hmoves with
    | fast op c e _ hfha | found op c _ hfha =>
      rw [hfha]
      exact Option.some_ne_none c
    | connected op c _ => exact Option.some_ne_none c
    | rediscovered ain hpoint => exact h.past i _ hpoint
    | _ => cases hj
  · obtain ⟨c, hc⟩ := Option.ne_none_iff_exists'.mp (h.past j op hj)
    rw [fha_moves h hmoves hc]
    exact Option.some_ne_none c

theorem connecting_unique (h : Inv s) {op op' : ProviderOp} (hi : s.point i = .connecting op)
    (hj : s.point j = .connecting op') : i = j :=
  h.lock.holding_unique (by rw [hi]; rfl) (by rw [hj]; rfl)

theorem trying_moves (h : Inv s) (hmoves : Moves s i e p t) {op : ProviderOp}
    (hj : (t.move i p).point j = .connecting op) : (t.move i p).fha = none := by
  rw [move_point, hmoves.point] at hj
  rw [move_fha]
  split at hj
  · cases hmoves with
    | start op _ hfha => exact hfha
    | _ => cases hj
  · next hne =>
    cases hmoves with
    | connected op c hpoint => exact absurd (connecting_unique h hj hpoint) hne
    | _ => exact h.trying j op hj

theorem run_attempt {phase : Phase C} (hrun : run Phase.next .quiet s.attempts = some phase) (a : Attempt C) :
    run Phase.next .quiet (s.attempts ++ [a]) = phase.next a := by
  cases hnext : phase.next a with
  | none =>
    cases hall : run Phase.next .quiet (s.attempts ++ [a]) with
    | none => rfl
    | some last =>
      obtain ⟨phase', hrun', hlast⟩ := run_append.mp hall
      obtain rfl := Option.some.inj (hrun.symm.trans hrun')
      obtain ⟨next, hnext', -⟩ := run_cons.mp hlast
      rw [hnext] at hnext'
      cases hnext'
  | some next => exact run_append.mpr ⟨phase, hrun, run_cons.mpr ⟨next, hnext, rfl⟩⟩

/-- A step that neither begins nor ends an attempt. -/
theorem fits_moves {phase : Phase C} (hfits : s.Fits phase) (hfha : t.fha = s.fha) (hpoint : t.point = s.point)
    (hbefore : ∀ op, s.point i ≠ .connecting op) (hafter : ∀ op, p ≠ .connecting op) : (t.move i p).Fits phase := by
  cases phase with
  | quiet =>
    refine ⟨hfha.trans hfits.1, fun j op hj => ?_⟩
    rw [move_point, hpoint] at hj
    split at hj
    · exact hafter op hj
    · exact hfits.2 j op hj
  | trying j =>
    obtain ⟨op, hj⟩ := hfits
    have hne : j ≠ i := by
      rintro rfl
      exact hbefore op hj
    refine ⟨op, ?_⟩
    rw [move_point, if_neg hne, hpoint]
    exact hj
  | connected c => exact hfha.trans hfits

/-- While a coroutine is connecting, the attempt under way is its own. -/
theorem phase_of_connecting (h : Inv s) (hi : s.point i = .connecting op) {phase : Phase C} (hfits : s.Fits phase) :
    phase = .trying i := by
  cases phase with
  | quiet => exact absurd hi (hfits.2 i op)
  | trying j =>
    obtain ⟨op', hj⟩ := hfits
    rw [connecting_unique h hj hi]
  | connected c =>
    have hc : s.fha = some c := hfits
    rw [h.trying i op hi] at hc
    cases hc

/-- Who is alone under the lock and finds no connection finds no attempt under way either. -/
theorem phase_of_inLock (h : Inv s) (hi : s.point i = .inLock op) (hfha : s.fha = none) {phase : Phase C}
    (hfits : s.Fits phase) : phase = .quiet := by
  cases phase with
  | quiet => rfl
  | trying j =>
    obtain ⟨op', hj⟩ := hfits
    have heq : j = i := h.lock.holding_unique (by rw [hj]; rfl) (by rw [hi]; rfl)
    rw [heq, hi] at hj
    cases hj
  | connected c =>
    have hc : s.fha = some c := hfits
    rw [hfha] at hc
    cases hc

theorem log_kept (h : Inv s) (hattempts : t.attempts = s.attempts) (hfha : t.fha = s.fha) (hpoint : t.point = s.point)
    (hbefore : ∀ op, s.point i ≠ .connecting op) (hafter : ∀ op, p ≠ .connecting op) :
    ∃ phase, run Phase.next .quiet (t.move i p).attempts = some phase ∧ (t.move i p).Fits phase := by
  obtain ⟨phase, hrun, hfits⟩ := h.log
  refine ⟨phase, ?_, fits_moves hfits hfha hpoint hbefore hafter⟩
  rw [move_attempts, hattempts, hrun]

theorem Begins.not_connecting (h : s.Begins i op e) (op' : ProviderOp) : s.point i ≠ .connecting op' := by
  intro hi
  have houtside := h.outside
  rw [hi] at houtside
  cases houtside

theorem log_moves (h : Inv s) (hmoves : Moves s i e p t) :
    ∃ phase, run Phase.next .quiet (t.move i p).attempts = some phase ∧ (t.move i p).Fits phase := by
  have hkept : t.attempts = s.attempts → t.fha = s.fha → (∀ op, s.point i ≠ .connecting op) →
      (∀ op, p ≠ .connecting op) →
      ∃ phase, run Phase.next .quiet (t.move i p).attempts = some phase ∧ (t.move i p).Fits phase :=
    fun hattempts hfha => log_kept h hattempts hfha hmoves.point
  obtain ⟨phase, hrun, hfits⟩ := h.log
  cases hmoves with
  | fast op c e hbegins _ | take op e hbegins _ _ | lineUp op e hbegins _ _ =>
    exact hkept rfl rfl hbegins.not_connecting fun _ heq => by cases heq
  | wake op lock hpoint _ | rediscovered ain hpoint | finish op error hpoint =>
    exact hkept rfl rfl (fun _ heq => by rw [hpoint] at heq; cases heq) fun _ heq => by cases heq
  | found op c hpoint _ =>
    exact hkept rfl rfl (fun _ heq => by rw [hpoint] at heq; cases heq) fun _ heq => by cases heq
  | start op hpoint hfha =>
    obtain rfl := phase_of_inLock h hpoint hfha hfits
    exact ⟨.trying i, run_attempt hrun _, op, by rw [move_point, if_pos rfl]⟩
  | connected op c hpoint =>
    obtain rfl := phase_of_connecting h hpoint hfits
    exact ⟨.connected c, (run_attempt hrun _).trans (if_pos rfl), rfl⟩
  | failed op exc hpoint =>
    obtain rfl := phase_of_connecting h hpoint hfits
    refine ⟨.quiet, (run_attempt hrun _).trans (if_pos rfl), h.trying i op hpoint, fun j op' hj => ?_⟩
    rw [move_point] at hj
    split at hj
    · cases hj
    · next hne => exact hne (connecting_unique h hj hpoint)

theorem inv_step (h : Inv s) (hs : step s e = some t) : Inv t := by
  obtain ⟨i, p, u, hmoves, rfl⟩ := step_cases hs
  exact ⟨lock_moves h hmoves, whole_moves h hmoves, fun _ _ => past_moves h hmoves, fun _ _ => trying_moves h hmoves,
    log_moves h hmoves⟩

theorem inv_init : Inv ({} : Connecting C) where
  lock := AsyncLock.tracks_new fun _ => rfl
  whole := rfl
  past _ _ heq := by cases heq
  trying _ _ heq := by cases heq
  log := ⟨.quiet, rfl, rfl, fun _ _ heq => by cases heq⟩

end Moves

/-! ### Runs -/

/-- A failed attempt is the failure of its own call, which is false from `health_check` and an exception from any other,
    and the next that waits tries again. -/
structure FailsAlone (s : Connecting C) (i : ℕ) (t : Connecting C) : Prop where
  own : (s.point i = .connecting .healthCheck ∧ t.point i = .done (.healthy false)) ∨
    ∃ op e, op ≠ .healthCheck ∧ s.point i = .connecting op ∧ t.point i = .done (.raised e)
  others : ∀ j, j ≠ i → t.point j = s.point j
  unset : t.fha = none ∧ t.adapter = none
  unlocked : t.lock.holder = none
  next : ∀ j rest, t.lock.queue = j :: rest →
    ∃ op u v, step t (.wake j) = some u ∧ step u (.check j) = some v ∧ v.point j = .connecting op

/-- Attempts follow one another up to the first that succeeds, and who is past the connecting finds a whole
    connection. -/
structure Sound (s : Connecting C) : Prop where
  serial : ∃ phase, run Phase.next .quiet s.attempts = some phase
  alone : ∀ i j op op', s.point i = .connecting op → s.point j = .connecting op' → i = j
  connects : ∀ i c t, step s (.connected i c) = some t → t.fha = some c ∧ t.adapter = some c
  once : ∀ c, s.fha = some c → ∀ e t, step s e = some t → t.attempts = s.attempts ∧ t.fha = some c
  whole : s.adapter = s.fha
  past : ∀ i op, s.point i = .past op → ∃ c, s.fha = some c ∧ s.adapter = some c
  failure : ∀ i exc t, step s (.failed i exc) = some t → FailsAlone s i t

section Runs
variable {s t : Connecting C} {i j : ℕ} {e : ConnectEvent C}

/-- The first that waits at the lock takes it when it is free, and without a connection it tries. -/
theorem next_tries (h : Inv s) (hfha : s.fha = none) (hholder : s.lock.holder = none) {rest : List ℕ}
    (hqueue : s.lock.queue = j :: rest) :
    ∃ op u v, step s (.wake j) = some u ∧ step u (.check j) = some v ∧ v.point j = .connecting op := by
  have hwaits : (s.point j).role = .waiting := by
    rw [← h.lock.queue, hqueue]
    exact List.mem_cons_self ..
  obtain ⟨op, hop⟩ : ∃ op, s.point j = .waiting op := by
    cases hpoint : s.point j with
    | waiting op => exact ⟨op, rfl⟩
    | _ =>
      rw [hpoint] at hwaits
      cases hwaits
  have hlock : s.lock.wake j = some { holder := some j, queue := rest } :=
    AsyncLock.wake_eq_some_iff.mpr ⟨rest, hholder, hqueue, rfl⟩
  obtain ⟨u, hu⟩ : ∃ u, u = move j (.inLock op) { s with lock := { holder := some j, queue := rest } } := ⟨_, rfl⟩
  have hwake : step s (.wake j) = some u := by
    rw [hu]
    simp only [step, hop, hlock, Option.map_some]
  have hinside : u.point j = .inLock op := by
    rw [hu, move_point, if_pos rfl]
  have hunset : u.fha = none := by
    rw [hu]
    exact hfha
  have hcheck : step u (.check j) =
      some (move j (.connecting op) { u with attempts := u.attempts ++ [.started j] }) := by
    simp only [step, hinside, hunset]
  exact ⟨op, u, _, hwake, hcheck, (move_point ..).trans (if_pos rfl)⟩

theorem own_failure (exc : FritzError) (op : ProviderOp) :
    (op = .healthCheck ∧ op.failure exc = .healthy false) ∨ (op ≠ .healthCheck ∧ ∃ e, op.failure exc = .raised e) := by
  cases op with
  | healthCheck => exact .inl ⟨rfl, rfl⟩
  | _ => exact .inr ⟨nofun, _, rfl⟩

theorem failsAlone (h : Inv s) {exc : FritzError} (hs : step s (.failed i exc) = some t) : FailsAlone s i t := by
  have ht := inv_step h hs
  simp only [step] at hs
  split at hs
  · next op hpoint =>
    have hfha : s.fha = none := h.trying i op hpoint
    cases hs
    refine ⟨?_, fun j hj => ?_, ⟨hfha, h.whole.trans hfha⟩, rfl, ?_⟩
    · rw [move_point, if_pos rfl, hpoint]
      rcases own_failure exc op with ⟨rfl, hfalse⟩ | ⟨hother, e, hraised⟩
      · exact .inl ⟨rfl, congrArg Point.done hfalse⟩
      · exact .inr ⟨op, e, hother, rfl, congrArg Point.done hraised⟩
    · rw [move_point, if_neg hj]
    · exact fun j rest => next_tries ht hfha rfl
  · cases hs

theorem once_step (h : Inv s) {c : C} (hc : s.fha = some c) (hs : step s e = some t) :
    t.attempts = s.attempts ∧ t.fha = some c := by
  obtain ⟨i, p, u, hmoves, rfl⟩ := step_cases hs
  refine ⟨?_, fha_moves h hmoves hc⟩
  cases hmoves with
  | start op _ hfha =>
    rw [hfha] at hc
    cases hc
  | connected op _ hpoint | failed op _ hpoint =>
    rw [h.trying i op hpoint] at hc
    cases hc
  | _ => rfl

theorem sound_of_inv (h : Inv s) : Sound s where
  serial := by
    obtain ⟨phase, hrun, -⟩ := h.log
    exact ⟨phase, hrun⟩
  alone _ _ _ _ := connecting_unique h
  connects i c t hs := by
    simp only [step] at hs
    split at hs <;> cases hs
    exact ⟨rfl, rfl⟩
  once _ hc _ _ := once_step h hc
  whole := h.whole
  past i op hpoint := by
    obtain ⟨c, hc⟩ := Option.ne_none_iff_exists'.mp (h.past i op hpoint)
    exact ⟨c, hc, h.whole.trans hc⟩
  failure _ _ _ := failsAlone h

/-- Whatever the coroutines do in whatever order, the provider connects once and is never half connected. -/
theorem connects_once (es : List (ConnectEvent C)) (s : Connecting C) (h : Visits step {} es s) : Sound s :=
  sound_of_inv (invariant_of_steps inv_step inv_init h)

/-- Two calls, of which the first fails to connect and the second tries again. -/
theorem connects_once_second :
    ∃ s : Connecting ℕ,
      Visits step {} [.call 0 .healthCheck, .call 1 .discoverDevices, .check 0, .failed 0 ⟨"OSError", "refused"⟩, .wake 1,
        .check 1, .connected 1 7] s ∧ s.fha = some 7 ∧ Sound s := by
  refine ⟨_, ⟨_, List.prefix_refl _, rfl⟩, rfl, ?_⟩
  exact connects_once [.call 0 .healthCheck, .call 1 .discoverDevices, .check 0, .failed 0 ⟨"OSError", "refused"⟩,
    .wake 1, .check 1, .connected 1 7] _ ⟨_, List.prefix_refl _, rfl⟩

end Runs

end Connecting
end SmartHome.Fritz
