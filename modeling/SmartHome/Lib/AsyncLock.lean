import Mathlib.Data.List.Nodup
import Mathlib.Logic.Function.Basic

/-! # Locks -/

namespace SmartHome

/-! ## Who holds a lock -/

/-- The holder of the lock is who is under it, and nobody is when there is none. -/
def HeldBy {ι : Type} (holder : Option ι) (inside : ι → Prop) : Prop := ∀ i, holder = some i ↔ inside i

namespace HeldBy
variable {ι : Type} {holder : Option ι} {inside after : ι → Prop} {i j : ι}

/-- Two that are under the lock are one. -/
theorem unique (h : HeldBy holder inside) (hi : inside i) (hj : inside j) : i = j :=
  Option.some.inj (((h i).mpr hi).symm.trans ((h j).mpr hj))

/-- A step of `i` that neither takes nor releases the lock. -/
theorem keep (h : HeldBy holder inside) (hi : after i ↔ inside i) (hothers : ∀ j, j ≠ i → (after j ↔ inside j)) :
    HeldBy holder after := by
  intro j
  by_cases hij : j = i
  · rw [hij, hi]
    exact h i
  · rw [hothers j hij]
    exact h j

theorem take (h : HeldBy none inside) (hi : after i) (hothers : ∀ j, j ≠ i → (after j ↔ inside j)) :
    HeldBy (some i) after := by
  intro j
  by_cases hij : j = i
  · rw [hij]
    exact iff_of_true rfl hi
  · rw [hothers j hij, ← h j]
    simp [Ne.symm hij]

theorem release (h : HeldBy holder inside) (hi : inside i) (hout : ¬ after i)
    (hothers : ∀ j, j ≠ i → (after j ↔ inside j)) : HeldBy none after := by
  intro j
  by_cases hij : j = i
  · rw [hij]
    exact iff_of_false (fun heq => by cases heq) hout
  · rw [hothers j hij]
    exact iff_of_false (fun heq => by cases heq) fun hj => hij (h.unique hj hi)

end HeldBy

/-! ## Fair locks

A lock that is taken at once when it is free and nobody waits for it, and is otherwise handed on in the order of
arrival. Its clients are numbered; where each of them is decides who holds the lock and who waits. -/

/-- `asyncio.Lock`: who holds it, and who waits for it in which order. -/
structure AsyncLock where
  holder : Option ℕ := none
  queue : List ℕ := []
  deriving DecidableEq, Repr

/-- Where a client of a lock is. -/
inductive LockRole where
  | outside
  | waiting
  | holding
  deriving DecidableEq, Repr

namespace AsyncLock

/-- Nobody holds the lock or waits for it. -/
def free (l : AsyncLock) : Bool := l.holder.isNone && l.queue.isEmpty

/-- The lock is held now. -/
def take (i : ℕ) (l : AsyncLock) : AsyncLock := { l with holder := some i }

/-- One more waits. -/
def lineUp (i : ℕ) (l : AsyncLock) : AsyncLock := { l with queue := l.queue ++ [i] }

/-- The first that waits takes the lock once it is released. -/
def wake (i : ℕ) (l : AsyncLock) : Option AsyncLock :=
  match l.holder, l.queue with
  | none, j :: rest => if i = j then some { holder := some i, queue := rest } else none
  | _, _ => none

/-- The lock is released. -/
def release (l : AsyncLock) : AsyncLock := { l with holder := none }

/-- The clients are where the lock has them. -/
structure Tracks (l : AsyncLock) (role : ℕ → LockRole) : Prop where
  holder : ∀ i, l.holder = some i ↔ role i = .holding
  queue : ∀ i, i ∈ l.queue ↔ role i = .waiting
  once : l.queue.Nodup

section
variable {l l' : AsyncLock} {role : ℕ → LockRole} {i j : ℕ}

theorem free_iff : l.free = true ↔ l.holder = none ∧ l.queue = [] := by
  simp only [free, Bool.and_eq_true, Option.isNone_iff_eq_none, List.isEmpty_iff]

theorem wake_eq_some_iff :
    l.wake i = some l' ↔ ∃ rest, l.holder = none ∧ l.queue = i :: rest ∧ l' = { holder := some i, queue := rest } := by
  unfold wake
  constructor
  · intro h
    split at h
    · next j rest hholder hqueue =>
      split at h
      · next heq =>
        cases h
        exact ⟨rest, hholder, heq ▸ hqueue, rfl⟩
      · cases h
    · cases h
  · rintro ⟨rest, hholder, hqueue, rfl⟩
    rw [hholder, hqueue]
    exact if_pos rfl

theorem tracks_new (h : ∀ i, role i = .outside) : Tracks {} role where
  holder i := by simp [h i]
  queue i := by simp [h i]
  once := List.nodup_nil

namespace Tracks

theorem held (h : l.Tracks role) : HeldBy l.holder fun i => role i = .holding := h.holder

/-- Two that hold the lock are one. -/
theorem holding_unique (h : l.Tracks role) (hi : role i = .holding) (hj : role j = .holding) : i = j :=
  h.held.unique hi hj

theorem keep (h : l.Tracks role) {r : LockRole} (hr : role i = r) : l.Tracks (Function.update role i r) := by
  rw [← hr, Function.update_eq_self]
  exact h

theorem take (h : l.Tracks role) (hfree : l.free = true) :
    (l.take i).Tracks (Function.update role i .holding) := by
  obtain ⟨hholder, hqueue⟩ := free_iff.mp hfree
  have hheld := h.held
  rw [hholder] at hheld
  refine ⟨hheld.take (Function.update_self ..) fun j hij => ?_, fun j => ?_, h.once⟩
  · rw [Function.update_of_ne hij]
  · have hj := h.queue j
    by_cases hij : j = i
    · simp [AsyncLock.take, hij, hqueue]
    · simpa [AsyncLock.take, hij] using hj

theorem lineUp (h : l.Tracks role) (hi : role i = .outside) :
    (l.lineUp i).Tracks (Function.update role i .waiting) := by
  have hout : i ∉ l.queue := by
    rw [h.queue, hi]
    exact fun heq => by cases heq
  refine ⟨h.held.keep (i := i) (by simp [hi]) fun j hij => ?_, fun j => ?_, ?_⟩
  · rw [Function.update_of_ne hij]
  · have hj := h.queue j
    by_cases hij : j = i
    · simp [AsyncLock.lineUp, hij]
    · simpa [AsyncLock.lineUp, hij] using hj
  · exact List.nodup_append.mpr ⟨h.once, List.nodup_singleton i, fun a ha b hb => by
      obtain rfl := List.mem_singleton.mp hb
      exact fun heq => hout (heq ▸ ha)⟩

theorem wake (h : l.Tracks role) (hwake : l.wake i = some l') : l'.Tracks (Function.update role i .holding) := by
  obtain ⟨rest, hholder, hqueue, rfl⟩ := wake_eq_some_iff.mp hwake
  have honce := h.once
  rw [hqueue, List.nodup_cons] at honce
  have hheld := h.held
  rw [hholder] at hheld
  refine ⟨hheld.take (Function.update_self ..) fun j hij => ?_, fun j => ?_, honce.2⟩
  · rw [Function.update_of_ne hij]
  · have hj := h.queue j
    rw [hqueue, List.mem_cons] at hj
    by_cases hij : j = i
    · simpa [hij] using honce.1
    · simpa [hij] using hj

theorem release (h : l.Tracks role) (hi : role i = .holding) : l.release.Tracks (Function.update role i .outside) := by
  refine ⟨h.held.release hi (by simp) fun j hij => ?_, fun j => ?_, h.once⟩
  · rw [Function.update_of_ne hij]
  · have hj := h.queue j
    by_cases hij : j = i
    · rw [hij, hi] at hj
      simpa [AsyncLock.release, hij] using hj
    · simpa [AsyncLock.release, hij] using hj

end Tracks
end

end AsyncLock
end SmartHome
