import SmartHome.Network.Service

/-! # The FRITZ!Box behind the caches

A box that answers or fails, and the reads of `PhoneService` and `NetworkService` from it: what each does to its
cache. -/

namespace SmartHome
open Phone Network

/-- What the box answers during a call, and how long a request takes. -/
structure BoxAnswers where
  calls : (days num : Int) → Except PyError (List Call)
  status : Except PyError FritzStatus
  /-- `none` where the box has no such network. -/
  wlan : (idx : Nat) → Except PyError (Option FritzWlan)
  hosts : (activeOnly : Bool) → Except PyError (List FritzHost)
  takes : ℚ

/-- `asked` counts the requests to the box. -/
structure AnsweringBox where
  clock : ℚ
  asked : ℕ := 0
  answers : BoxAnswers

namespace AnsweringBox

/-- The box after some more requests. -/
def after (requests : ℕ) (box : AnsweringBox) : AnsweringBox :=
  { box with clock := box.clock + requests * box.answers.takes, asked := box.asked + requests }

/-- A question to the box; time passes. -/
def ask {α : Type} (answer : BoxAnswers → Except PyError α) : Py AnsweringBox α := fun box =>
  (answer box.answers, box.after 1)

/-- The phone service over this box. -/
def phoneEnv : PhoneEnv AnsweringBox where
  fritzMockMode := false
  monotonic := clock
  fritzCalls days num := ask fun answers => answers.calls days num
  mockCalls _ := []

/-- The network service over this box. -/
def networkEnv : NetworkEnv AnsweringBox where
  fritzMockMode := false
  monotonic := clock
  fritzStatus := ask BoxAnswers.status
  fritzWlan idx := do
    match ← ask fun answers => answers.wlan idx with
    | some wlan => pure wlan
    | none => Eff.raise .external
  fritzHosts activeOnly := ask fun answers => answers.hosts activeOnly
  mockDslStatus := {}
  mockWlanNetworks := []
  mockHosts := []

@[simp] theorem ask_run {α : Type} (answer : BoxAnswers → Except PyError α) (box : AnsweringBox) :
    ask answer box = (answer box.answers, box.after 1) := rfl

@[simp] theorem after_answers (requests : ℕ) (box : AnsweringBox) : (box.after requests).answers = box.answers := rfl

@[simp] theorem after_asked (requests : ℕ) (box : AnsweringBox) : (box.after requests).asked = box.asked + requests := rfl

@[simp] theorem after_after (n m : ℕ) (box : AnsweringBox) : (box.after n).after m = box.after (n + m) := by
  unfold after
  dsimp only
  congr 1
  · push_cast
    ring
  · rw [Nat.add_assoc]

end AnsweringBox

/-! ## Reads -/

/-- A read through a cache, whose fetch always returns. -/
structure CachedRead (V : Type) where
  key : String
  ttl : ℚ
  force : Bool
  fetch : Py AnsweringBox V
  value : BoxAnswers → V
  requests : ℕ
  asks : 0 < requests
  fetched : ∀ box, fetch box = (.ok (value box.answers), box.after requests)

namespace CachedRead
variable {V : Type} (r : CachedRead V)

/-- The read through the cache. -/
def run : Py (Cached AnsweringBox V) V := do
  (if r.force then Eff.modify fun s => { s with cache := s.cache.invalidate r.key } else pure ())
  Cached.getOrFetch AnsweringBox.clock r.key r.ttl r.fetch

/-- The box is to be asked. -/
def misses (s : Cached AnsweringBox V) : Bool := r.force || (s.cache.lookup s.world.clock r.key).isNone

/-- The state after a fetch. -/
def stored (s : Cached AnsweringBox V) : Cached AnsweringBox V where
  world := s.world.after r.requests
  cache := s.cache.set r.key (r.value s.world.answers) ((s.world.after r.requests).clock + r.ttl)

variable {r}

theorem run_of_miss {s : Cached AnsweringBox V} (h : r.misses s = true) :
    r.run s = (.ok (r.value s.world.answers), r.stored s) := by
  have hfetch : ∀ c : TtlCache V, c.lookup s.world.clock r.key = none →
      Cached.getOrFetch AnsweringBox.clock r.key r.ttl r.fetch { s with cache := c } =
        (.ok (r.value s.world.answers), r.stored { s with cache := c }) := by
    intro c hc
    rw [Cached.getOrFetch_of_fetch hc, r.fetched]
    rfl
  unfold run
  cases hforce : r.force with
  | true =>
    have hinvalidated : (s.cache.invalidate r.key).lookup s.world.clock r.key = none := by
      rw [TtlCache.lookup, TtlCache.store_invalidate_self]
      rfl
    rw [if_pos rfl, Eff.modify_bind_run, hfetch _ hinvalidated, stored, stored, TtlCache.set_invalidate]
  | false =>
    rw [misses, hforce, Bool.false_or, Option.isNone_iff_eq_none] at h
    rw [if_neg Bool.false_ne_true, Eff.pure_bind_run]
    exact hfetch s.cache h

theorem run_of_hit {s : Cached AnsweringBox V} (h : r.misses s = false) :
    ∃ v, s.cache.lookup s.world.clock r.key = some v ∧ r.run s = (.ok v, s) := by
  rw [misses, Bool.or_eq_false_iff] at h
  obtain ⟨hforce, hlookup⟩ := h
  cases hv : s.cache.lookup s.world.clock r.key with
  | none =>
    rw [hv] at hlookup
    cases hlookup
  | some v =>
    refine ⟨v, rfl, ?_⟩
    rw [run, hforce, if_neg Bool.false_ne_true, Eff.pure_bind_run]
    exact Cached.getOrFetch_of_lookup hv

theorem asked_stored (s : Cached AnsweringBox V) : ¬ (r.stored s).world.asked = s.world.asked :=
  (Nat.lt_add_of_pos_right r.asks).ne'

/-- The box was asked exactly if the count has grown. -/
theorem asked_iff {s : Cached AnsweringBox V} : (r.run s).2.world.asked = s.world.asked ↔ r.misses s = false := by
  cases h : r.misses s with
  | true =>
    rw [run_of_miss h]
    exact iff_of_false (r.asked_stored s) nofun
  | false =>
    obtain ⟨v, -, hrun⟩ := run_of_hit h
    rw [hrun]
    exact iff_of_true rfl rfl

end CachedRead

/-! ## Where cached values come from -/

/-- A cache, with a note on the fetch that each of its entries comes from; the application keeps no such notes. -/
structure Noted (V G : Type) where
  cache : TtlCache V
  note : String → Option G

namespace Noted
variable {V G : Type}

/-- Nothing is cached or noted. -/
def empty : Noted V G where
  cache := .empty
  note _ := none

/-- A call has left the cache `c`; when it asked the box, the entry under the key is new. -/
def after (s : Noted V G) (box : AnsweringBox) (key : String) (note : G) (c : Cached AnsweringBox V) : Noted V G where
  cache := c.cache
  note := if c.world.asked = box.asked then s.note else Function.update s.note key (some note)

end Noted

/-! ## The reads of the services -/

namespace Phone

/-- The entries of the type that is asked for. -/
def requested (calltype : Int) (calls : List CallDict) : List CallDict :=
  if calltype ≠ 0 then calls.filter fun c => c.type == calltype else calls

/-- The calls that an answer holds. -/
def listing (answer : Except PyError (List Call)) : List CallDict := (answer.toOption.getD []).map callToDict

/-- The read of the calls. -/
def callsRead (days num : Int) (force : Bool) : CachedRead (List CallDict) where
  key := PhoneService.cacheKey days
  ttl := 120
  force
  fetch := PhoneService.liveFetch AnsweringBox.phoneEnv days num
  value answers := listing (answers.calls days num)
  requests := 1
  asks := Nat.one_pos
  fetched box := by
    rw [PhoneService.liveFetch, Eff.attempt_pure_run, Eff.bind_run]
    simp only [AnsweringBox.phoneEnv, AnsweringBox.ask_run, listing]
    cases box.answers.calls days num <;> rfl

theorem getCalls_read (calltype : Int) (days num : Option Int) (force : Bool) :
    PhoneService.getCalls AnsweringBox.phoneEnv calltype days num force =
      ((callsRead (numberOr days 30) (numberOr num 100) force).run >>= fun calls => pure (requested calltype calls)) := by
  funext s
  unfold PhoneService.getCalls CachedRead.run
  cases force <;> rfl

end Phone

namespace Network

/-- The read of the DSL status. -/
def dslRead : CachedRead DslStatus where
  key := "dsl"
  ttl := 15
  force := false
  fetch := NetworkService.liveDslStatus AnsweringBox.networkEnv
  value answers := (answers.status.toOption.map dslStatus).getD {}
  requests := 1
  asks := Nat.one_pos
  fetched box := by
    rw [NetworkService.liveDslStatus, Eff.attempt_pure_run, Eff.bind_run]
    simp only [AnsweringBox.networkEnv, AnsweringBox.ask_run]
    cases box.answers.status <;> rfl

theorem getDslStatus_read : NetworkService.getDslStatus AnsweringBox.networkEnv = dslRead.run := rfl

theorem fetchOne_run (idx : Nat) (box : AnsweringBox) :
    NetworkService.fetchOne AnsweringBox.networkEnv idx box =
      (.ok ((box.answers.wlan idx).toOption.join.map (wlanNetwork idx)), box.after 1) := by
  rw [NetworkService.fetchOne, Eff.attempt_pure_run, Eff.bind_run]
  simp only [AnsweringBox.networkEnv, Eff.bind_run, AnsweringBox.ask_run]
  rcases box.answers.wlan idx with _ | _ | _ <;> rfl

/-- The read of the WLANs. -/
def wlanRead : CachedRead (List WlanNetwork) where
  key := "wlan"
  ttl := 60
  force := false
  fetch := NetworkService.liveWlanNetworks AnsweringBox.networkEnv
  value answers := [1, 2, 3].filterMap fun idx => (answers.wlan idx).toOption.join.map (wlanNetwork idx)
  requests := 3
  asks := Nat.succ_pos 2
  fetched box := by
    unfold NetworkService.liveWlanNetworks
    rw [Eff.bind_of_ok (fetchOne_run 1 box), Eff.bind_of_ok (fetchOne_run 2 _), Eff.bind_of_ok (fetchOne_run 3 _)]
    simp only [AnsweringBox.after_answers, AnsweringBox.after_after, Eff.pure_run]
    rfl

theorem getWlanNetworks_read : NetworkService.getWlanNetworks AnsweringBox.networkEnv = wlanRead.run := rfl

/-- The read of the hosts. -/
def hostsRead (activeOnly : Bool) : CachedRead (List Host) where
  key := NetworkService.hostsKey activeOnly
  ttl := 30
  force := false
  fetch := NetworkService.liveHosts AnsweringBox.networkEnv activeOnly
  value answers := ((answers.hosts activeOnly).toOption.getD []).map host
  requests := 1
  asks := Nat.one_pos
  fetched box := by
    rw [NetworkService.liveHosts, Eff.attempt_pure_run, Eff.bind_run]
    simp only [AnsweringBox.networkEnv, AnsweringBox.ask_run]
    cases box.answers.hosts activeOnly <;> rfl

theorem getHosts_read (activeOnly : Bool) :
    NetworkService.getHosts AnsweringBox.networkEnv activeOnly = (hostsRead activeOnly).run := rfl

end Network
end SmartHome
