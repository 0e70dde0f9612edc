import SmartHome.Lib.Run
import SmartHome.Network.FritzBox

/-! # Failures behind the caches

The calls of `PhoneService` and `NetworkService` in live mode, on a box that fails and recovers: what the caches serve
while it does. -/

namespace SmartHome

/-- The fetch that an entry comes from. -/
structure Source where
  returned : ℚ
  succeeded : Bool
  deriving DecidableEq

namespace Noted
variable {V : Type} (read : CachedRead V) (succeeded : Bool) (box : AnsweringBox) (s : Noted V Source)

/-- The notes after a read has left the cache `c`. -/
def afterRead (c : Cached AnsweringBox V) : Noted V Source :=
  s.after box read.key { returned := c.world.clock, succeeded } c

/-- What a read serves without asking the box comes from a fetch that succeeded, and a forced refresh that fails leaves a
    valid result of such a fetch where it is. -/
structure Honest (c : Cached AnsweringBox V) : Prop where
  served : c.world.asked = box.asked → ∃ source, s.note read.key = some source ∧ source.succeeded = true
  kept : read.force = true → succeeded = false → ∀ source, s.note read.key = some source → source.succeeded = true →
    (s.cache.lookup box.clock read.key).isSome = true →
      c.cache.store read.key = s.cache.store read.key ∧ (s.afterRead read succeeded box c).note read.key = some source

/-- Each entry expires as its note says. -/
def Dated (ttl : ℚ) (s : Noted V Source) : Prop :=
  ∀ key, (s.cache.store key).map Entry.expiresAt = (s.note key).map fun source => source.returned + ttl

variable {read succeeded box s}

theorem Dated.afterRead (h : s.Dated read.ttl) :
    (s.afterRead read succeeded box (read.run { world := box, cache := s.cache }).2).Dated read.ttl := by
  intro key
  cases hmiss : read.misses { world := box, cache := s.cache } with
  | true =>
    rw [CachedRead.run_of_miss hmiss]
    have hasked := read.asked_stored { world := box, cache := s.cache }
    dsimp only [Noted.afterRead, Noted.after]
    rw [if_neg hasked]
    by_cases hkey : key = read.key
    · rw [hkey, Function.update_self, CachedRead.stored, TtlCache.store_set_self]
      rfl
    · rw [Function.update_of_ne hkey, CachedRead.stored, TtlCache.store_set_of_ne _ _ _ hkey]
      exact h key
  | false =>
    obtain ⟨v, -, hrun⟩ := CachedRead.run_of_hit hmiss
    rw [hrun]
    dsimp only [Noted.afterRead, Noted.after]
    rw [if_pos rfl]
    exact h key

end Noted

namespace Network
open Run Phone

/-- What a caller wants to know of the box. -/
inductive BoxRequest where
  | getCalls (calltype : Int) (days num : Option Int) (force : Bool)
  | getStats (force : Bool)
  | getDslStatus
  | getWlanNetworks
  | getHosts (activeOnly : Bool)

/-- A call at some time, and what the box answers during it. -/
structure BoxStep where
  request : BoxRequest
  time : ℚ
  answers : BoxAnswers

/-- `network_cache` holds values of three types; their keys differ. -/
structure BoxReads where
  box : AnsweringBox
  calls : Noted (List CallDict) Source := .empty
  dsl : Noted DslStatus Source := .empty
  wlan : Noted (List WlanNetwork) Source := .empty
  hosts : Noted (List Host) Source := .empty

namespace BoxRequest

/-- What the cache of the request holds. -/
abbrev Value : BoxRequest → Type
  | getCalls .. | getStats _ => List CallDict
  | getDslStatus => DslStatus
  | getWlanNetworks => List WlanNetwork
  | getHosts _ => List Host

/-- The service method of a request. -/
def perform : (r : BoxRequest) → Py (Cached AnsweringBox r.Value) Unit
  | getCalls calltype days num force => do
    let _ ← PhoneService.getCalls AnsweringBox.phoneEnv calltype days num force
    pure ()
  | getStats force => do
    let _ ← PhoneService.getStats AnsweringBox.phoneEnv force
    pure ()
  | getDslStatus => do
    let _ ← NetworkService.getDslStatus AnsweringBox.networkEnv
    pure ()
  | getWlanNetworks => do
    let _ ← NetworkService.getWlanNetworks AnsweringBox.networkEnv
    pure ()
  | getHosts activeOnly => do
    let _ ← NetworkService.getHosts AnsweringBox.networkEnv activeOnly
    pure ()

/-- The read that the request makes. -/
def read : (r : BoxRequest) → CachedRead r.Value
  | getCalls _ days num force => callsRead (numberOr days 30) (numberOr num 100) force
  | getStats force => callsRead 30 100 force
  | getDslStatus => dslRead
  | getWlanNetworks => wlanRead
  | getHosts activeOnly => hostsRead activeOnly

/-- The fetch of the request succeeds; a network that the box does not have is no failure. -/
def succeeds (answers : BoxAnswers) : BoxRequest → Bool
  | getCalls _ days num _ => (answers.calls (numberOr days 30) (numberOr num 100)).isOk
  | getStats _ => (answers.calls 30 100).isOk
  | getDslStatus => answers.status.isOk
  | getWlanNetworks => [1, 2, 3].all fun idx => (answers.wlan idx).isOk
  | getHosts activeOnly => (answers.hosts activeOnly).isOk

end BoxRequest

namespace BoxReads

/-- The cache of the request. -/
def part (s : BoxReads) : (r : BoxRequest) → Noted r.Value Source
  | .getCalls .. | .getStats _ => s.calls
  | .getDslStatus => s.dsl
  | .getWlanNetworks => s.wlan
  | .getHosts _ => s.hosts

/-- Another cache and other notes in the part that the request reads. -/
def setPart (s : BoxReads) : (r : BoxRequest) → Noted r.Value Source → BoxReads
  | .getCalls .., calls | .getStats _, calls => { s with calls }
  | .getDslStatus, dsl => { s with dsl }
  | .getWlanNetworks, wlan => { s with wlan }
  | .getHosts _, hosts => { s with hosts }

/-- The box when the call begins. -/
def boxAt (s : BoxReads) (e : BoxStep) : AnsweringBox := { s.box with clock := e.time, answers := e.answers }

/-- What the call leaves of the box and of its cache. -/
def left (s : BoxReads) (e : BoxStep) : Cached AnsweringBox e.request.Value :=
  (e.request.perform { world := s.boxAt e, cache := (s.part e.request).cache }).2

/-- What a request does to its cache and to the notes. -/
def step (s : BoxReads) (e : BoxStep) : Option BoxReads :=
  some (setPart { s with box := (s.left e).world } e.request
    ((s.part e.request).afterRead e.request.read (e.request.succeeds e.answers) (s.boxAt e) (s.left e)))

/-- The read of the step is honest. -/
def Honest (s : BoxReads) (e : BoxStep) : Prop :=
  (s.part e.request).Honest e.request.read (e.request.succeeds e.answers) (s.boxAt e) (s.left e)

/-- In each part every entry expires as its note says. -/
structure Dated (s : BoxReads) : Prop where
  calls : s.calls.Dated 120
  dsl : s.dsl.Dated 15
  wlan : s.wlan.Dated 60
  hosts : s.hosts.Dated 30

variable {s t : BoxReads} {e : BoxStep}

theorem Dated.part (h : s.Dated) (r : BoxRequest) : (s.part r).Dated r.read.ttl := by
  cases r with
  | getCalls | getStats => exact h.calls
  | getDslStatus => exact h.dsl
  | getWlanNetworks => exact h.wlan
  | getHosts => exact h.hosts

theorem Dated.setPart (h : s.Dated) {r : BoxRequest} {part : Noted r.Value Source} (hpart : part.Dated r.read.ttl) :
    (s.setPart r part).Dated := by
  obtain ⟨hcalls, hdsl, hwlan, hhosts⟩ := h
  cases r with
  | getCalls | getStats => exact ⟨hpart, hdsl, hwlan, hhosts⟩
  | getDslStatus => exact ⟨hcalls, hpart, hwlan, hhosts⟩
  | getWlanNetworks => exact ⟨hcalls, hdsl, hpart, hhosts⟩
  | getHosts => exact ⟨hcalls, hdsl, hwlan, hpart⟩

/-- Nothing is answered. -/
def down : BoxAnswers where
  calls _ _ := .error .external
  status := .error .external
  wlan _ := .error .external
  hosts _ := .error .external
  takes := 1

end BoxReads
end Network
end SmartHome
