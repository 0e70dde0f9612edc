import SmartHome.Lib.Run
import SmartHome.Network.FritzBox

/-! # The cached call list

Histories of `get_calls` and `get_stats` in live mode, each answer compared with what the box lists for the parameters
of the call. -/

namespace SmartHome.Phone
open Run

/-- `phone_calls` calls `get_calls`, and then changes the dictionaries that it was given. -/
inductive CallsRequest where
  | getCalls (calltype : Int) (days num : Option Int) (force : Bool)
  | phoneCalls (calltype days num : Int) (force : Bool)
  | getStats (force : Bool)

/-- What a caller gets. -/
inductive CallsAnswer where
  | calls (calls : List CallDict)
  | stats (stats : CallStats)
  deriving DecidableEq, Repr

/-- The fetch that a cached list comes from, and the types whose dates `phone_calls` has turned into texts since. -/
structure CallsFetch where
  days : Int
  num : Int
  failed : Bool
  returned : ℚ
  rewritten : List Int := []

/-- A call at some time; the box needs some time to answer, or fails. -/
structure CallsStep where
  request : CallsRequest
  time : ℚ
  takes : ℚ := 0
  fails : Option PyError := none

/-- The box and the cache of the calls, with a note of each fetch. -/
structure CallsRun where
  box : AnsweringBox
  calls : Noted (List CallDict) CallsFetch := .empty

namespace CallsRequest

/-- The type that is asked for; 0 is every one. -/
def calltype : CallsRequest → Int
  | getCalls calltype .. | phoneCalls calltype .. => calltype
  | getStats _ => 0

/-- The days that are asked for. -/
def days : CallsRequest → Int
  | getCalls _ days .. => numberOr days 30
  | phoneCalls _ days .. => numberOr (some days) 30
  | getStats _ => 30

/-- The number of calls that is asked for. -/
def num : CallsRequest → Int
  | getCalls _ _ num _ => numberOr num 100
  | phoneCalls _ _ num _ => numberOr (some num) 100
  | getStats _ => 100

/-- Whether the cache is to be passed over. -/
def force : CallsRequest → Bool
  | getCalls _ _ _ force | phoneCalls _ _ _ force | getStats force => force

/-- The cache key of the request. -/
def key (r : CallsRequest) : String := PhoneService.cacheKey r.days

/-- What the service answers; `phone_calls` is given the answer of `get_calls`. -/
def answer : CallsRequest → Py (Cached AnsweringBox (List CallDict)) CallsAnswer
  | getCalls calltype days num force => do
    let calls ← PhoneService.getCalls AnsweringBox.phoneEnv calltype days num force
    pure (.calls calls)
  | phoneCalls calltype days num force => do
    let calls ← PhoneService.getCalls AnsweringBox.phoneEnv calltype (some days) (some num) force
    pure (.calls calls)
  | getStats force => do
    let stats ← PhoneService.getStats AnsweringBox.phoneEnv force
    pure (.stats stats)

/-- What the request runs. -/
def perform : CallsRequest → Py (Cached AnsweringBox (List CallDict)) Unit
  | getCalls calltype days num force => do
    let _ ← PhoneService.getCalls AnsweringBox.phoneEnv calltype days num force
    pure ()
  | phoneCalls calltype days num force => do
    let _ ← Phone.phoneCalls AnsweringBox.phoneEnv calltype days num force
    pure ()
  | getStats force => do
    let _ ← PhoneService.getStats AnsweringBox.phoneEnv force
    pure ()

/-- `phone_calls` rewrites the calls of this type, which are those in the cache. -/
def rewrite (fetch : CallsFetch) : CallsRequest → CallsFetch
  | phoneCalls calltype .. => { fetch with rewritten := calltype :: fetch.rewritten }
  | getCalls .. | getStats .. => fetch

end CallsRequest

section
variable (line : (days num : Int) → List Call)

/-- The calls that the box lists. -/
def boxCalls (days num : Int) : List CallDict := (line days num).map callToDict

/-- What the caller is to get. -/
def CallsRequest.expected : CallsRequest → CallsAnswer
  | .getStats _ =>
    let calls := boxCalls line 30 100
    .stats
      { total := (requested 0 calls).length
        received := (requested callReceived calls).length
        missed := (requested callMissed calls).length
        outgoing := (requested callOut calls).length
        rejected := (requested callRejected calls).length }
  | r => .calls (requested r.calltype (boxCalls line r.days r.num))

/-- What the fetch returned. -/
def CallsFetch.listing (fetch : CallsFetch) : List CallDict :=
  if fetch.failed then [] else boxCalls line fetch.days fetch.num

/-- The box during the call; its call list is always the same. -/
def CallsStep.during (e : CallsStep) (box : AnsweringBox) : AnsweringBox :=
  { box with
    clock := e.time
    answers :=
      { box.answers with
        calls := fun days num => match e.fails with
          | none => .ok (line days num)
          | some err => .error err
        takes := e.takes } }

/-- The process when the call begins. -/
def CallsRun.called (s : CallsRun) (e : CallsStep) : Cached AnsweringBox (List CallDict) where
  world := e.during line s.box
  cache := s.calls.cache

/-- What a request does to the cache and to the notes. -/
def CallsRun.step (s : CallsRun) (e : CallsStep) : Option CallsRun :=
  let c := (e.request.perform (s.called line e)).2
  let calls := s.calls.after (e.during line s.box) e.request.key
    { days := e.request.days, num := e.request.num, failed := e.fails.isSome, returned := c.world.clock } c
  some
    { box := c.world
      calls :=
        { calls with
          note := Function.update calls.note e.request.key
            ((calls.note e.request.key).map fun fetch => e.request.rewrite fetch) } }

/-- Unless the box is asked and fails, the answer is what the box lists for the parameters of the call. -/
def CallsRun.Transparent (s : CallsRun) (e : CallsStep) : Prop :=
  (e.request.answer (s.called line e)).2.world.asked = s.box.asked ∨ e.fails = none →
    (e.request.answer (s.called line e)).1 = .ok (e.request.expected line)

/-- For the request the box lists the same as it did for the fetch. -/
def CallsFetch.Agrees (fetch : CallsFetch) : CallsRequest → Prop
  | .getStats _ => ∀ calltype ∈ [0, callReceived, callMissed, callOut, callRejected],
      (requested calltype (fetch.listing line)).length = (requested calltype (boxCalls line 30 100)).length
  | r =>
    requested r.calltype (fetch.listing line) = requested r.calltype (boxCalls line r.days r.num) ∧
      ∀ c ∈ requested r.calltype (boxCalls line r.days r.num), c.date ≠ none →
        ∀ type ∈ fetch.rewritten, ¬ (type = 0 ∨ c.type = type)

/-- A call that is not forced, and comes less than 120 seconds after a fetch for the same days, agrees with it. -/
def CallsRun.Unmixed (s : CallsRun) (e : CallsStep) : Prop :=
  e.request.force = false → ∀ fetch, s.calls.note e.request.key = some fetch → e.time < fetch.returned + 120 →
    fetch.Agrees line e.request

end

/-! ## Rewritten dates -/

/-- The dates of the entries of these types are texts; type 0 stands for all. -/
def CallDict.rewrittenFor (types : List Int) (c : CallDict) : CallDict :=
  if ∃ type ∈ types, type = 0 ∨ c.type = type then c.serialisable else c

/-- The date of the call is still a time. -/
def CallDict.Timed (c : CallDict) : Prop := ∀ date, c.date = some date → ∃ t, date = .time t

theorem timed_callToDict (call : Call) : (callToDict call).Timed := by
  intro date hdate
  obtain ⟨t, -, rfl⟩ := Option.map_eq_some_iff.mp hdate
  exact ⟨t, rfl⟩

namespace CallDict
variable {c : CallDict} {types : List Int}

@[simp] theorem serialisable_serialisable : c.serialisable.serialisable = c.serialisable := by
  obtain ⟨id, type, typeLabel, typeIcon, number, name, device, date, dateStr, durationStr, isMissed, isOut⟩ := c
  rcases date with _ | _ | _ <;> rfl

@[simp] theorem rewrittenFor_type : (c.rewrittenFor types).type = c.type := by
  unfold rewrittenFor
  split <;> rfl

@[simp] theorem rewrittenFor_nil : c.rewrittenFor [] = c := by simp [rewrittenFor]

theorem serialisable_of_date (h : c.date = none) : c.serialisable = c := by
  obtain ⟨id, type, typeLabel, typeIcon, number, name, device, date, dateStr, durationStr, isMissed, isOut⟩ := c
  dsimp only at h
  rw [h]
  rfl

theorem not_timed_serialisable (h : c.date ≠ none) : ¬ c.serialisable.Timed := by
  intro htimed
  obtain ⟨date, hdate⟩ := Option.ne_none_iff_exists'.mp h
  obtain ⟨t, ht⟩ := htimed date.serialisable (by rw [serialisable, hdate]; rfl)
  cases date <;> cases ht

/-- One more request of `phone_calls`. -/
theorem rewrittenFor_cons (type : Int) :
    c.rewrittenFor (type :: types) =
      if type = 0 ∨ (c.rewrittenFor types).type = type then (c.rewrittenFor types).serialisable
      else c.rewrittenFor types := by
  rw [rewrittenFor_type]
  unfold rewrittenFor
  simp only [List.exists_mem_cons_iff]
  by_cases hnew : type = 0 ∨ c.type = type <;> by_cases hold : ∃ type ∈ types, type = 0 ∨ c.type = type <;>
    simp [hnew, hold]

/-- An entry of the box is left alone exactly if it has no date, or is of another type. -/
theorem timed_rewrittenFor_iff (h : c.Timed) :
    (c.rewrittenFor types).Timed ↔ (c.date ≠ none → ∀ type ∈ types, ¬ (type = 0 ∨ c.type = type)) := by
  unfold rewrittenFor
  split
  · next hrewritten =>
    obtain ⟨type, htype, hmatch⟩ := hrewritten
    constructor
    · intro htimed hdate
      exact absurd htimed (not_timed_serialisable hdate)
    · intro hfree
      have hdate : c.date = none := by
        by_contra hdate
        exact hfree hdate type htype hmatch
      rwa [serialisable_of_date hdate]
  · next hfree => exact iff_of_true h fun _ type htype hmatch => hfree ⟨type, htype, hmatch⟩

theorem rewrittenFor_of_timed (h : (c.rewrittenFor types).Timed) : c.rewrittenFor types = c := by
  unfold rewrittenFor at h ⊢
  split
  · next hrewritten =>
    rw [if_pos hrewritten] at h
    by_contra hne
    exact not_timed_serialisable (fun hdate => hne (serialisable_of_date hdate)) h
  · rfl

end CallDict

section
variable {calltype : Int} {types : List Int} {calls : List CallDict}

theorem requested_rewritten : requested calltype (calls.map (CallDict.rewrittenFor types)) =
    (requested calltype calls).map (CallDict.rewrittenFor types) := by
  unfold requested
  split
  · rw [List.filter_map]
    congr 1
    refine List.filter_congr fun c _ => ?_
    rw [Function.comp, CallDict.rewrittenFor_type]
  · rfl

theorem timed_requested {line : (days num : Int) → List Call} {days num : Int} {c : CallDict}
    (h : c ∈ requested calltype (boxCalls line days num)) : c.Timed := by
  have hmem : c ∈ boxCalls line days num := by
    unfold requested at h
    split at h
    · exact List.mem_of_mem_filter h
    · exact h
  obtain ⟨call, -, rfl⟩ := List.mem_map.mp hmem
  exact timed_callToDict call

theorem rewritten_eq_iff {expected : List CallDict} (hexpected : ∀ c ∈ expected, c.Timed)
    (hcalls : ∀ c ∈ calls, c.Timed) : calls.map (CallDict.rewrittenFor types) = expected ↔
      calls = expected ∧ ∀ c ∈ expected, c.date ≠ none → ∀ type ∈ types, ¬ (type = 0 ∨ c.type = type) := by
  constructor
  · intro h
    have htimed : ∀ c ∈ calls, (c.rewrittenFor types).Timed := fun c hc =>
      hexpected _ (h ▸ List.mem_map_of_mem hc)
    have hsame : calls.map (CallDict.rewrittenFor types) = calls :=
      (List.map_congr_left fun c hc => CallDict.rewrittenFor_of_timed (htimed c hc)).trans (List.map_id' calls)
    obtain rfl : calls = expected := hsame.symm.trans h
    exact ⟨rfl, fun c hc => (CallDict.timed_rewrittenFor_iff (hcalls c hc)).mp (htimed c hc)⟩
  · rintro ⟨rfl, hfree⟩
    refine (List.map_congr_left fun c hc => ?_).trans (List.map_id' calls)
    exact CallDict.rewrittenFor_of_timed ((CallDict.timed_rewrittenFor_iff (hexpected c hc)).mpr (hfree c hc))

theorem length_requested_eq : (requested calltype calls).length =
    if calltype ≠ 0 then calls.countP fun c => c.type == calltype else calls.length := by
  unfold requested
  split
  · rw [List.countP_eq_length_filter]
  · rfl

end

/-! ## The invariant -/

/-- The entry under its key, until the next fetch. -/
def CallsFetch.entry (line : (days num : Int) → List Call) (fetch : CallsFetch) : Entry (List CallDict) where
  value := (fetch.listing line).map (CallDict.rewrittenFor fetch.rewritten)
  expiresAt := fetch.returned + 120

variable {line : (days num : Int) → List Call} {s t : CallsRun} {e : CallsStep}

namespace CallsRequest
variable (r : CallsRequest)

/-- The read of the calls. -/
def read : CachedRead (List CallDict) := callsRead r.days r.num r.force

/-- What the service makes of the calls. -/
def reply (calls : List CallDict) : CallsRequest → CallsAnswer
  | getStats _ => .stats
    { total := calls.length
      received := calls.countP fun c => c.type == callReceived
      missed := calls.countP fun c => c.type == callMissed
      outgoing := calls.countP fun c => c.type == callOut
      rejected := calls.countP fun c => c.type == callRejected }
  | r => .calls (requested r.calltype calls)

/-- What the handler does to the cache after the service has answered. -/
def finish (s : Cached AnsweringBox (List CallDict)) : CallsRequest → Cached AnsweringBox (List CallDict)
  | phoneCalls calltype days _ _ =>
    { s with
      cache := s.cache.mutate (PhoneService.cacheKey (numberOr (some days) 30)) (List.map fun c =>
        if calltype = 0 ∨ c.type = calltype then c.serialisable else c) }
  | getCalls .. | getStats _ => s

theorem getCalls_run {calltype : Int} {days num : Option Int} {force : Bool} {s t : Cached AnsweringBox (List CallDict)}
    {calls : List CallDict} (h : (callsRead (numberOr days 30) (numberOr num 100) force).run s = (.ok calls, t)) :
    PhoneService.getCalls AnsweringBox.phoneEnv calltype days num force s = (.ok (requested calltype calls), t) := by
  rw [getCalls_read]
  exact Eff.bind_of_ok h

theorem answer_run {s t : Cached AnsweringBox (List CallDict)} {calls : List CallDict} (h : r.read.run s = (.ok calls, t)) :
    r.answer s = (.ok (r.reply calls), t) := by
  cases r with
  | getCalls calltype days num force => exact Eff.bind_of_ok (getCalls_run h)
  | phoneCalls calltype days num force => exact Eff.bind_of_ok (getCalls_run h)
  | getStats force => exact Eff.bind_of_ok (Eff.bind_of_ok (getCalls_run h))

theorem perform_run {s t : Cached AnsweringBox (List CallDict)} {calls : List CallDict} (h : r.read.run s = (.ok calls, t)) :
    (r.perform s).2 = r.finish t := by
  cases r with
  | getCalls calltype days num force =>
    have hget : PhoneService.getCalls AnsweringBox.phoneEnv calltype days num force s =
        (.ok (requested calltype calls), t) := getCalls_run h
    rw [perform, Eff.bind_of_ok hget]
    rfl
  | phoneCalls calltype days num force =>
    have hget : PhoneService.getCalls AnsweringBox.phoneEnv calltype (some days) (some num) force s =
        (.ok (requested calltype calls), t) := getCalls_run h
    have hcalls : Phone.phoneCalls AnsweringBox.phoneEnv calltype days num force s =
        (.ok ((requested calltype calls).map CallDict.serialisable), finish t (phoneCalls calltype days num force)) := by
      rw [Phone.phoneCalls, Eff.bind_of_ok hget]
      rfl
    rw [perform, Eff.bind_of_ok hcalls]
    rfl
  | getStats force =>
    have hget : PhoneService.getCalls AnsweringBox.phoneEnv 0 (some 30) (some 100) force s =
        (.ok (requested 0 calls), t) := getCalls_run h
    have hstats : PhoneService.getStats AnsweringBox.phoneEnv force s = (.ok _, t) := Eff.bind_of_ok hget
    rw [perform, Eff.bind_of_ok hstats]
    rfl

theorem reply_boxCalls : r.reply (boxCalls line r.days r.num) = r.expected line := by
  cases r with
  | getCalls | phoneCalls => rfl
  | getStats force =>
    simp only [reply, expected, length_requested_eq]
    rfl

theorem reply_eq_iff {fetch : CallsFetch} :
    r.reply ((fetch.listing line).map (CallDict.rewrittenFor fetch.rewritten)) = r.expected line ↔ fetch.Agrees line r := by
  have hlisting : ∀ calltype, ∀ c ∈ requested calltype (fetch.listing line), c.Timed := by
    intro calltype c hc
    unfold CallsFetch.listing at hc
    split at hc
    · simp [requested] at hc
    · exact timed_requested hc
  have hcalls : ∀ calltype, requested calltype ((fetch.listing line).map (CallDict.rewrittenFor fetch.rewritten)) =
      requested calltype (boxCalls line r.days r.num) ↔
        requested calltype (fetch.listing line) = requested calltype (boxCalls line r.days r.num) ∧
          ∀ c ∈ requested calltype (boxCalls line r.days r.num), c.date ≠ none →
            ∀ type ∈ fetch.rewritten, ¬ (type = 0 ∨ c.type = type) := by
    intro calltype
    rw [requested_rewritten]
    exact rewritten_eq_iff (fun c hc => timed_requested hc) (hlisting calltype)
  cases r with
  | getCalls calltype | phoneCalls calltype =>
    exact (Iff.of_eq (CallsAnswer.calls.injEq _ _)).trans (hcalls calltype)
  | getStats force =>
    have hlength : ∀ calltype, (requested calltype
        ((fetch.listing line).map (CallDict.rewrittenFor fetch.rewritten))).length =
          (requested calltype (fetch.listing line)).length := by
      intro calltype
      rw [requested_rewritten, List.length_map]
    have hreply : ∀ calls, reply calls (getStats force) = .stats
        { total := (requested 0 calls).length
          received := (requested callReceived calls).length
          missed := (requested callMissed calls).length
          outgoing := (requested callOut calls).length
          rejected := (requested callRejected calls).length } := by
      intro calls
      simp only [reply, length_requested_eq]
      rfl
    rw [hreply, CallsFetch.Agrees]
    simp only [expected, hlength, CallsAnswer.stats.injEq, CallStats.mk.injEq, List.forall_mem_cons]
    simp

@[simp] theorem finish_world (c : Cached AnsweringBox (List CallDict)) : (r.finish c).world = c.world := by
  cases r <;> rfl

theorem finish_store_of_ne (c : Cached AnsweringBox (List CallDict)) {key : String} (h : key ≠ r.key) :
    (r.finish c).cache.store key = c.cache.store key := by
  cases r with
  | getCalls | getStats => rfl
  | phoneCalls => exact TtlCache.store_mutate_of_ne _ _ h

theorem finish_store {c : Cached AnsweringBox (List CallDict)} {fetch : CallsFetch}
    (h : c.cache.store r.key = some (fetch.entry line)) :
    (r.finish c).cache.store r.key = some ((r.rewrite fetch).entry line) := by
  cases r with
  | getCalls | getStats => exact h
  | phoneCalls calltype days num force =>
    have hvalue : ((fetch.listing line).map (CallDict.rewrittenFor fetch.rewritten)).map (fun c =>
        if calltype = 0 ∨ c.type = calltype then c.serialisable else c) =
          (fetch.listing line).map (CallDict.rewrittenFor (calltype :: fetch.rewritten)) := by
      rw [List.map_map]
      exact List.map_congr_left fun c _ => (CallDict.rewrittenFor_cons calltype).symm
    exact (TtlCache.store_mutate_self h).trans (congrArg (fun v => some (Entry.mk v _)) hvalue)

end CallsRequest

namespace CallsRun

/-- Each entry is what the fetch of its note returned, with the dates that have been rewritten since. -/
def Inv (line : (days num : Int) → List Call) (s : CallsRun) : Prop :=
  ∀ key, s.calls.cache.store key = (s.calls.note key).map (CallsFetch.entry line)

/-- A call that is served from the cache comes within 120 seconds after a fetch. -/
theorem hit_of_inv (h : s.Inv line) (hhit : e.request.read.misses (s.called line e) = false) :
    e.request.force = false ∧ ∃ fetch, s.calls.note e.request.key = some fetch ∧ e.time < fetch.returned + 120 ∧
      e.request.read.run (s.called line e) =
        (.ok ((fetch.listing line).map (CallDict.rewrittenFor fetch.rewritten)), s.called line e) := by
  obtain ⟨v, hlookup, hrun⟩ := CachedRead.run_of_hit hhit
  obtain ⟨entry, hentry, hvalid, rfl⟩ := TtlCache.lookup_eq_some.mp hlookup
  obtain ⟨fetch, hnote, rfl⟩ := Option.map_eq_some_iff.mp ((h _).symm.trans hentry)
  exact ⟨(Bool.or_eq_false_iff.mp hhit).1, fetch, hnote, hvalid, hrun⟩

/-- A call that asks the box is forced, or comes too late. -/
theorem late_of_inv (h : s.Inv line) (hmiss : e.request.read.misses (s.called line e) = true)
    (hforce : e.request.force = false) {fetch : CallsFetch} (hnote : s.calls.note e.request.key = some fetch) :
    ¬ e.time < fetch.returned + 120 := by
  intro hvalid
  have hentry := h e.request.key
  rw [hnote] at hentry
  have hlookup : s.calls.cache.lookup e.time e.request.key = some (fetch.entry line).value :=
    TtlCache.lookup_eq_some.mpr ⟨fetch.entry line, hentry, hvalid, rfl⟩
  have hread : e.request.read.misses (s.called line e) =
      (e.request.force || (s.calls.cache.lookup e.time e.request.key).isNone) := rfl
  rw [hread, hforce, hlookup] at hmiss
  cases hmiss

theorem read_value : e.request.read.value (s.called line e).world.answers =
    if e.fails.isSome then [] else boxCalls line e.request.days e.request.num := by
  change listing (match e.fails with | none => .ok (line e.request.days e.request.num) | some err => .error err) = _
  cases e.fails <;> rfl

theorem fetched_entry (returned : ℚ) :
    ({ value := e.request.read.value (s.called line e).world.answers, expiresAt := returned + 120 } :
      Entry (List CallDict)) = CallsFetch.entry line
        { days := e.request.days, num := e.request.num, failed := e.fails.isSome, returned } := by
  have hclean : CallDict.rewrittenFor [] = id := funext fun c => CallDict.rewrittenFor_nil
  rw [read_value, CallsFetch.entry, CallsFetch.listing, hclean, List.map_id]

theorem inv_step (h : s.Inv line) (hstep : s.step line e = some t) : t.Inv line := by
  cases hstep
  intro key
  cases hmiss : e.request.read.misses (s.called line e) with
  | true =>
    rw [e.request.perform_run (CachedRead.run_of_miss hmiss)]
    have hasked : ¬ (e.request.finish (e.request.read.stored (s.called line e))).world.asked =
        (e.during line s.box).asked := by
      rw [CallsRequest.finish_world]
      exact Nat.succ_ne_self s.box.asked
    dsimp only [Noted.after]
    rw [if_neg hasked, Function.update_self]
    by_cases hkey : key = e.request.key
    · rw [hkey, Function.update_self]
      refine e.request.finish_store ((TtlCache.store_set_self ..).trans (congrArg some ?_))
      rw [CallsRequest.finish_world]
      exact fetched_entry _
    · rw [Function.update_of_ne hkey, Function.update_of_ne hkey, CallsRequest.finish_store_of_ne _ _ hkey, ← h key]
      exact TtlCache.store_set_of_ne _ _ _ hkey
  | false =>
    obtain ⟨-, fetch, hnote, -, hrun⟩ := hit_of_inv h hmiss
    rw [e.request.perform_run hrun]
    have hasked : (e.request.finish (s.called line e)).world.asked = (e.during line s.box).asked := by
      rw [CallsRequest.finish_world]
      rfl
    dsimp only [Noted.after]
    rw [if_pos hasked]
    by_cases hkey : key = e.request.key
    · rw [hkey, Function.update_self, hnote]
      exact e.request.finish_store ((h _).trans (congrArg _ hnote))
    · rw [Function.update_of_ne hkey, CallsRequest.finish_store_of_ne _ _ hkey]
      exact h key

theorem transparent_iff (h : s.Inv line) : s.Transparent line e ↔ s.Unmixed line e := by
  cases hmiss : e.request.read.misses (s.called line e) with
  | true =>
    have hanswer := e.request.answer_run (CachedRead.run_of_miss hmiss)
    refine iff_of_true ?_ fun hforce fetch hnote hvalid => absurd hvalid (late_of_inv h hmiss hforce hnote)
    intro hanswers
    rw [hanswer] at hanswers ⊢
    have hfails : e.fails = none := hanswers.resolve_left (Nat.succ_ne_self s.box.asked)
    rw [read_value, hfails, Option.isSome_none, if_neg Bool.false_ne_true, CallsRequest.reply_boxCalls]
  | false =>
    obtain ⟨hforce, fetch, hnote, hvalid, hrun⟩ := hit_of_inv h hmiss
    have hanswer := e.request.answer_run hrun
    unfold Transparent Unmixed
    rw [hanswer]
    constructor
    · intro htransparent _ other hother _
      obtain rfl := Option.some.inj (hnote.symm.trans hother)
      exact e.request.reply_eq_iff.mp (Except.ok.inj (htransparent (Or.inl rfl)))
    · intro hunmixed _
      exact congrArg Except.ok (e.request.reply_eq_iff.mpr (hunmixed hforce fetch hnote hvalid))

/-- In every history of calls every answer is that of the box exactly if no call is served from a fetch that does
    not agree with it. -/
theorem runs_transparent_iff (line : (days num : Int) → List Call) (box : AnsweringBox) (es : List CallsStep) :
    Meets (step line) (Transparent line) { box } es ↔ Meets (step line) (Unmixed line) { box } es :=
  meets_iff (I := Inv line) (fun h _ hstep => inv_step h hstep) (fun h => transparent_iff h) fun _ => rfl

/-! ### An example -/

/-- A call that was answered. -/
def received (id : String) : Call where
  id := some id
  type := some callReceived
  callerNumber := some "0891234"
  calledNumber := none
  name := none
  device := none
  date := none
  duration := none

/-- The two latest calls. -/
def twoCalls (_ num : Int) : List Call := [received "2", received "1"].take num.toNat

/-- A box that answers nothing. -/
def silent : AnsweringBox where
  clock := 0
  answers :=
    { calls := fun _ _ => .error .external
      status := .error .external
      wlan := fun _ => .error .external
      hosts := fun _ => .error .external
      takes := 0 }

/-- `GET /phone/calls?num=1`, and one second later the page asks for the counts. -/
def oneThenStats : List CallsStep :=
  [{ request := .phoneCalls 0 30 1 false, time := 0 }, { request := .getStats false, time := 1 }]

theorem stats_of_shorter_list : ¬ Meets (step twoCalls) (Transparent twoCalls) { box := silent } oneThenStats := by
  rintro ⟨-, h⟩
  obtain ⟨hstats, -⟩ := h _ rfl
  have hanswer := hstats (Or.inr rfl)
  revert hanswer
  decide +kernel

end CallsRun

end SmartHome.Phone
