import SmartHome.Audit.Query
import SmartHome.Lib.Paging
import SmartHome.Lib.Run

/-! # The page of the audit log

The component `auditPage` (`app/templates/audit/index.html`) and the endpoint that it reads,
`list_audit_events` (`app/api/v1/audit.py`), while events are written. Answers can come late and in any order. -/

namespace SmartHome
open Audit Paging Run

/-- The endpoint behind its guard; `none` for parameters that are turned down with 422. -/
def Api.listAuditEvents (table : List AuditEvent) (filters : AuditEventFilter) (limit offset : Int) :
    Option (List AuditEvent) :=
  if 1 ≤ limit ∧ limit ≤ 200 ∧ 0 ≤ offset then
    some (AuditService.listEvents table (some filters) limit.toNat offset.toNat)
  else none

namespace Ui

/-- What the endpoint answers. -/
inductive Reply where
  | events (events : List AuditEvent)
  /-- The status 403. -/
  | forbidden
  /-- Another status, or none. -/
  | failed

/-- A call of `load` that awaits its answer. -/
structure Load where
  offset : Int
  filterAction : String
  reply : Option Reply := none

/-- The state of the page, its loads, and the table behind it. -/
structure AuditPage where
  events : List AuditEvent := []
  filterAction : String := ""
  limit : Int := 50
  offset : Int := 0
  loads : List Load := []
  /-- The table at the server. -/
  table : List AuditEvent
  /-- The pages that have been shown; nothing reads them. -/
  shown : List (List AuditEvent) := []

/-- What the user, the server and others do. -/
inductive AuditPageEvent where
  /-- The button "Aktualisieren". -/
  | reload
  | nextPage
  | prevPage
  | select (filterAction : String)
  /-- The server answers a load: with events, or with an error. -/
  | serve (i : ℕ)
  | refuse (i : ℕ) (reply : Reply)
  | receive (i : ℕ)
  | write (e : AuditEvent)

namespace AuditPage

/-- The filter that the parameter `action` makes; without one it is `None`. -/
def filters (filterAction : String) : AuditEventFilter :=
  { action := if filterAction = "" then none else some filterAction }

/-- `load` up to its `await`. -/
def load (p : AuditPage) : AuditPage :=
  { p with loads := p.loads ++ [{ offset := p.offset, filterAction := p.filterAction }] }

/-- `init`. -/
def opened (table : List AuditEvent) (filterAction : String) : AuditPage := load { table, filterAction }

/-- The button for the next page. -/
def nextPage (p : AuditPage) : AuditPage := load { p with offset := p.offset + p.limit }

/-- The button for the page before. -/
def prevPage (p : AuditPage) : AuditPage := load { p with offset := max 0 (p.offset - p.limit) }

/-- `load` after its `await`. -/
def receive (p : AuditPage) : Reply → AuditPage
  | .events events => { p with events, shown := p.shown ++ [events] }
  | .forbidden => { p with events := [] }
  | .failed => p

/-- A button that is disabled does nothing. -/
def step (p : AuditPage) : AuditPageEvent → Option AuditPage
  | .reload => some p.load
  | .nextPage => if (p.events.length : Int) < p.limit then none else some p.nextPage
  | .prevPage => if p.offset = 0 then none else some p.prevPage
  | .select filterAction => some (load { p with filterAction })
  | .serve i => do
    let load ← p.loads[i]?
    let reply := (Api.listAuditEvents p.table (filters load.filterAction) p.limit load.offset).elim .failed .events
    if load.reply.isSome then none else some { p with loads := p.loads.set i { load with reply := some reply } }
  | .refuse i reply => do
    let load ← p.loads[i]?
    if load.reply.isSome then none else some { p with loads := p.loads.set i { load with reply := some reply } }
  | .receive i => do
    let load ← p.loads[i]?
    let reply ← load.reply
    some (receive { p with loads := p.loads.eraseIdx i } reply)
  | .write e => some { p with table := p.table ++ [e] }

/-! ## What a load gets -/

/-- The events that match the filter. -/
def matching (filterAction : String) (table : List AuditEvent) : List AuditEvent :=
  table.filter (filters filterAction).selects

theorem selects_iff {filterAction : String} {e : AuditEvent} :
    (filters filterAction).selects e = true ↔ filterAction = "" ∨ e.action = filterAction := by
  by_cases hempty : filterAction = ""
  · simp [filters, AuditEventFilter.selects, holdsFor, hempty]
  · simp [filters, AuditEventFilter.selects, holdsFor, hempty, nonEmpty]

/-- The times of the events differ. -/
def Timed (table : List AuditEvent) : Prop := table.Pairwise fun a b => a.timestamp ≠ b.timestamp

/-- The endpoint serves a page of the events that match, the newest first. -/
theorem listAuditEvents_page {table : List AuditEvent} (htimed : Timed table) (filterAction : String) (offset : ℕ) :
    ∃ s, Listing AuditEvent.timestamp (matching filterAction table) s ∧
      Api.listAuditEvents table (filters filterAction) 50 offset = some ((s.drop offset).take 50) := by
  let sorted := table.mergeSort fun a b => decide (b.timestamp ≤ a.timestamp)
  refine ⟨sorted.filter (filters filterAction).selects, ⟨?_, ?_⟩, ?_⟩
  · exact (table.mergeSort_perm _).filter _
  · have htotal : ∀ a b : AuditEvent, (decide (b.timestamp ≤ a.timestamp) || decide (a.timestamp ≤ b.timestamp)) = true :=
      fun a b => by simpa using le_total b.timestamp a.timestamp
    have hsorted : sorted.Pairwise fun a b => decide (b.timestamp ≤ a.timestamp) = true :=
      @List.pairwise_mergeSort _ (fun a b => decide (b.timestamp ≤ a.timestamp))
        (fun a b c hab hbc => decide_eq_true (le_trans (of_decide_eq_true hbc) (of_decide_eq_true hab))) htotal table
    have hdistinct : sorted.Pairwise fun a b => a.timestamp ≠ b.timestamp :=
      ((table.mergeSort_perm _).pairwise_iff fun hne => hne.symm).mpr htimed
    refine ((hsorted.and hdistinct).imp fun hboth => ?_).filter _
    have hle := of_decide_eq_true hboth.1
    have hne := hboth.2
    exact lt_of_le_of_ne hle hne.symm
  · rw [Api.listAuditEvents, if_pos (by omega)]
    simp only [AuditService.listEvents, AuditRepository.query, whereIf_eq_filter, List.filter_filter]
    congr 3
    refine List.filter_congr fun e _ => ?_
    simp [AuditEventFilter.selects, filters, holdsFor, Bool.and_comm]

/-! ## Reading page after page -/

/-- The user clicks when the last load has been answered, and leaves the filter as it is; every load is served; no two
    events have the same time. -/
def Patient (p : AuditPage) : AuditPageEvent → Prop
  | .reload | .nextPage | .prevPage => p.loads = []
  | .select _ | .refuse .. => False
  | .serve _ | .receive _ => True
  | .write e => ∀ old ∈ p.table, old.timestamp ≠ e.timestamp

/-- How far the user has read: the load is answered, on its way, or its answer is. -/
inductive Stage (filterAction : String) (p : AuditPage) (track : List (List AuditEvent) → ℕ → Prop) : ℕ → Prop where
  | resting {offset frontier : ℕ} (loads : p.loads = []) (events : p.events ∈ p.shown)
      (tracks : track p.shown frontier) (behind : offset + 50 ≤ frontier) : Stage filterAction p track offset
  | asking {offset frontier : ℕ} (loads : p.loads = [{ offset, filterAction }])
      (tracks : track p.shown frontier) (behind : offset ≤ frontier) : Stage filterAction p track offset
  | answered {offset frontier : ℕ} (page : List AuditEvent)
      (loads : p.loads = [{ offset, filterAction, reply := some (.events page) }])
      (tracks : track (p.shown ++ [page]) frontier) (behind : offset + 50 ≤ frontier) : Stage filterAction p track offset

/-- What holds while a patient user reads. -/
structure Reading (first : List AuditEvent) (filterAction : String) (p : AuditPage) : Prop where
  action : p.filterAction = filterAction
  limit : p.limit = 50
  timed : Timed p.table
  kept : ∀ e ∈ first, e ∈ p.table
  stage : ∃ offset : ℕ, p.offset = offset ∧ Stage filterAction p
    (Tracks AuditEvent.timestamp (matching filterAction first) (matching filterAction p.table) 50) offset

variable {first : List AuditEvent} {filterAction : String} {p q : AuditPage}

/-- A click, when nothing is on its way: from an offset that is not behind the frontier. -/
theorem Reading.load (h : Reading first filterAction p) (hrest : p.loads = []) {offset : ℕ}
    (hoffset : (offset : Int) ≤ p.offset + 50) :
    Reading first filterAction (load { p with offset }) := by
  obtain ⟨before, hbefore, hstage⟩ := h.stage
  refine ⟨h.action, h.limit, h.timed, h.kept, offset, rfl, ?_⟩
  cases hstage with
  | resting loads events tracks behind =>
    refine .asking ?_ tracks (by omega)
    simp [AuditPage.load, loads, h.action]
  | asking loads | answered page loads =>
    rw [loads] at hrest
    cases hrest

/-- There is one load, so it is the one that is looked up. -/
theorem eq_of_getElem?_singleton {load load' : Load} {i : ℕ} (h : [load][i]? = some load') : i = 0 ∧ load' = load := by
  obtain ⟨hi, rfl⟩ := List.getElem?_eq_some_iff.mp h
  obtain rfl : i = 0 := Nat.lt_one_iff.mp hi
  exact ⟨rfl, rfl⟩

/-- A load that is served gets the page that follows the ones shown, or one of them again. -/
theorem Reading.serve {i : ℕ} (h : Reading first filterAction p) (hstep : p.step (.serve i) = some q) :
    Reading first filterAction q := by
  obtain ⟨offset, hoffset, hstage⟩ := h.stage
  simp only [step, Option.bind_eq_bind, Option.bind_eq_some_iff, Option.ite_none_left_eq_some] at hstep
  obtain ⟨load, hload, hunanswered, hstep⟩ := hstep
  cases hstep
  cases hstage with
  | resting loads events tracks behind =>
    rw [loads] at hload
    cases hload
  | asking loads tracks behind =>
    obtain ⟨rfl, rfl⟩ := eq_of_getElem?_singleton (loads ▸ hload)
    obtain ⟨s, hlisting, hpage⟩ := listAuditEvents_page h.timed filterAction offset
    have hkept : ∀ e ∈ matching filterAction first, e ∈ matching filterAction p.table := fun e he =>
      List.mem_filter.mpr ⟨h.kept e (List.mem_filter.mp he).1, (List.mem_filter.mp he).2⟩
    refine ⟨h.action, h.limit, h.timed, h.kept, offset, hoffset, ?_⟩
    refine .answered _ ?_ (tracks.read hkept hlisting behind) (le_max_right _ _)
    simp only [h.limit, loads, List.set_cons_zero]
    rw [hpage]
    rfl
  | answered page loads tracks behind =>
    obtain ⟨-, rfl⟩ := eq_of_getElem?_singleton (loads ▸ hload)
    exact absurd rfl hunanswered

/-- The page that was answered is shown. -/
theorem Reading.receive {i : ℕ} (h : Reading first filterAction p) (hstep : p.step (.receive i) = some q) :
    Reading first filterAction q := by
  obtain ⟨offset, hoffset, hstage⟩ := h.stage
  simp only [step, Option.bind_eq_bind, Option.bind_eq_some_iff] at hstep
  obtain ⟨load, hload, reply, hreply, hstep⟩ := hstep
  cases hstage with
  | resting loads =>
    rw [loads] at hload
    cases hload
  | asking loads =>
    obtain ⟨-, rfl⟩ := eq_of_getElem?_singleton (loads ▸ hload)
    cases hreply
  | answered page loads tracks behind =>
    obtain ⟨rfl, rfl⟩ := eq_of_getElem?_singleton (loads ▸ hload)
    cases hreply
    cases hstep
    refine ⟨h.action, h.limit, h.timed, h.kept, offset, hoffset, ?_⟩
    refine .resting ?_ (List.mem_append_right _ (List.mem_singleton_self _)) tracks behind
    simp [AuditPage.receive, loads]

/-- A new event moves older ones to later pages, so what has been shown still reaches as far. -/
theorem Reading.write {e : AuditEvent} (h : Reading first filterAction p)
    (hnew : ∀ old ∈ p.table, old.timestamp ≠ e.timestamp) :
    Reading first filterAction { p with table := p.table ++ [e] } := by
  obtain ⟨offset, hoffset, hstage⟩ := h.stage
  have hgrown : (matching filterAction p.table).Sublist (matching filterAction (p.table ++ [e])) :=
    (List.sublist_append_left _ _).filter _
  have htimed : Timed (p.table ++ [e]) :=
    List.pairwise_append.mpr ⟨h.timed, List.pairwise_singleton _ _, fun old hold new hmem =>
      List.mem_singleton.mp hmem ▸ hnew old hold⟩
  refine ⟨h.action, h.limit, htimed, fun e he => List.mem_append_left _ (h.kept e he), offset, hoffset, ?_⟩
  cases hstage with
  | resting loads events tracks behind => exact .resting loads events (tracks.grow hgrown) behind
  | asking loads tracks behind => exact .asking loads (tracks.grow hgrown) behind
  | answered page loads tracks behind => exact .answered page loads (tracks.grow hgrown) behind

theorem step_reading {e : AuditPageEvent} (h : Reading first filterAction p) (hpatient : Patient p e)
    (hstep : p.step e = some q) : Reading first filterAction q := by
  obtain ⟨offset, hoffset, -⟩ := h.stage
  cases e with
  | reload =>
    cases hstep
    have hsame : p = { p with offset := (offset : Int) } := by rw [← hoffset]
    rw [hsame]
    exact h.load hpatient (by omega)
  | nextPage =>
    simp only [step, Option.ite_none_left_eq_some] at hstep
    obtain ⟨-, hstep⟩ := hstep
    cases hstep
    have hnext : p.offset + p.limit = ((offset + 50 : ℕ) : Int) := by rw [h.limit, hoffset]; rfl
    rw [nextPage, hnext]
    exact h.load hpatient (by omega)
  | prevPage =>
    simp only [step, Option.ite_none_left_eq_some] at hstep
    obtain ⟨-, hstep⟩ := hstep
    cases hstep
    have hprev : max 0 (p.offset - p.limit) = ((offset - 50 : ℕ) : Int) := by rw [h.limit, hoffset]; omega
    rw [prevPage, hprev]
    exact h.load hpatient (by omega)
  | select | refuse => exact hpatient.elim
  | serve i => exact h.serve hstep
  | receive i => exact h.receive hstep
  | write e =>
    cases hstep
    exact h.write hpatient

/-- An administrator opens the page and clicks through it, back and forth and on again, until the button "Weiter" is
    disabled. Then every event that was there at first has been on a page, though events were written all the time. -/
theorem pages_miss_nothing (table : List AuditEvent) (htimed : Timed table) (filterAction : String)
    {es : List AuditPageEvent} (hpatient : Meets step Patient (opened table filterAction) es)
    (hvisit : Visits step (opened table filterAction) es p) (hrest : p.loads = []) (hend : p.step .nextPage = none) :
    ∀ e ∈ table, filterAction = "" ∨ e.action = filterAction → ∃ page ∈ p.shown, e ∈ page := by
  have hopened : Reading table filterAction (opened table filterAction) :=
    ⟨rfl, rfl, htimed, fun _ he => he, 0, rfl, .asking rfl .start le_rfl⟩
  have hreading := invariant_of_visits step_reading hopened hpatient hvisit
  have hshort : (p.events.length : Int) < 50 := by
    rw [step, hreading.limit] at hend
    by_contra hlong
    rw [if_neg hlong] at hend
    cases hend
  intro e he hmatches
  obtain ⟨offset, -, hstage⟩ := hreading.stage
  cases hstage with
  | resting loads events tracks behind =>
    exact tracks.short p.events events (by omega) e (List.mem_filter.mpr ⟨he, selects_iff.mpr hmatches⟩)
  | asking loads | answered page loads =>
    rw [loads] at hrest
    cases hrest

/-- An event is written while the answer with the first page is on its way. -/
def lateEvent : List AuditPageEvent := [.serve 0, .write { action := "device_control", timestamp := 60 }, .receive 0]

theorem first_login_is_shown :
    ∃ p, run step (opened [firstLogin] "user_login") lateEvent = some p ∧ ∃ page ∈ p.shown, firstLogin ∈ page := by
  have hpatient : Meets step Patient (opened [firstLogin] "user_login") lateEvent := by
    refine ⟨trivial, fun q hq => ?_⟩
    cases hq
    exact ⟨by simp [Patient, firstLogin, opened, load], fun _ _ => ⟨trivial, fun _ _ => trivial⟩⟩
  refine ⟨_, rfl, pages_miss_nothing [firstLogin] (List.pairwise_singleton _ _) "user_login" hpatient
    ⟨lateEvent, List.prefix_rfl, rfl⟩ rfl ?_ firstLogin List.mem_cons_self (.inr rfl)⟩
  simp [step, receive, Api.listAuditEvents, AuditService.listEvents, AuditRepository.query, whereIf, filters, nonEmpty,
    firstLogin, opened, load]

end AuditPage
end Ui
end SmartHome
