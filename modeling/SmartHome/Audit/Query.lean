import SmartHome.Audit.Service
import Mathlib.Data.List.Basic

/-! # Reading the audit log

`query` and `count` of `AuditRepository` (`app/audit/repository.py`), which `AuditService` passes on. Events of one
time come in the order of the table. -/

namespace SmartHome.Audit

/-- What a reader of the log asks for. -/
structure AuditEventFilter where
  action : Option String := none
  resourceType : Option String := none
  actorId : Option Uuid := none
  since : Option DateTime := none
  untilTime : Option DateTime := none

/-- `if value: query = query.where(..)`; an empty text is no value. -/
def whereIf {α : Type} (value : Option α) (truthy : α → Bool) (p : α → AuditEvent → Bool) (rows : List AuditEvent) :
    List AuditEvent :=
  match value with
  | some v => if truthy v then rows.filter (p v) else rows
  | none => rows

/-- A text that is not empty; the code tests it by truth value. -/
def nonEmpty (s : String) : Bool := s ≠ ""

/-- A `UUID` and a `datetime` are true. -/
def always {α : Type} (_ : α) : Bool := true

namespace AuditRepository

/-- `AuditRepository.query`: the latest events first, those of one page. -/
def query (table : List AuditEvent) (filters : Option AuditEventFilter := none) (limit : ℕ := 50) (offset : ℕ := 0) :
    List AuditEvent :=
  let rows := table.mergeSort fun a b => b.timestamp ≤ a.timestamp
  let rows :=
    match filters with
    | none => rows
    | some filters =>
      let rows := whereIf filters.action nonEmpty (fun action e => e.action == action) rows
      let rows := whereIf filters.resourceType nonEmpty (fun kind e => e.resourceType == some kind) rows
      let rows := whereIf filters.actorId always (fun actor e => e.actorId == some actor) rows
      let rows := whereIf filters.since always (fun since e => decide (e.timestamp ≥ since)) rows
      whereIf filters.untilTime always (fun untilTime e => decide (e.timestamp ≤ untilTime)) rows
  (rows.drop offset).take limit

/-- `AuditRepository.count`, which leaves `since` and `until` out. -/
def count (table : List AuditEvent) (filters : Option AuditEventFilter := none) : ℕ :=
  let rows :=
    match filters with
    | none => table
    | some filters =>
      let rows := whereIf filters.action nonEmpty (fun action e => e.action == action) table
      let rows := whereIf filters.resourceType nonEmpty (fun kind e => e.resourceType == some kind) rows
      whereIf filters.actorId always (fun actor e => e.actorId == some actor) rows
  rows.length

end AuditRepository

namespace AuditService

/-- `AuditService.list_events`. -/
def listEvents (table : List AuditEvent) (filters : Option AuditEventFilter := none) (limit : ℕ := 50)
    (offset : ℕ := 0) : List AuditEvent :=
  AuditRepository.query table filters limit offset

/-- `AuditService.count_events`. -/
def countEvents (table : List AuditEvent) (filters : Option AuditEventFilter := none) : ℕ :=
  AuditRepository.count table filters

end AuditService

/-! ## The conditions -/

/-- The condition that `whereIf` adds. -/
def holdsFor {α : Type} (value : Option α) (truthy : α → Bool) (p : α → AuditEvent → Bool) (e : AuditEvent) : Bool :=
  value.all fun v => !truthy v || p v e

/-- The event has the action, the resource type and the actor that the filter names. -/
def AuditEventFilter.selects (filters : AuditEventFilter) (e : AuditEvent) : Bool :=
  holdsFor filters.action nonEmpty (fun action e => e.action == action) e &&
    holdsFor filters.resourceType nonEmpty (fun kind e => e.resourceType == some kind) e &&
    holdsFor filters.actorId always (fun actor e => e.actorId == some actor) e

/-- The event is of the time that the filter names. -/
def AuditEventFilter.within (filters : AuditEventFilter) (e : AuditEvent) : Bool :=
  holdsFor filters.since always (fun since e => decide (e.timestamp ≥ since)) e &&
    holdsFor filters.untilTime always (fun untilTime e => decide (e.timestamp ≤ untilTime)) e

section Conditions
variable {α : Type} {table : List AuditEvent} {filters : AuditEventFilter} {limit : ℕ}

theorem whereIf_eq_filter (value : Option α) (truthy : α → Bool) (p : α → AuditEvent → Bool) (rows : List AuditEvent) :
    whereIf value truthy p rows = rows.filter (holdsFor value truthy p) := by
  cases value with
  | none => exact (List.filter_eq_self.mpr fun _ _ => rfl).symm
  | some v =>
    rw [whereIf]
    cases htruthy : truthy v with
    | true =>
      refine List.filter_congr fun e _ => ?_
      simp [holdsFor, htruthy]
    | false =>
      refine (List.filter_eq_self.mpr fun e _ => ?_).symm
      simp [holdsFor, htruthy]

theorem count_eq (table : List AuditEvent) (filters : AuditEventFilter) :
    AuditService.countEvents table (some filters) = (table.filter filters.selects).length := by
  simp only [AuditService.countEvents, AuditRepository.count, whereIf_eq_filter, List.filter_filter]
  refine congrArg List.length (List.filter_congr fun e _ => ?_)
  rw [AuditEventFilter.selects, Bool.and_comm, Bool.and_comm (holdsFor filters.resourceType _ _ _)]

/-- A page long enough holds every event of the filter. -/
theorem length_query (hlimit : table.length ≤ limit) :
    (AuditService.listEvents table (some filters) limit 0).length =
      ((table.filter filters.selects).filter filters.within).length := by
  have hsorted := table.mergeSort_perm fun a b => decide (b.timestamp ≤ a.timestamp)
  have hrows := ((hsorted.filter filters.selects).filter filters.within).length_eq
  have hfits : ((table.filter filters.selects).filter filters.within).length ≤ limit :=
    ((List.length_filter_le _ _).trans (List.length_filter_le _ _)).trans hlimit
  have hquery : AuditService.listEvents table (some filters) limit 0 =
      (((table.mergeSort fun a b => b.timestamp ≤ a.timestamp).filter filters.selects).filter filters.within).take
        limit := by
    simp only [AuditService.listEvents, AuditRepository.query, whereIf_eq_filter, List.filter_filter, List.drop_zero]
    refine congrArg (List.take limit) (List.filter_congr fun e _ => ?_)
    simp only [AuditEventFilter.selects, AuditEventFilter.within]
    ac_rfl
  rw [hquery, List.length_take, hrows, min_eq_right hfits]

theorem within_iff {e : AuditEvent} :
    filters.within e = true ↔ (∀ since, filters.since = some since → since ≤ e.timestamp) ∧
      ∀ untilTime, filters.untilTime = some untilTime → e.timestamp ≤ untilTime := by
  unfold AuditEventFilter.within
  rw [Bool.and_eq_true]
  refine and_congr ?_ ?_
  · cases filters.since with
    | none => simp [holdsFor]
    | some since => simp [holdsFor, always]
  · cases filters.untilTime with
    | none => simp [holdsFor]
    | some untilTime => simp [holdsFor, always]

/-- The count is that of the query exactly when every event that the action, the resource type and the actor of the
    filter select is of the filter's time. -/
theorem count_eq_query_iff (hlimit : table.length ≤ limit) :
    AuditService.countEvents table (some filters) = (AuditService.listEvents table (some filters) limit 0).length ↔
      ∀ e ∈ table, filters.selects e = true →
        (∀ since, filters.since = some since → since ≤ e.timestamp) ∧
          ∀ untilTime, filters.untilTime = some untilTime → e.timestamp ≤ untilTime := by
  rw [count_eq, length_query hlimit, eq_comm, List.length_filter_eq_length_iff]
  simp only [List.mem_filter, and_imp, within_iff]

/-- A login at the first second of the epoch. -/
def firstLogin : AuditEvent := { action := "user_login", timestamp := 0 }

theorem count_eq_query_login :
    AuditService.countEvents [firstLogin] (some { action := some "user_login", since := some 0 }) =
        (AuditService.listEvents [firstLogin] (some { action := some "user_login", since := some 0 }) 50 0).length ↔
      ∀ e ∈ [firstLogin],
        AuditEventFilter.selects { action := some "user_login", since := some 0 } e = true →
          (∀ since : DateTime, some 0 = some since → since ≤ e.timestamp) ∧
            ∀ untilTime : DateTime, none = some untilTime → e.timestamp ≤ untilTime :=
  count_eq_query_iff (by simp)

/-- An event before the time that is asked for is counted and not listed. -/
theorem count_ne_query_since :
    ¬ ∀ (table : List AuditEvent) (filters : AuditEventFilter) (limit : ℕ), table.length ≤ limit →
      AuditService.countEvents table (some filters) =
        (AuditService.listEvents table (some filters) limit 0).length := by
  intro h
  have hcount := h [firstLogin] { since := some 60 } 50 (by simp)
  rw [count_eq, length_query (by simp)] at hcount
  exact absurd hcount (by decide)

end Conditions

end SmartHome.Audit
