import SmartHome.Exceptions
import SmartHome.Lib.DateTime

/-! # Audit events

`emit_event` and `_write_event` (`app/audit/service.py`, `app/audit/models.py`). An event is written by a task of its
own, some time after it was emitted. -/

namespace SmartHome.Audit

/-- The arguments of `emit_event`. -/
structure Emitted where
  action : String
  actorId : Option Uuid := none
  resourceType : Option String := none
  resourceId : Option String := none
  payload : Option PyDict := none
  ipAddress : Option String := none
  userAgent : Option String := none

/-- An event in the table. -/
structure AuditEvent extends Emitted where
  timestamp : DateTime

/-- The events, and the tasks that are still to write one. -/
structure AuditLog where
  /-- `_background_tasks`. -/
  tasks : List Emitted := []
  events : List AuditEvent := []

/-- `emit_event`: a task for the event. -/
def emitEvent (e : Emitted) (log : AuditLog) : AuditLog := { log with tasks := log.tasks ++ [e] }

/-- `_write_event`, when its commit succeeds. -/
def writeEvent (i : ℕ) (now : DateTime) (log : AuditLog) : AuditLog :=
  match log.tasks[i]? with
  | none => log
  | some e => { tasks := log.tasks.eraseIdx i, events := log.events ++ [{ toEmitted := e, timestamp := now }] }

/-- What has been emitted, whether it is written already or not. -/
def AuditLog.emitted (log : AuditLog) : List Emitted := log.events.map AuditEvent.toEmitted ++ log.tasks

theorem emitted_emitEvent (e : Emitted) (log : AuditLog) : (emitEvent e log).emitted = log.emitted ++ [e] :=
  (List.append_assoc ..).symm

/-- Writing an event emits nothing and loses nothing. -/
theorem emitted_writeEvent (i : ℕ) (now : DateTime) (log : AuditLog) :
    List.Perm (writeEvent i now log).emitted log.emitted := by
  unfold writeEvent
  cases htask : log.tasks[i]? with
  | none => exact List.Perm.refl _
  | some e =>
    obtain ⟨hi, rfl⟩ := List.getElem?_eq_some_iff.mp htask
    simp only [AuditLog.emitted, List.map_append, List.map_cons, List.map_nil, List.append_assoc]
    exact (List.getElem_cons_eraseIdx_perm hi).append_left _

/-- What is written stays. -/
theorem writeEvent_events (i : ℕ) (now : DateTime) (log : AuditLog) : log.events <+: (writeEvent i now log).events := by
  unfold writeEvent
  cases log.tasks[i]? with
  | none => exact List.prefix_rfl
  | some e => exact List.prefix_append _ _

end SmartHome.Audit
