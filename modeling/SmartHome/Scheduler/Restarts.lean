import SmartHome.Scheduler.Engine
import SmartHome.Scheduler.Failures

/-! # Schedules and restarts

A run mixes starts and stops of the process, schedule requests and the passing of time. A start registers the
background jobs and no job of a schedule. -/

namespace SmartHome
open Run Request

variable {T : Type} {aps : Apscheduler T}

/-- What happens to the process. -/
inductive ProcessEvent where
  /-- `lifespan` up to its `yield`. -/
  | start
  | stop
  | request (body : RequestBody) (fails : DbCall → Option PyError)
  /-- Time passes; the scheduler removes the jobs of some schedules whose trigger has no fire time left. -/
  | elapse (now : DateTime) (ended : List Uuid)

namespace Process

/-- The schedule has no job whose trigger has a fire time left. -/
def hasEnded (aps : Apscheduler T) (s : Stores T) (now : DateTime) (id : Uuid) : Bool :=
  match s.job id with
  | none => true
  | some job => (aps.nextFireTime job.trigger now).isNone

/-- The jobs of these schedules are removed. -/
def removeJobs (ids : List Uuid) (s : Stores T) : Stores T := ids.foldl (fun s id => s.removeJob (.schedule id)) s

/-- What an event does; requests come to a process that runs. -/
def step (aps : Apscheduler T) (p : Process T) : ProcessEvent → Option (Process T)
  | .start =>
    if p.running then none
    else match startScheduler aps p with
      | (.ok (), q) => some q
      | (.error _, _) => none
  | .stop => if p.running then some p.stopScheduler else none
  | .request body fails =>
    if p.running then some { p with stores := (handle aps { body, now := p.now, fails } p.stores).2 } else none
  | .elapse now ended =>
    if p.now ≤ now && ended.all (hasEnded aps p.stores now) then
      some { p with
        stores := removeJobs ended p.stores
        now }
    else none

end Process

open Process

/-- The row is to have a job: it is enabled, its trigger type is known, and its trigger, whenever it was built,
    still has a fire time. -/
def NeedsJob (aps : Apscheduler T) (now : DateTime) (row : Schedule) : Prop :=
  row.isEnabled = true ∧ Supported row.triggerType ∧
    ∀ built trigger, built ≤ now → buildTrigger aps built row.triggerType row.triggerConfig = .ok (some trigger) →
      aps.nextFireTime trigger now ≠ none

/-- Every row that needs a job has one, and every job of a schedule belongs to an enabled row. -/
structure JobsAgree (aps : Apscheduler T) (p : Process T) : Prop where
  present : ∀ id row, p.stores.rows.find id = some row → NeedsJob aps p.now row → p.stores.job id ≠ none
  absent : ∀ id, p.stores.job id ≠ none → ∃ row, p.stores.rows.find id = some row ∧ row.isEnabled = true

/-- No start finds a row that needs a job, and no request fails after it has changed the job table. -/
def Undisturbed (aps : Apscheduler T) (p : Process T) : ProcessEvent → Prop
  | .start => ∀ id row, p.stores.rows.find id = some row → ¬ NeedsJob aps p.now row
  | .stop => True
  | .request body fails => NoLateFailure aps p.stores { body, now := p.now, fails }
  | .elapse _ _ => True

/-! ### The invariant -/

/-- The job of an enabled row was registered, and is there unless its trigger has run out. -/
structure Registered (aps : Apscheduler T) (p : Process T) : Prop where
  present : ∀ id row, p.stores.rows.find id = some row → row.isEnabled = true → Supported row.triggerType →
    ∃ built trigger, built ≤ p.now ∧ buildTrigger aps built row.triggerType row.triggerConfig = .ok (some trigger) ∧
      (p.stores.job id = some { trigger, task := .jobFunc id row.actionConfig } ∨ aps.nextFireTime trigger p.now = none)
  absent : ∀ id, p.stores.job id ≠ none → ∃ row, p.stores.rows.find id = some row ∧ row.isEnabled = true

theorem Registered.jobsAgree {p : Process T} (h : Registered aps p) : JobsAgree aps p where
  present id row hfind hneeds := by
    obtain ⟨henabled, hsupported, hfires⟩ := hneeds
    obtain ⟨built, trigger, hbuilt, hbuild, hjob | hspent⟩ := h.present id row hfind henabled hsupported
    · rw [hjob]
      exact Option.some_ne_none _
    · exact absurd hspent (hfires built trigger hbuilt hbuild)
  absent := h.absent

theorem Registered.freeOfJobs {p : Process T} (h : Registered aps p) : FreeOfJobs p.stores := by
  intro id hfind
  by_contra hjob
  obtain ⟨row, hrow, -⟩ := h.absent id hjob
  rw [hfind] at hrow
  cases hrow

/-! ### The steps -/

@[simp] theorem removeJobs_rows (ids : List Uuid) (s : Stores T) : (removeJobs ids s).rows = s.rows := by
  unfold removeJobs
  induction ids generalizing s with
  | nil => rfl
  | cons id ids ih => exact ih _

theorem removeJobs_job (ids : List Uuid) (s : Stores T) (id : Uuid) :
    (removeJobs ids s).job id = if id ∈ ids then none else s.job id := by
  unfold removeJobs
  induction ids generalizing s with
  | nil => rfl
  | cons other ids ih =>
    rw [List.foldl_cons, ih]
    by_cases hid : id = other
    · subst hid
      simp
    · simp [hid, s.removeJob_job_of_ne hid]

theorem registered_elapse {p q : Process T} {now : DateTime} {ended : List Uuid} (h : Registered aps p)
    (hstep : step aps p (.elapse now ended) = some q) : Registered aps q := by
  simp only [step] at hstep
  split at hstep
  next hguard =>
    cases hstep
    rw [Bool.and_eq_true, decide_eq_true_eq, List.all_eq_true] at hguard
    obtain ⟨hlater, hended⟩ := hguard
    refine ⟨fun id row hfind henabled hsupported => ?_, fun id hjob => ?_⟩
    · rw [removeJobs_rows] at hfind
      obtain ⟨built, trigger, hbuilt, hbuild, hjob⟩ := h.present id row hfind henabled hsupported
      refine ⟨built, trigger, hbuilt.trans hlater, hbuild, ?_⟩
      rcases hjob with hjob | hspent
      · by_cases hmem : id ∈ ended
        · -- A removed job had no fire time left.
          have hend := hended id hmem
          rw [hasEnded, hjob] at hend
          exact Or.inr (Option.isNone_iff_eq_none.mp hend)
        · refine Or.inl ?_
          rw [removeJobs_job, if_neg hmem, hjob]
      · exact Or.inr (aps.spent hlater hspent)
    · rw [removeJobs_job] at hjob
      split at hjob
      · exact absurd rfl hjob
      · rw [removeJobs_rows]
        exact h.absent id hjob
  · cases hstep

theorem start_keeps {p q : Process T} (hstep : step aps p .start = some q) :
    p.running = false ∧ SameSchedules p q := by
  simp only [step] at hstep
  split at hstep
  · cases hstep
  next hrunning =>
    have hkeeps := startScheduler_keeps aps p
    split at hstep
    next q' hrun =>
      rw [hrun] at hkeeps
      cases hstep
      exact ⟨Bool.eq_false_iff.mpr hrunning, hkeeps⟩
    · cases hstep

theorem registered_start {p q : Process T} (hdown : p.stores.job = fun _ => none) (hok : Undisturbed aps p .start)
    (hkeeps : SameSchedules p q) : Registered aps q := by
  refine ⟨fun id row hfind henabled hsupported => ?_, fun id hjob => ?_⟩
  · rw [hkeeps.rows] at hfind
    have hneeds := hok id row hfind
    simp only [NeedsJob, henabled, hsupported, true_and, not_forall, not_not] at hneeds
    obtain ⟨built, trigger, hbuilt, hbuild, hspent⟩ := hneeds
    rw [hkeeps.now]
    exact ⟨built, trigger, hbuilt, hbuild, Or.inr hspent⟩
  · rw [hkeeps.job, hdown] at hjob
    exact absurd rfl hjob

theorem registered_finish {p : Process T} {r : Request} {pl : Plan T} (h : Registered aps p)
    (hplan : r.plan aps p.stores = some pl) (hnow : r.now = p.now) (hlate : pl.late = none) :
    Registered aps { p with stores := pl.finish p.stores } := by
  have hrow : ∀ row, pl.row = some row → row.id = pl.id := fun row hr => plan_row_id hplan hr
  have hself := Plan.finish_find_self (s := p.stores) hrow hlate
  refine ⟨fun id row hfind henabled hsupported => ?_, fun id hjob => ?_⟩
  · by_cases hid : id = pl.id
    · subst hid
      rw [hself] at hfind
      rcases plan_cases hplan with ⟨row', hrow', -, hf⟩ | ⟨hdisabled, -⟩
      · rw [hrow'] at hfind
        cases hfind
        rcases registerEffect_eq_ok.mp hf with ⟨hbuild, -⟩ | ⟨trigger, hbuild, hadd⟩
        · exact absurd hbuild (buildTrigger_ne_none_of_supported hsupported)
        · refine ⟨r.now, trigger, le_of_eq hnow, hbuild, Or.inl ?_⟩
          rw [pl.finish_job_self, hadd, ← hrow row hrow']
          rfl
      · rw [hdisabled row hfind] at henabled
        cases henabled
    · rw [Plan.finish_find_of_ne hrow hid] at hfind
      obtain ⟨built, trigger, hbuilt, hbuild, hjob⟩ := h.present id row hfind henabled hsupported
      refine ⟨built, trigger, hbuilt, hbuild, ?_⟩
      rw [pl.finish_job_of_ne hid]
      exact hjob
  · by_cases hid : id = pl.id
    · subst hid
      rcases plan_cases hplan with ⟨row, hrow', henabled, -⟩ | ⟨-, heffect⟩
      · exact ⟨row, hself.trans hrow', henabled⟩
      · -- The job was removed, or there was none to keep.
        rw [pl.finish_job_self] at hjob
        rcases heffect with hremove | ⟨hkeep, hfree⟩
        · rw [hremove] at hjob
          exact absurd rfl hjob
        · rw [hkeep] at hjob
          exact absurd (h.freeOfJobs pl.id hfree) hjob
    · rw [pl.finish_job_of_ne hid] at hjob
      obtain ⟨row, hfind, henabled⟩ := h.absent id hjob
      exact ⟨row, (Plan.finish_find_of_ne hrow hid).trans hfind, henabled⟩

theorem registered_request {p q : Process T} {body : RequestBody} {fails : DbCall → Option PyError}
    (h : Registered aps p) (hok : Undisturbed aps p (.request body fails))
    (hstep : step aps p (.request body fails) = some q) : Registered aps q := by
  simp only [step] at hstep
  split at hstep
  · cases hstep
    rcases handle_cases aps { body, now := p.now, fails } p.stores with ⟨-, e, he⟩ | ⟨pl, hplan, hstate, -, -⟩
    · rw [he]
      exact h
    · rw [hstate]
      by_cases hlate : pl.late = none
      · exact registered_finish h hplan rfl hlate
      · have hafter := (noLateFailure_iff h.freeOfJobs).mp hok pl hplan hlate
        rw [Plan.finish_of_late hlate, (pl.effect.apply_eq_self_iff pl.id p.stores).mpr hafter]
        exact h
  · cases hstep

/-- While a process runs, every enabled row is registered; otherwise there are no jobs. -/
def Consistent (aps : Apscheduler T) (p : Process T) : Prop :=
  if p.running then Registered aps p else p.stores.job = fun _ => none

theorem consistent_step {p q : Process T} {e : ProcessEvent} (h : Consistent aps p) (hok : Undisturbed aps p e)
    (hstep : step aps p e = some q) : Consistent aps q := by
  have hstep' := hstep
  unfold Consistent at h ⊢
  cases e with
  | start =>
    obtain ⟨hrunning, hkeeps⟩ := start_keeps hstep
    rw [hrunning, if_neg Bool.false_ne_true] at h
    split
    · exact registered_start h hok hkeeps
    · rw [hkeeps.job, h]
  | stop =>
    simp only [step] at hstep
    split at hstep
    · cases hstep
      rw [if_neg (by simp [stopScheduler])]
      rfl
    · cases hstep
  | request body fails =>
    simp only [step] at hstep
    split at hstep
    next hrunning =>
      cases hstep
      rw [if_pos hrunning] at h
      rw [if_pos hrunning]
      exact registered_request h hok hstep'
    · cases hstep
  | elapse now ended =>
    by_cases hrunning : p.running = true
    · rw [if_pos hrunning] at h
      have hregistered := registered_elapse h hstep
      simp only [step] at hstep
      split at hstep
      · cases hstep
        rw [if_pos hrunning]
        exact hregistered
      · cases hstep
    · rw [if_neg hrunning] at h
      simp only [step] at hstep
      split at hstep
      · cases hstep
        rw [if_neg hrunning]
        funext id
        rw [removeJobs_job, h, ite_self]
      · cases hstep

/-- In every run without disturbance, whatever the rows it begins with, every state of a running process has a
    job for each row that needs one, and none for a disabled or deleted row. -/
theorem schedules_survive (aps : Apscheduler T) (rows : ScheduleTable) (now : DateTime) (es : List ProcessEvent)
    (h : Meets (step aps) (Undisturbed aps) (down rows now) es) {q : Process T}
    (hvisit : Visits (step aps) (down rows now) es q) (hrunning : q.running = true) : JobsAgree aps q := by
  have hdown : Consistent aps (down rows now) := by
    unfold Consistent
    rw [if_neg (by simp [down])]
    rfl
  have hq : Consistent aps q := invariant_of_visits (I := Consistent aps) consistent_step hdown h hvisit
  rw [Consistent, if_pos hrunning] at hq
  exact hq.jobsAgree

/-! ### A run -/

/-- The request that creates the schedule for the night. -/
def nightCreate : RequestBody :=
  .create 1 {
    name := "Nachts aus"
    triggerType := "cron"
    triggerConfig := [("hour", .int 22), ("minute", .int 0)]
    actionConfig := [("ain", .str "08761 0374811"), ("action", .str "off")] } none

/-- The process is restarted after the request. -/
def restart : List ProcessEvent := [.start, .request nightCreate fun _ => none, .stop, .start]

/-- After the restart, the schedule has no job. -/
theorem restart_loses_schedule :
    ∃ q, Visits (step clockTriggers) (down .empty 0) restart q ∧ q.running = true ∧ ¬ JobsAgree clockTriggers q := by
  refine ⟨_, ⟨restart, List.prefix_rfl, rfl⟩, rfl, fun h => ?_⟩
  refine h.present 1 nightSchedule rfl ⟨rfl, Or.inl rfl, ?_⟩ rfl
  intro built trigger _ _ hnext
  cases hnext

theorem schedules_survive_without_restart :
    ∃ q, Visits (step clockTriggers) (down .empty 0) [.start, .request nightCreate fun _ => none] q ∧
      q.running = true ∧ JobsAgree clockTriggers q := by
  have hmeets : Meets (step clockTriggers) (Undisturbed clockTriggers) (down .empty 0)
      [.start, .request nightCreate fun _ => none] := by
    refine ⟨?_, fun p _ => ⟨?_, fun _ _ => trivial⟩⟩
    · rintro id row ⟨⟩
    · intro _ _ _ hcommit
      exact absurd rfl hcommit
  have hvisit : Visits (step clockTriggers) (down .empty 0) [.start, .request nightCreate fun _ => none] _ :=
    ⟨_, List.prefix_rfl, rfl⟩
  exact ⟨_, hvisit, rfl, schedules_survive clockTriggers .empty 0 _ hmeets hvisit rfl⟩

end SmartHome
