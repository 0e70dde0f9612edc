import SmartHome.Lib.Run
import SmartHome.Scheduler.Requests

/-! # Failing schedule requests

The rows change at the commit, the job table in the middle of the request. A request that fails in between
leaves the job table changed and the rows as they were. -/

namespace SmartHome
open Run

variable {T : Type} {aps : Apscheduler T} {r : Request} {s : Stores T}

/-- The trigger types of the documented format. -/
def Supported (triggerType : String) : Prop := triggerType = "cron" ∨ triggerType = "interval" ∨ triggerType = "date"

/-- A job is there exactly for an enabled row, with a trigger built from the row and with the row's action. -/
def AgreeAt (aps : Apscheduler T) (row : Option Schedule) (job : Option (Job T)) : Prop :=
  match row with
  | none => job = none
  | some row =>
    if row.isEnabled then
      ∃ built trigger, buildTrigger aps built row.triggerType row.triggerConfig = .ok (some trigger) ∧
        job = some { trigger, task := .jobFunc row.id row.actionConfig }
    else job = none

/-- Each schedule and its job agree. -/
def Agree (aps : Apscheduler T) (s : Stores T) : Prop := ∀ id, AgreeAt aps (s.rows.find id) (s.job id)

/-- Afterwards the stores agree, and they are as before if the request raised. -/
def KeepsStores (aps : Apscheduler T) (s : Stores T) (r : Request) : Prop :=
  Agree aps (r.handle aps s).2 ∧ (r.Raises aps s → (r.handle aps s).2 = s)

/-- The stores after a request. -/
def serve (aps : Apscheduler T) (s : Stores T) (r : Request) : Option (Stores T) := some (r.handle aps s).2

/-- The request does not fail after it has changed the job table. -/
def NoLateFailure (aps : Apscheduler T) (s : Stores T) (r : Request) : Prop :=
  match r.body with
  | .create id data _ =>
    data.isEnabled = true → s.rows.find id = none → r.passes [.flush, .refresh] = true → r.fails .commit ≠ none →
      ∀ trigger, buildTrigger aps r.now data.triggerType data.triggerConfig ≠ .ok (some trigger)
  | .update id data =>
    ∀ row, s.rows.find id = some row → r.passes [.select, .flush, .refresh] = true → r.fails .commit ≠ none →
      if (data.updated row).isEnabled then
        ∀ trigger, buildTrigger aps r.now row.triggerType (data.updated row).triggerConfig = .ok (some trigger) →
          s.job id = some { trigger, task := .jobFunc id (data.updated row).actionConfig }
      else s.job id = none
  | .delete id =>
    ∀ row, s.rows.find id = some row → r.passes [.select] = true → s.job id ≠ none →
      r.passes [.flush, .commit] = true

/-- The request does not commit an enabled row whose trigger type `_build_trigger` does not know. -/
def KnownTrigger (s : Stores T) (r : Request) : Prop :=
  match r.body with
  | .create id data _ =>
    data.isEnabled = true → s.rows.find id = none → r.passes [.flush, .refresh, .commit] = true →
      Supported data.triggerType
  | .update id data =>
    ∀ row, s.rows.find id = some row → r.passes [.select, .flush, .refresh, .commit] = true →
      (data.updated row).isEnabled = true → Supported row.triggerType
  | .delete _ => True

/-! ### Triggers -/

theorem buildTrigger_of_not_supported {now : DateTime} {triggerType : String} {config : PyDict}
    (h : ¬ Supported triggerType) : buildTrigger aps now triggerType config = .ok none := by
  simp only [Supported, not_or] at h
  obtain ⟨hcron, hinterval, hdate⟩ := h
  simp [buildTrigger, hcron, hinterval, hdate]

theorem buildTrigger_ne_none_of_supported {now : DateTime} {triggerType : String} {config : PyDict}
    (h : Supported triggerType) : buildTrigger aps now triggerType config ≠ .ok none := by
  have hmap : ∀ e : Except PyError T, e.map some ≠ .ok none := by
    intro e
    cases e <;> simp [Except.map]
  rcases h with rfl | rfl | rfl <;> exact hmap _

theorem not_agreeAt_of_not_supported {row : Schedule} {job : Option (Job T)} (henabled : row.isEnabled = true)
    (h : ¬ Supported row.triggerType) : ¬ AgreeAt aps (some row) job := by
  simp only [AgreeAt, henabled, if_true]
  rintro ⟨built, trigger, hbuild, -⟩
  rw [buildTrigger_of_not_supported h] at hbuild
  cases hbuild

theorem agreeAt_registered (row : Schedule) (now : DateTime) {trigger : T} (henabled : row.isEnabled = true)
    (h : buildTrigger aps now row.triggerType row.triggerConfig = .ok (some trigger)) :
    AgreeAt aps (some row) (some { trigger, task := .jobFunc row.id row.actionConfig }) := by
  simp only [AgreeAt, henabled, if_true]
  exact ⟨now, trigger, h, rfl⟩

theorem agreeAt_disabled {row : Schedule} {job : Option (Job T)} (h : row.isEnabled = false) :
    AgreeAt aps (some row) job ↔ job = none := by
  simp [AgreeAt, h]

/-! ### One request -/

namespace Request

/-- Under the plan the stores agree afterwards, or are as before if it fails late. -/
def Plan.Keeps (aps : Apscheduler T) (s : Stores T) (p : Plan T) : Prop :=
  match p.late with
  | some _ => p.effect.after (s.job p.id) = s.job p.id
  | none => AgreeAt aps p.row (p.effect.after (s.job p.id))

theorem keepsStores_iff_plan (h : Agree aps s) :
    KeepsStores aps s r ↔ ∀ p, r.plan aps s = some p → p.Keeps aps s := by
  rcases handle_cases aps r s with ⟨hplan, e, he⟩ | ⟨p, hplan, hstate, hraises, hrow⟩
  · simp only [KeepsStores, hplan, he, h, true_and, reduceCtorEq, false_implies, implies_true]
  · simp only [KeepsStores, hplan, hstate, hraises, Option.some.injEq, forall_eq', Plan.Keeps]
    by_cases hlate : p.late = none
    · rw [hlate]
      simp only [ne_eq, not_true_eq_false, false_implies, and_true]
      constructor
      · intro hagree
        have hid := hagree p.id
        rwa [Plan.finish_find_self hrow hlate, p.finish_job_self] at hid
      · intro hid other
        by_cases hother : other = p.id
        · rw [hother, Plan.finish_find_self hrow hlate, p.finish_job_self]
          exact hid
        · rw [Plan.finish_find_of_ne hrow hother, p.finish_job_of_ne hother]
          exact h other
    · have hself : p.finish s = s ↔ p.effect.after (s.job p.id) = s.job p.id := by
        rw [Plan.finish_of_late hlate]
        exact p.effect.apply_eq_self_iff p.id s
      obtain ⟨e, he⟩ := Option.ne_none_iff_exists'.mp hlate
      rw [he]
      simp only [ne_eq, reduceCtorEq, not_false_eq_true, true_implies, hself]
      constructor
      · exact fun hboth => hboth.2
      · intro hafter
        exact ⟨by rw [hself.mpr hafter]; exact h, hafter⟩

end Request

open Request

/-- What is no schedule has no job. -/
def FreeOfJobs (s : Stores T) : Prop := ∀ id, s.rows.find id = none → s.job id = none

theorem Agree.freeOfJobs (h : Agree aps s) : FreeOfJobs s := by
  intro id hfind
  have hid := h id
  rwa [hfind] at hid

/-- An enabled row whose trigger type is not known gets no job. -/
theorem registerEffect_of_not_supported {now : DateTime} {row : Schedule} (h : ¬ Supported row.triggerType) :
    registerEffect aps now row = .ok .keep :=
  registerEffect_eq_ok.mpr (Or.inl ⟨buildTrigger_of_not_supported h, rfl⟩)

theorem registerEffect_of_trigger {now : DateTime} {row : Schedule} {trigger : T}
    (h : buildTrigger aps now row.triggerType row.triggerConfig = .ok (some trigger)) :
    registerEffect aps now row = .ok (.add { trigger, task := .jobFunc row.id row.actionConfig }) :=
  registerEffect_eq_ok.mpr (Or.inr ⟨trigger, h, rfl⟩)

theorem noLateFailure_iff (hfree : FreeOfJobs s) :
    NoLateFailure aps s r ↔
      ∀ p, r.plan aps s = some p → p.late ≠ none → p.effect.after (s.job p.id) = s.job p.id := by
  unfold NoLateFailure
  cases hbody : r.body with
  | create id data createdBy =>
    simp only [plan_create_iff hbody]
    constructor
    · rintro h p ⟨hpass, hfind, f, hf, rfl⟩ hlate
      rcases henabled : (data.row id createdBy).isEnabled with _ | _
      · rw [createEffect_of_disabled henabled] at hf
        cases hf
        rfl
      · rw [createEffect_of_enabled henabled] at hf
        rcases registerEffect_eq_ok.mp hf with ⟨-, rfl⟩ | ⟨trigger, hbuild, -⟩
        · rfl
        · exact absurd hbuild (h henabled hfind hpass hlate trigger)
    · intro h henabled hfind hpass hlate trigger hbuild
      have hf : createEffect aps r.now (data.row id createdBy) =
          .ok (.add { trigger, task := .jobFunc id data.actionConfig }) :=
        (createEffect_of_enabled henabled).trans (registerEffect_of_trigger hbuild)
      have hafter := h _ ⟨hpass, hfind, _, hf, rfl⟩ hlate
      simp only [JobEffect.after, hfree id hfind] at hafter
      cases hafter
  | update id data =>
    simp only [plan_update_iff hbody]
    constructor
    · rintro h p ⟨hpass, row, hfind, f, hf, rfl⟩ hlate
      have h := h row hfind hpass hlate
      have hkey : (data.updated row).id = id := by rw [ScheduleUpdate.updated_id, s.rows.keyed hfind]
      rcases henabled : (data.updated row).isEnabled with _ | _
      · rw [syncEffect_of_disabled henabled] at hf
        rw [henabled] at h
        cases hf
        exact Eq.symm h
      · rw [syncEffect_of_enabled henabled] at hf
        rw [henabled] at h
        rcases registerEffect_eq_ok.mp hf with ⟨-, rfl⟩ | ⟨trigger, hbuild, rfl⟩
        · rfl
        · rw [hkey]
          exact Eq.symm (h trigger hbuild)
    · intro h row hfind hpass hlate
      have hkey : (data.updated row).id = id := by rw [ScheduleUpdate.updated_id, s.rows.keyed hfind]
      split
      next henabled =>
        intro trigger hbuild
        have hf : syncEffect aps r.now (data.updated row) =
            .ok (.add { trigger, task := .jobFunc (data.updated row).id (data.updated row).actionConfig }) :=
          (syncEffect_of_enabled henabled).trans (registerEffect_of_trigger hbuild)
        rw [hkey] at hf
        exact (h _ ⟨hpass, row, hfind, _, hf, rfl⟩ hlate).symm
      next henabled =>
        have hf : syncEffect aps r.now (data.updated row) = .ok .remove :=
          syncEffect_of_disabled (Bool.eq_false_iff.mpr henabled)
        exact (h _ ⟨hpass, row, hfind, _, hf, rfl⟩ hlate).symm
  | delete id =>
    have hlate : (r.fails .flush).orElse (fun _ => r.fails .commit) = none ↔ r.passes [.flush, .commit] = true := by
      rcases hflush : r.fails .flush with _ | e <;> simp [passes_cons, hflush]
    simp only [plan_delete_iff hbody]
    constructor
    · rintro h p ⟨hpass, row, hfind, rfl⟩ hfails
      by_contra hjob
      exact hfails (hlate.mpr (h row hfind hpass fun hnone => hjob hnone.symm))
    · intro h row hfind hpass hjob
      by_contra hfails
      exact hjob (h _ ⟨hpass, row, hfind, rfl⟩ fun hnone => hfails (hlate.mp hnone)).symm

theorem knownTrigger_iff (aps : Apscheduler T) :
    KnownTrigger s r ↔ ∀ p, r.plan aps s = some p → p.late = none → ∀ row, p.row = some row → row.isEnabled = true →
      Supported row.triggerType := by
  unfold KnownTrigger
  cases hbody : r.body with
  | create id data createdBy =>
    simp only [plan_create_iff hbody]
    constructor
    · rintro h p ⟨hpass, hfind, f, -, rfl⟩ hcommit row ⟨⟩ henabled
      have hcommit : r.fails .commit = none := hcommit
      exact h henabled hfind (passes_concat.mpr ⟨hpass, hcommit⟩)
    · intro h henabled hfind hpass
      obtain ⟨hpass, hcommit⟩ : r.passes [.flush, .refresh] = true ∧ r.fails .commit = none := passes_concat.mp hpass
      by_contra hnot
      have hf : createEffect aps r.now (data.row id createdBy) = .ok .keep :=
        (createEffect_of_enabled henabled).trans (registerEffect_of_not_supported hnot)
      exact hnot (h _ ⟨hpass, hfind, _, hf, rfl⟩ hcommit _ rfl henabled)
  | update id data =>
    simp only [plan_update_iff hbody]
    constructor
    · rintro h p ⟨hpass, loaded, hfind, f, -, rfl⟩ hcommit row ⟨⟩ henabled
      have hcommit : r.fails .commit = none := hcommit
      exact h loaded hfind (passes_concat.mpr ⟨hpass, hcommit⟩) henabled
    · intro h row hfind hpass henabled
      obtain ⟨hpass, hcommit⟩ : r.passes [.select, .flush, .refresh] = true ∧ r.fails .commit = none :=
        passes_concat.mp hpass
      by_contra hnot
      have hf : syncEffect aps r.now (data.updated row) = .ok .keep :=
        (syncEffect_of_enabled henabled).trans (registerEffect_of_not_supported hnot)
      exact hnot (h _ ⟨hpass, row, hfind, _, hf, rfl⟩ hcommit (data.updated row) rfl henabled)
  | delete id =>
    simp only [plan_delete_iff hbody, true_iff]
    rintro p ⟨-, row, -, rfl⟩ - other ⟨⟩

/-- Where the stores agree, a request keeps them in agreement exactly if its failures come early and its trigger
    type is known. -/
theorem keepsStores_iff (h : Agree aps s) : KeepsStores aps s r ↔ NoLateFailure aps s r ∧ KnownTrigger s r := by
  rw [keepsStores_iff_plan h, noLateFailure_iff h.freeOfJobs, knownTrigger_iff aps]
  constructor
  · intro hkeeps
    refine ⟨fun p hp hlate => ?_, fun p hp hlate row hrow henabled => ?_⟩
    · have hp := hkeeps p hp
      obtain ⟨e, he⟩ := Option.ne_none_iff_exists'.mp hlate
      rwa [Plan.Keeps, he] at hp
    · have hp := hkeeps p hp
      rw [Plan.Keeps, hlate, hrow] at hp
      by_contra hnot
      exact not_agreeAt_of_not_supported henabled hnot hp
  · rintro ⟨hlate, hknown⟩ p hp
    unfold Plan.Keeps
    rcases hfails : p.late with _ | e
    · simp only
      rcases plan_cases hp with ⟨row, hrow, henabled, hf⟩ | ⟨hdisabled, heffect⟩
      · rw [hrow]
        rcases registerEffect_eq_ok.mp hf with ⟨hbuild, -⟩ | ⟨trigger, hbuild, hadd⟩
        · exact absurd hbuild (buildTrigger_ne_none_of_supported (hknown p hp hfails row hrow henabled))
        · rw [hadd]
          exact agreeAt_registered _ _ henabled hbuild
      · have hnone : p.effect.after (s.job p.id) = none := by
          rcases heffect with hremove | ⟨hkeep, hfind⟩
          · rw [hremove]
            rfl
          · rw [hkeep]
            exact h.freeOfJobs p.id hfind
        rw [hnone]
        rcases hrow : p.row with _ | row
        · rfl
        · exact (agreeAt_disabled (hdisabled row hrow)).mpr rfl
    · exact hlate p hp (by rw [hfails]; simp)

/-- In a run of requests from stores that agree, every request keeps the stores in agreement, and changes
    nothing when it raises, exactly if none fails after it has changed the job table and none commits an enabled
    row with an unknown trigger type. -/
theorem requests_keep_stores_iff (aps : Apscheduler T) (s : Stores T) (rs : List Request) (h : Agree aps s) :
    Meets (serve aps) (KeepsStores aps) s rs ↔
      Meets (serve aps) (fun s r => NoLateFailure aps s r ∧ KnownTrigger s r) s rs := by
  refine meets_iff (I := Agree aps) ?_ (fun hs => keepsStores_iff hs) h
  intro s r t _ hkeeps hstep
  cases hstep
  exact hkeeps.1

/-! ### A run -/

/-- The example of the model's documentation: off at ten in the evening. -/
def nightSchedule : Schedule where
  id := 1
  name := "Nachts aus"
  triggerType := "cron"
  triggerConfig := [("hour", .int 22), ("minute", .int 0)]
  actionConfig := [("ain", .str "08761 0374811"), ("action", .str "off")]

/-- The schedule for the night, with its job. -/
def nightStores : Stores ClockTrigger :=
  (Stores.empty.putRow nightSchedule).addJob (.schedule 1)
    { trigger := .daily 22 0, task := .jobFunc 1 nightSchedule.actionConfig }

theorem nightStores_agree : Agree clockTriggers nightStores := by
  intro id
  by_cases hid : id = 1
  · subst hid
    exact agreeAt_registered nightSchedule 0 rfl rfl
  · have hrow : nightStores.rows.find id = none := ScheduleTable.find_put_of_ne _ hid
    have hjob : nightStores.job id = none := Stores.addJob_job_of_ne _ _ hid
    rw [hrow, hjob]
    rfl

/-- A delete whose commit fails. -/
def lateDelete : Request where
  body := .delete 1
  now := 0
  fails c := if c = .commit then some .external else none

/-- The schedule is still there and enabled, and its job is gone. -/
theorem late_delete_removes_job :
    Agree clockTriggers nightStores ∧
      ¬ Meets (serve clockTriggers) (KeepsStores clockTriggers) nightStores [lateDelete] := by
  refine ⟨nightStores_agree, fun h => ?_⟩
  have hlate : NoLateFailure clockTriggers nightStores lateDelete := ((keepsStores_iff nightStores_agree).mp h.1).1
  have hcommit : lateDelete.passes [.flush, .commit] = true :=
    hlate nightSchedule rfl rfl (by rintro ⟨⟩)
  exact absurd hcommit (by decide)

theorem late_delete_keeps_stores_iff :
    Meets (serve clockTriggers) (KeepsStores clockTriggers) nightStores [lateDelete] ↔
      Meets (serve clockTriggers) (fun s r => NoLateFailure clockTriggers s r ∧ KnownTrigger s r) nightStores
        [lateDelete] :=
  requests_keep_stores_iff clockTriggers nightStores [lateDelete] nightStores_agree

end SmartHome
