import SmartHome.House.Recording

/-! # Every command has an author

A device is not commanded out of nothing. What a job or a pass over the rules sends to it stands in a schedule or in a
rule, and there it has been put by the request of a user who could have sent the command himself. -/

namespace SmartHome
open Orm Run

/-! ## Orders in the tables -/

/-- The order stands in a schedule, or it is what a job does. -/
def Stores.Holds {T : Type} (s : Stores T) (order : Order) : Prop :=
  (∃ id row, s.rows.find id = some row ∧ StandsFor row.actionConfig order) ∨
    ∃ id job scheduleId actionConfig, s.jobs id = some job ∧ job.task = .jobFunc scheduleId actionConfig ∧
      StandsFor actionConfig order

/-- The order is given by a schedule, by a job or by a rule. -/
def House.Holds {σ T : Type} (h : House σ T) (order : Order) : Prop :=
  h.schedules.Holds order ∨ ∃ rule ∈ h.rules, StandsFor rule.actionConfig order

/-- Whoever sends the body asks for the order. -/
def RequestBody.Asks (order : Order) : RequestBody → Prop
  | create _ data _ => StandsFor data.actionConfig order
  | update _ data => ∃ actionConfig, data.actionConfig = some actionConfig ∧ StandsFor actionConfig order
  | delete _ => False

/-- Whoever sends the request asks for the order. -/
def RuleRequest.Asks (order : Order) : RuleRequest → Prop
  | create _ data => StandsFor data.actionConfig order
  | update _ data => ∃ actionConfig, data.actionConfig = some actionConfig ∧ StandsFor actionConfig order
  | delete _ => False

/-- The request asks for the order, at once or in a schedule or a rule. -/
def Operation.Asks {σ : Type} (order : Order) : Operation σ → Prop
  | schedule _ body _ => body.Asks order
  | rule _ request => request.Asks order
  | op => ∃ token ain command payload, op.command = some (token, ain, command, payload) ∧ order = (.str ain, command)

theorem Operation.Asks.guard {σ : Type} {order : Order} {op : Operation σ} (h : op.Asks order) :
    ∃ token, op.guard = some (token, .user) := by
  cases op with
  | turnOn token | turnOff token | setTemperature token | setBrightness token | schedule token | rule token =>
    exact ⟨token, rfl⟩
  | discover | updateDevice | group | user | job | evaluateAllRules | writeEvent | elapse =>
    obtain ⟨token, ain, command, payload, hcommand, -⟩ := h
    cases hcommand

/-- The step is a request for the order, by a user who may command devices. -/
structure Setup.Authors {σ R T : Type} (a : Setup σ R T) (order : Order) (s : Cached (House σ T) R) (e : AuditStep σ) :
    Prop where
  asks : e.op.Asks order
  may : ∃ token, e.op.guard = some (token, .user) ∧ MayAct a.jwt s.world.users.rows .user token

/-! ## Schedules -/

namespace Stores
variable {T : Type} {s : Stores T} {order : Order}

theorem Holds.of_putRow {row : Schedule} (h : (s.putRow row).Holds order) :
    s.Holds order ∨ StandsFor row.actionConfig order := by
  rcases h with ⟨id, other, hfind, hstands⟩ | hjob
  · by_cases hid : id = row.id
    · rw [hid, putRow_rows, ScheduleTable.find_put_self] at hfind
      cases hfind
      exact Or.inr hstands
    · rw [putRow_rows, ScheduleTable.find_put_of_ne _ hid] at hfind
      exact Or.inl (Or.inl ⟨id, other, hfind, hstands⟩)
  · exact Or.inl (Or.inr hjob)

theorem Holds.of_eraseRow {id : Uuid} (h : (s.eraseRow id).Holds order) : s.Holds order := by
  rcases h with ⟨key, row, hfind, hstands⟩ | hjob
  · by_cases hid : key = id
    · rw [hid, eraseRow_rows, ScheduleTable.find_erase_self] at hfind
      cases hfind
    · rw [eraseRow_rows, ScheduleTable.find_erase_of_ne _ hid] at hfind
      exact Or.inl ⟨key, row, hfind, hstands⟩
  · exact Or.inr hjob

theorem addJob_jobs (id : JobId) (job : Job T) : (s.addJob id job).jobs = Function.update s.jobs id (some job) := rfl

theorem removeJob_jobs (id : JobId) : (s.removeJob id).jobs = Function.update s.jobs id none := rfl

theorem Holds.of_addJob {id : JobId} {job : Job T} (h : (s.addJob id job).Holds order) :
    s.Holds order ∨ ∃ scheduleId actionConfig, job.task = .jobFunc scheduleId actionConfig ∧
      StandsFor actionConfig order := by
  rcases h with hrow | ⟨key, found, scheduleId, actionConfig, hfind, htask, hstands⟩
  · exact Or.inl (Or.inl hrow)
  · by_cases hid : key = id
    · rw [addJob_jobs, hid, Function.update_self] at hfind
      cases hfind
      exact Or.inr ⟨scheduleId, actionConfig, htask, hstands⟩
    · rw [addJob_jobs, Function.update_of_ne hid] at hfind
      exact Or.inl (Or.inr ⟨key, found, scheduleId, actionConfig, hfind, htask, hstands⟩)

theorem Holds.of_removeJob {id : JobId} (h : (s.removeJob id).Holds order) : s.Holds order := by
  rcases h with hrow | ⟨key, found, scheduleId, actionConfig, hfind, htask, hstands⟩
  · exact Or.inl hrow
  · by_cases hid : key = id
    · rw [removeJob_jobs, hid, Function.update_self] at hfind
      cases hfind
    · rw [removeJob_jobs, Function.update_of_ne hid] at hfind
      exact Or.inr ⟨key, found, scheduleId, actionConfig, hfind, htask, hstands⟩

end Stores

/-- An update leaves the action of the schedule, or writes the one that it brings. -/
theorem ScheduleUpdate.updated_actionConfig (data : ScheduleUpdate) (row : Schedule) :
    (data.updated row).actionConfig = row.actionConfig ∨ data.actionConfig = some (data.updated row).actionConfig := by
  have hupdated : (data.updated row).actionConfig =
      (data.actionConfig.filter fun config => !config.same row.actionConfig).getD row.actionConfig := rfl
  rw [hupdated]
  cases hconfig : data.actionConfig with
  | none => exact Or.inl rfl
  | some actionConfig =>
    cases hsame : actionConfig.same row.actionConfig with
    | false => exact Or.inr (by simp [Option.filter, hsame])
    | true => exact Or.inl (by simp [Option.filter, hsame])

namespace Request
variable {T : Type} {aps : Apscheduler T} {r : Request} {s : Stores T} {order : Order}

/-- The row of a plan is what the request asks for, or what stood in the table. -/
theorem asks_of_plan {p : Plan T} (hplan : r.plan aps s = some p) {row : Schedule} (hrow : p.row = some row)
    (hstands : StandsFor row.actionConfig order) : s.Holds order ∨ r.body.Asks order := by
  cases hbody : r.body with
  | create id data createdBy =>
    obtain ⟨-, -, f, -, rfl⟩ := (plan_create_iff hbody).mp hplan
    cases hrow
    exact Or.inr hstands
  | update id data =>
    obtain ⟨-, loaded, hfind, f, -, rfl⟩ := (plan_update_iff hbody).mp hplan
    cases hrow
    rcases data.updated_actionConfig loaded with hsame | hgiven
    · rw [hsame] at hstands
      exact Or.inl (Or.inl ⟨id, loaded, hfind, hstands⟩)
    · exact Or.inr ⟨_, hgiven, hstands⟩
  | delete id =>
    obtain ⟨-, loaded, -, rfl⟩ := (plan_delete_iff hbody).mp hplan
    cases hrow

/-- The job that a plan registers does what the row of the plan says. -/
theorem effect_holds {p : Plan T} (hplan : r.plan aps s = some p) (h : (p.effect.apply p.id s).Holds order) :
    s.Holds order ∨ ∃ row, p.row = some row ∧ StandsFor row.actionConfig order := by
  rcases plan_cases hplan with ⟨row, hrow, -, hregister⟩ | ⟨-, hremove | ⟨hkeep, -⟩⟩
  · rcases registerEffect_eq_ok.mp hregister with ⟨-, hkeep⟩ | ⟨trigger, -, hadd⟩
    · rw [hkeep] at h
      exact Or.inl h
    · rw [hadd] at h
      rcases h.of_addJob with hbefore | ⟨scheduleId, actionConfig, htask, hstands⟩
      · exact Or.inl hbefore
      · cases htask
        exact Or.inr ⟨row, hrow, hstands⟩
  · rw [hremove] at h
    exact Or.inl h.of_removeJob
  · rw [hkeep] at h
    exact Or.inl h

theorem finish_holds {p : Plan T} (hplan : r.plan aps s = some p) (h : (p.finish s).Holds order) :
    s.Holds order ∨ ∃ row, p.row = some row ∧ StandsFor row.actionConfig order := by
  unfold Plan.finish at h
  split at h
  · exact effect_holds hplan h
  · next row _ hrow =>
    rcases h.of_putRow with heffect | hstands
    · exact effect_holds hplan heffect
    · exact Or.inr ⟨row, hrow, hstands⟩
  · exact effect_holds hplan h.of_eraseRow

/-- Whatever a request leaves in the tables and in the job table was there, or it asks for it. -/
theorem handle_holds (h : (r.handle aps s).2.Holds order) : s.Holds order ∨ r.body.Asks order := by
  rcases handle_cases aps r s with ⟨-, e, hrun⟩ | ⟨p, hplan, hstate, -, -⟩
  · rw [hrun] at h
    exact Or.inl h
  · rw [hstate] at h
    rcases finish_holds hplan h with hbefore | ⟨row, hrow, hstands⟩
    · exact Or.inl hbefore
    · exact asks_of_plan hplan hrow hstands

end Request

theorem RequestBody.asks_sentBy {user : Uuid} {body : RequestBody} {order : Order} (h : (body.sentBy user).Asks order) :
    body.Asks order := by
  cases body <;> exact h

/-- The time stamp of a schedule is not its action. -/
theorem Stores.Holds.of_stampSchedule {T : Type} {fails : DbCall → Option PyError} {now : DateTime} {scheduleId : Uuid}
    {s : Stores T} {order : Order} (h : (House.stampSchedule fails now scheduleId s).2.Holds order) : s.Holds order := by
  obtain ⟨hjobs, hrows⟩ := House.stampSchedule_rows fails now scheduleId s
  rcases h with ⟨id, row, hfind, hstands⟩ | ⟨id, job, scheduleId, actionConfig, hfind, htask, hstands⟩
  · have hrow := hrows id
    rw [hfind] at hrow
    obtain ⟨before, hbefore, hsame⟩ := Option.map_eq_some_iff.mp hrow.symm
    have haction := congrArg Schedule.actionConfig hsame
    change before.actionConfig = row.actionConfig at haction
    exact Or.inl ⟨id, before, hbefore, haction.symm ▸ hstands⟩
  · rw [hjobs] at hfind
    exact Or.inr ⟨id, job, scheduleId, actionConfig, hfind, htask, hstands⟩

/-! ## Rules -/

theorem AutomationRuleUpdate.apply_actionConfig (data : AutomationRuleUpdate) (rule : RuleRecord) :
    (data.apply rule).actionConfig = rule.actionConfig ∨ data.actionConfig = some (data.apply rule).actionConfig := by
  have happly : (data.apply rule).actionConfig = data.actionConfig.getD rule.actionConfig := rfl
  rw [happly]
  cases data.actionConfig with
  | none => exact Or.inl rfl
  | some actionConfig => exact Or.inr rfl

theorem RuleRequest.handle_holds {fails : DbCall → Option PyError} {user : Uuid} {r : RuleRequest} {s : List RuleRecord}
    {order : Order} (h : ∃ rule ∈ (r.handle fails user s).2, StandsFor rule.actionConfig order) :
    (∃ rule ∈ s, StandsFor rule.actionConfig order) ∨ r.Asks order := by
  have hcases := @RuleRequest.effect_or_same fails user r s
  obtain ⟨rule, hrule, hstands⟩ := h
  rcases hcases with hsame | heffect
  · rw [hsame] at hrule
    exact Or.inl ⟨rule, hrule, hstands⟩
  cases r with
  | create id data =>
    obtain ⟨created, hrows, haction, -, -⟩ := heffect
    rw [hrows] at hrule
    rcases List.mem_append.mp hrule with hold | hnew
    · exact Or.inl ⟨rule, hold, hstands⟩
    · rw [List.mem_singleton.mp hnew, haction] at hstands
      exact Or.inr hstands
  | update ruleId data =>
    obtain ⟨updated, hrows⟩ := heffect
    rw [hrows] at hrule
    obtain ⟨before, hbefore, rfl⟩ := List.mem_map.mp hrule
    split at hstands
    · rcases data.apply_actionConfig before with hsame | hgiven
      · exact Or.inl ⟨before, hbefore, hsame ▸ hstands⟩
      · exact Or.inr ⟨_, hgiven, hstands⟩
    · exact Or.inl ⟨before, hbefore, hstands⟩
  | delete ruleId =>
    obtain ⟨deleted, hrows⟩ := heffect
    rw [hrows] at hrule
    exact Or.inl ⟨rule, List.mem_of_mem_filter hrule, hstands⟩

/-! ## Steps -/

namespace Setup
variable {σ R T : Type} {a : Setup σ R T} {fails : DbCall → Option PyError} {order : Order}

/-- What the tables hold was there, or it is asked for. -/
def Adds (asks : Order → Prop) (h h' : House σ T) : Prop := ∀ order, h'.Holds order → h.Holds order ∨ asks order

theorem Adds.of_same {asks : Order → Prop} {h h' : House σ T} (hschedules : h'.schedules = h.schedules)
    (hrules : h'.rules = h.rules) : Adds asks h h' := by
  intro order hholds
  rw [House.Holds, hschedules, hrules] at hholds
  exact Or.inl hholds

theorem adds_framed {asks : Order → Prop} : a.Framed (T := T) (Adds asks) where
  refl _ := .of_same rfl rfl
  trans h h' order hholds := (h' order hholds).elim (h order) Or.inr
  world _ _ := .of_same rfl rfl
  changes _ _ := .of_same rfl rfl
  guard _ _ _ := .of_same rfl rfl

theorem adds_stamped {asks : Order → Prop} : Stamped (σ := σ) (T := T) fails (Adds asks) where
  commitTriggered stamps h order hholds := by
    obtain ⟨f, hrows, hstamp⟩ := @House.commitTriggered_rows fails stamps h.rules
    rcases hholds with hschedules | ⟨rule, hrule, hstands⟩
    · exact Or.inl (Or.inl hschedules)
    · dsimp only at hrule
      rw [hrows] at hrule
      obtain ⟨before, hbefore, rfl⟩ := List.mem_map.mp hrule
      obtain ⟨lastTriggered, hsame⟩ := hstamp before
      rw [hsame] at hstands
      exact Or.inl (Or.inr ⟨before, hbefore, hstands⟩)
  stampSchedule now id h order hholds := Or.inl (hholds.imp_left Stores.Holds.of_stampSchedule)

theorem adds_writes (op : Operation σ) : a.Writes (T := T) fails (Adds op.Asks) op := by
  cases op with
  | turnOn | turnOff | setTemperature | setBrightness | writeEvent => exact fun h audit _ => .of_same rfl rfl
  | discover token draws => exact fun devicesInfo h => .of_same rfl rfl
  | updateDevice token deviceId data flushed => exact fun h => .of_same rfl rfl
  | group token request => exact fun user h => .of_same rfl rfl
  | user token request => exact fun h => .of_same rfl rfl
  | schedule token body now =>
    rintro user h order (hschedules | hrules)
    · exact (Request.handle_holds hschedules).imp Or.inl RequestBody.asks_sentBy
    · exact Or.inl (Or.inr hrules)
  | rule token request =>
    rintro user h order (hschedules | hrules)
    · exact Or.inl (Or.inl hschedules)
    · exact (RuleRequest.handle_holds hrules).imp_left Or.inr
  | job | evaluateAllRules => exact adds_stamped
  | elapse => trivial

variable [DeviceReading R]

/-- A step lets only those add an order who may send it. -/
theorem after_holds {s : Cached (House σ T) R} (hdistinct : s.world.users.Distinct Users.mapper) {e : AuditStep σ}
    (hholds : (a.after s e).world.Holds order) : s.world.Holds order ∨ a.Authors order s e := by
  have hadds : Adds e.op.Asks (s.world.failing e.fails) (a.after s e).world :=
    adds_framed.program (adds_writes e.op) { s with world := s.world.failing e.fails }
  rcases hadds order hholds with hbefore | hasks
  · exact Or.inl hbefore
  obtain ⟨token, hguard⟩ := hasks.guard
  by_cases hmay : MayAct a.jwt s.world.users.rows .user token
  · exact Or.inr ⟨hasks, token, hguard, hmay⟩
  · have hfailing : (s.world.failing e.fails).users.Distinct Users.mapper := ⟨hdistinct.committed, hdistinct.seen⟩
    obtain ⟨error, t, hrun, huntouched⟩ : ∃ error t, a.program e.fails e.op { s with world := s.world.failing e.fails } =
        (.error error, { s with world := t }) ∧ (s.world.failing e.fails).Untouched t :=
      program_refused hguard hfailing hmay
    have hafter : (a.after s e).world = t := by rw [after, hrun]
    rw [hafter, House.Holds, huntouched.schedules, huntouched.rules] at hholds
    exact Or.inl hholds

/-! ## Commands -/

/-- What an operation sends stands in the tables, or it is asked for. -/
theorem mem_commands {s : Cached (House σ T) R} {e : AuditStep σ} (hsent : order ∈ a.commands s e) :
    s.world.Holds order ∨ e.op.Asks order := by
  have hsends := commands_sent hsent
  revert hsends
  cases e.op with
  | job scheduleId =>
    rintro ⟨job, id, actionConfig, hjob, htask, hstands⟩
    exact Or.inl (Or.inl (Or.inr ⟨_, job, id, actionConfig, hjob, htask, hstands⟩))
  | evaluateAllRules =>
    rintro ⟨rule, hrule, -, hstands⟩
    exact Or.inl (Or.inr ⟨rule, hrule, hstands⟩)
  | schedule | rule =>
    rintro ⟨token, ain, command, payload, hcommand, -⟩
    cases hcommand
  | turnOn | turnOff | setTemperature | setBrightness | discover | updateDevice | group | user | writeEvent | elapse =>
    exact Or.inr

/-- A request that is refused commands no device. -/
theorem commands_of_refused {s : Cached (House σ T) R} {e : AuditStep σ} {token : String} {role : Role}
    (hguard : e.op.guard = some (token, role)) (hdistinct : s.world.users.Distinct Users.mapper)
    (hrefused : ¬ MayAct a.jwt s.world.users.rows role token) : a.commands s e = [] := by
  have hguard' : (e.op.mapWorld fun world => (world, ([] : List Order))).guard = some (token, role) := by
    rw [← hguard]
    cases e.op <;> rfl
  let start : Cached (House (σ × List Order) T) R := Cached.recording { s with world := s.world.failing e.fails }
  have hstart : start.world.users.Distinct Users.mapper := ⟨hdistinct.committed, hdistinct.seen⟩
  obtain ⟨error, t, hrun, huntouched⟩ : ∃ error t, a.recording.program e.fails
      (e.op.mapWorld fun world => (world, [])) start = (.error error, { start with world := t }) ∧
        start.world.Untouched t := program_refused hguard' hstart hrefused
  rw [commands, recorded, hrun]
  exact congrArg Prod.snd huntouched.world

/-- What a step sends stands in the tables, or a user who may send it asks for it. -/
theorem commands_held {s : Cached (House σ T) R} (hdistinct : s.world.users.Distinct Users.mapper) {e : AuditStep σ}
    (hsent : order ∈ a.commands s e) : s.world.Holds order ∨ a.Authors order s e := by
  rcases mem_commands hsent with hholds | hasks
  · exact Or.inl hholds
  obtain ⟨token, hguard⟩ := hasks.guard
  by_cases hmay : MayAct a.jwt s.world.users.rows .user token
  · exact Or.inr ⟨hasks, token, hguard, hmay⟩
  · rw [commands_of_refused hguard hdistinct hmay] at hsent
    cases hsent

/-! ## Runs -/

/-- What the tables hold after a run stood in them at its beginning, or it has an author. -/
theorem held_have_authors {h : House σ T} (hintact : h.Intact) {cache : TtlCache R} {es : List (AuditStep σ)}
    {t : Cached (House σ T) R} (hrun : run a.step { world := h, cache } es = some t) :
    t.world.Intact ∧
      ∀ order, t.world.Holds order → h.Holds order ∨ Once a.step (a.Authors order) { world := h, cache } es := by
  let I : List (AuditStep σ) → Cached (House σ T) R → Prop := fun es s => s.world.Intact ∧
    ∀ order, s.world.Holds order → h.Holds order ∨ Once a.step (a.Authors order) { world := h, cache } es
  refine history_of_run (I := I) ⟨hintact, fun order => Or.inl⟩ ?_ hrun
  intro es e s u hbefore ⟨hs, hheld⟩ hstep
  cases hstep
  refine ⟨after_intact hs e, fun order hholds => ?_⟩
  rw [once_concat]
  rcases after_holds hs.users hholds with hholds | hauthor
  · exact (hheld order hholds).imp_right Or.inl
  · exact Or.inr (Or.inr ⟨s, hbefore, hauthor⟩)

/-- Each command that a device gets in a run, from a handler, a job or a pass over the rules, stood in a schedule or a
    rule at the beginning, or a user who might command devices at the time has asked for it. -/
theorem commands_have_authors (a : Setup σ R T) {h : House σ T} (hintact : h.Intact) (cache : TtlCache R)
    {es : List (AuditStep σ)} {s : Cached (House σ T) R} (hrun : run a.step { world := h, cache } es = some s)
    (e : AuditStep σ) : ∀ order ∈ a.commands s e,
      h.Holds order ∨ Once a.step (a.Authors order) { world := h, cache } (es ++ [e]) := by
  intro order hsent
  obtain ⟨hs, hheld⟩ := held_have_authors hintact hrun
  rw [once_concat]
  rcases commands_held hs.users hsent with hholds | hauthor
  · exact (hheld order hholds).imp_right Or.inl
  · exact Or.inr (Or.inr ⟨s, hrun, hauthor⟩)

/-! ### An example -/

omit [DeviceReading R]

/-- Anna has the charger switched off every hour. -/
def standby : AuditStep MockProvider where
  op := .schedule "anna's token" (.create 2
    { name := "Standby", triggerType := "interval", triggerConfig := [("minutes", .int 60)],
      actionConfig := [("ain", .str "08761 0374811"), ("action", .str "off")] } none) 0

theorem standby_has_an_author : ∃ s, run home.step { world := household, cache := .empty } [standby] = some s ∧
    home.commands s { op := .job 2 } = [(.str "08761 0374811", .setSwitch false)] ∧
      ∀ order ∈ home.commands s { op := .job 2 }, household.Holds order ∨
        Once home.step (home.Authors order) { world := household, cache := .empty } ([standby] ++ [{ op := .job 2 }]) :=
  ⟨_, rfl, rfl, commands_have_authors home household_intact .empty rfl { op := .job 2 }⟩

end Setup
end SmartHome
