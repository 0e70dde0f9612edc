import SmartHome.Scheduler.Tasks

/-! # A pass over the rules, turn by turn

The loop of `evaluate_all_rules` gives each loaded rule one turn, in their order, from the state that the turn
before has left, whether that turn raised or not. The laws about a pass are stated over its turns. -/

namespace SmartHome

namespace Env
variable {σ R : Type}

/-- The environment with a log of the commands that are sent to the provider. -/
def recording (env : Env σ R) : Env (σ × List (PyValue × Command)) R where
  provider := env.provider.recording
  getCurrent := Provider.unrecorded env.getCurrent
  utcnow s := env.utcnow s.1
  enabledRules := Provider.unrecorded env.enabledRules
  commitTriggered stamps := Provider.unrecorded (env.commitTriggered stamps)
  stampSchedule id := Provider.unrecorded (env.stampSchedule id)

end Env

section
variable {σ R : Type} [DeviceReading R] {env : Env σ R}

/-- The trigger of the rule holds in the state. -/
def Triggers (env : Env σ R) (rule : AutomationRule) (s : σ) : Prop := ∃ t, evaluateRule env rule s = (.ok true, t)

/-- The rules of a pass, each with the state at its turn. -/
def turns (env : Env σ R) : σ → List AutomationRule → List (AutomationRule × σ)
  | _, [] => []
  | s, rule :: rules => (rule, s) :: turns env (fireRule env rule s).2 rules

/-- The new `last_triggered` of a turn, if the rule fires and its action raises no exception. -/
def turnStamp (env : Env σ R) (turn : AutomationRule × σ) : Option (Uuid × DateTime) :=
  (fireRule env turn.1 turn.2).1.toOption.getD none

theorem turns_rules (env : Env σ R) (s : σ) (rules : List AutomationRule) :
    (turns env s rules).map Prod.fst = rules := by
  induction rules generalizing s with
  | nil => rfl
  | cons rule rules ih => rw [turns, List.map_cons, ih]

/-- The loop never raises: it takes all turns and collects their stamps. -/
theorem evaluateRules_run (env : Env σ R) (rules : List AutomationRule) (s : σ) :
    evaluateRules env rules s =
      (.ok ((turns env s rules).filterMap (turnStamp env)),
        rules.foldl (fun s rule => (fireRule env rule s).2) s) := by
  induction rules generalizing s with
  | nil => rfl
  | cons rule rules ih =>
    rw [evaluateRules, Eff.bind_of_ok (Eff.attempt_pure_run _ _ s), Eff.bind_of_ok (ih _), turns, List.filterMap_cons]
    rcases hstamp : turnStamp env (rule, s) with _ | stamp
    · simp only [turnStamp] at hstamp
      simp [hstamp]
    · simp only [turnStamp] at hstamp
      simp [hstamp]

theorem fireRule_of_triggers {rule : AutomationRule} {s t : σ} (h : evaluateRule env rule s = (.ok true, t)) :
    fireRule env rule s = match executeAction rule.actionConfig env.provider t with
      | (.ok _, u) => (.ok (some (rule.id, env.utcnow u)), u)
      | (.error e, u) => (.error e, u) := by
  rw [fireRule, Eff.bind_of_ok h, if_pos rfl, Eff.bind_run]
  rcases executeAction rule.actionConfig env.provider t with ⟨e | _, u⟩ <;> rfl

theorem fireRule_of_not_triggers {rule : AutomationRule} {s : σ} (h : ¬ Triggers env rule s) :
    (fireRule env rule s).2 = (evaluateRule env rule s).2 ∧ turnStamp env (rule, s) = none := by
  unfold turnStamp
  rcases hrun : evaluateRule env rule s with ⟨e | shouldFire, t⟩
  · rw [fireRule, Eff.bind_of_error hrun]
    exact ⟨rfl, rfl⟩
  · rcases shouldFire with _ | _
    · rw [fireRule, Eff.bind_of_ok hrun]
      exact ⟨rfl, rfl⟩
    · exact absurd ⟨t, hrun⟩ h

/-- A rule's evaluation reads its trigger only. -/
theorem evaluateRule_congr {rule rule' : AutomationRule} (htype : rule'.triggerType = rule.triggerType)
    (hconfig : rule'.triggerConfig = rule.triggerConfig) : evaluateRule env rule' = evaluateRule env rule := by
  unfold evaluateRule
  rw [htype, hconfig]

/-! ## A pass in a larger state -/

section
variable {τ : Type} {view : τ → σ} {put : σ → τ → τ} {env' : Env τ R}

theorem zoom_ofExcept {α : Type} (h : Eff.IsPart view put) (e : Except BuiltinError α) :
    Eff.zoom view put (Py.ofExcept e : Py σ α) = Py.ofExcept e := by
  cases e with
  | ok a => exact Eff.zoom_pure h a
  | error e => exact Eff.zoom_raise h _

/-- In a larger state the rules read what they read in its part. -/
structure Env.ReadsIn (view : τ → σ) (put : σ → τ → τ) (env : Env σ R) (env' : Env τ R) : Prop where
  part : Eff.IsPart view put
  getDeviceState : ∀ ain, env'.provider.getDeviceState ain = Eff.zoom view put (env.provider.getDeviceState ain)
  getCurrent : env'.getCurrent = Eff.zoom view put env.getCurrent
  utcnow : ∀ t, env'.utcnow t = env.utcnow (view t)

namespace Env.ReadsIn

omit [DeviceReading R] in
theorem evaluateTime (h : env.ReadsIn view put env') (config : PyDict) :
    evaluateTime env' config = Eff.zoom view put (evaluateTime env config) := by
  have hclock : env'.utcnow = fun t => env.utcnow (view t) := funext h.utcnow
  unfold SmartHome.evaluateTime
  simp only [Eff.zoom_bind h.part, Eff.zoom_gets h.part, zoom_ofExcept h.part, Eff.zoom_pure h.part, hclock]

theorem evaluateDeviceState (h : env.ReadsIn view put env') (config : PyDict) :
    evaluateDeviceState env' config = Eff.zoom view put (evaluateDeviceState env config) := by
  simp only [SmartHome.evaluateDeviceState]
  split
  · rw [Eff.zoom_pure h.part]
  · rw [Eff.zoom_bind h.part, h.getDeviceState]
    refine congrArg _ (funext fun state => ?_)
    rw [Eff.zoom_bind h.part, zoom_ofExcept h.part]
    refine congrArg _ (funext fun value => ?_)
    split
    · rw [Eff.zoom_pure h.part]
    · rw [zoom_ofExcept h.part]

omit [DeviceReading R] in
theorem evaluateWeather (h : env.ReadsIn view put env') (config : PyDict) :
    evaluateWeather env' config = Eff.zoom view put (evaluateWeather env config) := by
  simp only [SmartHome.evaluateWeather]
  split
  · rw [Eff.zoom_pure h.part]
  · rw [Eff.zoom_bind h.part, h.getCurrent]
    refine congrArg _ (funext fun cached => ?_)
    split
    · rw [Eff.zoom_pure h.part]
    · rw [Eff.zoom_bind h.part, zoom_ofExcept h.part]
      refine congrArg _ (funext fun current => ?_)
      split
      · rw [Eff.zoom_pure h.part]
      · simp only [Eff.zoom_bind h.part, zoom_ofExcept h.part]

theorem evaluateRule (h : env.ReadsIn view put env') (rule : AutomationRule) :
    evaluateRule env' rule = Eff.zoom view put (evaluateRule env rule) := by
  unfold SmartHome.evaluateRule
  split
  · exact h.evaluateTime _
  split
  · exact h.evaluateDeviceState _
  split
  · exact h.evaluateWeather _
  · rw [Eff.zoom_pure h.part]

theorem fireRule (h : env.ReadsIn view put env')
    (hsend : ∀ ain command, env'.provider.send ain command = Eff.zoom view put (env.provider.send ain command))
    (rule : AutomationRule) : fireRule env' rule = Eff.zoom view put (fireRule env rule) := by
  have hclock : env'.utcnow = fun t => env.utcnow (view t) := funext h.utcnow
  have haction : executeAction rule.actionConfig env'.provider =
      Eff.zoom view put (executeAction rule.actionConfig env.provider) := by
    rw [executeAction_eq, executeAction_eq]
    split
    · exact hsend _ _
    · rw [Eff.zoom_pure h.part]
    · rw [Eff.zoom_raise h.part]
  unfold SmartHome.fireRule
  rw [Eff.zoom_bind h.part, h.evaluateRule]
  refine congrArg _ (funext fun shouldFire => ?_)
  split
  · simp only [Eff.zoom_bind h.part, haction, Eff.zoom_gets h.part, Eff.zoom_pure h.part, hclock]
  · rw [Eff.zoom_pure h.part]

theorem evaluateRules (h : env.ReadsIn view put env')
    (hsend : ∀ ain command, env'.provider.send ain command = Eff.zoom view put (env.provider.send ain command))
    (rules : List AutomationRule) : evaluateRules env' rules = Eff.zoom view put (evaluateRules env rules) := by
  induction rules with
  | nil => exact (Eff.zoom_pure h.part _).symm
  | cons rule rules ih =>
    simp only [SmartHome.evaluateRules, h.fireRule hsend, ih, Eff.zoom_bind h.part, Eff.zoom_attempt h.part,
      Eff.zoom_pure h.part]

end Env.ReadsIn
end

/-! ## The commands of a turn -/

omit [DeviceReading R] in
theorem recording_send (provider : Provider σ R) (ain : PyValue) (command : Command)
    (s : σ × List (PyValue × Command)) :
    provider.recording.send ain command s =
      ((provider.send ain command s.1).1, (provider.send ain command s.1).2, s.2 ++ [(ain, command)]) := by
  cases command <;> rfl

omit [DeviceReading R] in
/-- Besides the log, the recording environment is the environment. -/
theorem readsIn_recording (env : Env σ R) : env.ReadsIn Prod.fst (fun s t => (s, t.2)) env.recording where
  part := { view_put := fun _ _ => rfl, put_put := fun _ _ _ => rfl, put_view := fun _ => rfl }
  getDeviceState _ := rfl
  getCurrent := rfl
  utcnow _ := rfl

theorem evaluateRule_recording (env : Env σ R) (rule : AutomationRule) (s : σ) (log : List (PyValue × Command)) :
    evaluateRule env.recording rule (s, log) = ((evaluateRule env rule s).1, (evaluateRule env rule s).2, log) := by
  rw [(readsIn_recording env).evaluateRule]
  rfl

/-- The commands that a turn hands to the provider. -/
def turnCommands (env : Env σ R) (rule : AutomationRule) (s : σ) : List (PyValue × Command) :=
  (fireRule env.recording rule (s, [])).2.2

/-- The action stands for a command. -/
def Commands (actionConfig : PyDict) : Prop := ∃ command, decodeAction actionConfig = .ok (some command)

/-- A turn hands over the command that the action stands for, if the trigger holds, and no other. -/
theorem turnCommands_eq_singleton {rule : AutomationRule} {s : σ} {command : Command} (htriggers : Triggers env rule s)
    (hdecode : decodeAction rule.actionConfig = .ok (some command)) :
    turnCommands env rule s = [(rule.actionConfig.get "ain", command)] := by
  obtain ⟨t, ht⟩ := htriggers
  have hrun : evaluateRule env.recording rule (s, []) = (.ok true, t, []) := by
    rw [evaluateRule_recording, ht]
  have hsend := recording_send env.provider (rule.actionConfig.get "ain") command (t, [])
  rw [turnCommands, fireRule_of_triggers hrun, executeAction_eq, hdecode]
  simp only [Env.recording, hsend]
  rcases env.provider.send (rule.actionConfig.get "ain") command t with ⟨e | _, u⟩ <;> rfl

theorem turnCommands_eq_nil {rule : AutomationRule} {s : σ}
    (h : Triggers env rule s → ∀ command, decodeAction rule.actionConfig ≠ .ok (some command)) :
    turnCommands env rule s = [] := by
  have hrun : evaluateRule env.recording rule (s, []) =
      ((evaluateRule env rule s).1, (evaluateRule env rule s).2, []) :=
    evaluateRule_recording env rule s []
  by_cases htriggers : Triggers env rule s
  · obtain ⟨t, ht⟩ := id htriggers
    rw [ht] at hrun
    rw [turnCommands, fireRule_of_triggers hrun, executeAction_eq]
    rcases hdecode : decodeAction rule.actionConfig with e | _ | command
    · rfl
    · rfl
    · exact absurd hdecode (h htriggers command)
  · have hnot : ¬ Triggers env.recording rule (s, []) := by
      rintro ⟨t, ht⟩
      rw [hrun] at ht
      have hok : (evaluateRule env rule s).1 = .ok true := congrArg Prod.fst ht
      exact htriggers ⟨(evaluateRule env rule s).2, Prod.ext hok rfl⟩
    rw [turnCommands, (fireRule_of_not_triggers hnot).1, hrun]

theorem turnCommands_ne_nil_iff {rule : AutomationRule} {s : σ} :
    turnCommands env rule s ≠ [] ↔ Triggers env rule s ∧ Commands rule.actionConfig := by
  constructor
  · intro hsent
    by_contra hnot
    exact hsent (turnCommands_eq_nil fun htriggers command hdecode => hnot ⟨htriggers, command, hdecode⟩)
  · rintro ⟨htriggers, command, hdecode⟩
    rw [turnCommands_eq_singleton htriggers hdecode]
    exact List.cons_ne_nil _ _

theorem turnStamp_cases {turn : AutomationRule × σ} {stamp : Uuid × DateTime} (h : turnStamp env turn = some stamp) :
    stamp.1 = turn.1.id ∧ Triggers env turn.1 turn.2 := by
  have htriggers : Triggers env turn.1 turn.2 := by
    by_contra hnot
    rw [(fireRule_of_not_triggers hnot).2] at h
    cases h
  refine ⟨?_, htriggers⟩
  obtain ⟨t, ht⟩ := htriggers
  rw [turnStamp, fireRule_of_triggers ht] at h
  rcases hrun : executeAction turn.1.actionConfig env.provider t with ⟨e | _, u⟩ <;> rw [hrun] at h <;> cases h
  rfl

end

/-! ### An example -/

/-- An application that is given by its clock, with devices that accept every command. -/
def clockEnv : Env DateTime DeviceState where
  provider :=
    { discoverDevices := pure []
      getDeviceState := fun ain => pure { ain := ain.text }
      setSwitch := fun _ _ => pure ()
      setTemperature := fun _ _ => pure ()
      setDimmer := fun _ _ => pure () }
  getCurrent := pure none
  utcnow := id
  enabledRules := pure []
  commitTriggered _ := pure ()
  stampSchedule _ := pure ()

end SmartHome
