import SmartHome.Scheduler.Passes
import SmartHome.Scheduler.Windows
import SmartHome.Ui.Forms

/-! # The additional conditions of rules

The builder lets a user add a condition to a rule, a time window or a choice of weekdays. It is stored with
the rule and shown again, and no pass over the rules looks at it. -/

namespace SmartHome

namespace Ui

/-- What `summaryCondition` says. The window goes from its first minute forward to its last, over midnight where that is
    the way, and a text that is no time opens none. -/
def ConditionHolds (f : BuilderForm) (now : DateTime) : Prop :=
  match f.conditionType with
  | .none => True
  | .timeRange => ∃ start stop : Clock, f.condTimeFrom = start.text ∧ f.condTimeTo = stop.text ∧
      Cyclic.Mem 1440 start.minuteOfDay stop.minuteOfDay now.minuteOfDay
  | .weekday => ∃ day ∈ f.condWeekdays, (day : Int) = now.weekday

end Ui

open Ui

/-- The stored conditions that the clock satisfies: none, a window with its minute, and days with its weekday. -/
inductive Admits (now : DateTime) : Option PyDict → Prop where
  | always : Admits now none
  | window (start stop : Clock) : Cyclic.Mem 1440 start.minuteOfDay stop.minuteOfDay now.minuteOfDay →
      Admits now (some [("type", .str "time_range"), ("from", .str start.text), ("to", .str stop.text)])
  | days (days : List Nat) (day : Nat) : day ∈ days → (day : Int) = now.weekday →
      Admits now (some [("type", .str "weekday"), ("days", .list (days.map fun d : Nat => .int d))])

/-- A condition from the builder holds exactly if the clock satisfies what is stored of it. -/
theorem conditionHolds_iff_admits (f : BuilderForm) (now : DateTime) :
    ConditionHolds f now ↔ Admits now (buildConditionConfig f) := by
  unfold ConditionHolds buildConditionConfig
  cases f.conditionType with
  | none => exact iff_of_true trivial .always
  | timeRange =>
    constructor
    · rintro ⟨start, stop, hfrom, hto, hmem⟩
      rw [hfrom, hto]
      exact .window start stop hmem
    · intro h
      generalize hconfig : some [("type", PyValue.str "time_range"), ("from", .str f.condTimeFrom),
        ("to", .str f.condTimeTo)] = config at h
      cases h with
      | always => cases hconfig
      | window start stop hmem =>
        simp only [Option.some.injEq, List.cons.injEq, Prod.mk.injEq, PyValue.str.injEq, true_and, and_true] at hconfig
        exact ⟨start, stop, hconfig.1, hconfig.2, hmem⟩
      | days days day _ _ => simp at hconfig
  | weekday =>
    constructor
    · rintro ⟨day, hday, hnow⟩
      exact .days _ day hday hnow
    · intro h
      generalize hconfig : some [("type", PyValue.str "weekday"),
        ("days", .list (f.condWeekdays.map fun d : Nat => .int d))] = config at h
      cases h with
      | always => cases hconfig
      | window start stop _ => simp at hconfig
      | days days day hday hnow =>
        have hvalue : Function.Injective fun d : Nat => PyValue.int d := fun c d h => by simpa using h
        simp only [Option.some.injEq, List.cons.injEq, Prod.mk.injEq, PyValue.list.injEq, true_and, and_true] at hconfig
        exact ⟨day, List.map_injective_iff.mpr hvalue hconfig ▸ hday, hnow⟩

section
variable {σ R : Type} [DeviceReading R] {env : Env σ R}

/-- In the state of its turn a rule from the builder satisfies its condition. -/
def ConditionMet (env : Env σ R) (rule : AutomationRule) (s : σ) : Prop :=
  ∀ f, rule.conditionConfig = buildConditionConfig f → ConditionHolds f (env.utcnow s)

/-- A turn that hands the provider a command is one whose trigger and condition hold. -/
def Enforced (env : Env σ R) (s : σ) (rules : List AutomationRule) : Prop :=
  ∀ turn ∈ turns env s rules, turnCommands env turn.1 turn.2 ≠ [] →
    Triggers env turn.1 turn.2 ∧ ConditionMet env turn.1 turn.2

/-- The builder wrote the conditions. -/
def FromBuilder (rules : List AutomationRule) : Prop := ∀ rule ∈ rules, ∃ f, rule.conditionConfig = buildConditionConfig f

/-- A rule with a command as its action fires at no turn whose clock its stored condition leaves out. -/
def ClockAdmits (env : Env σ R) (s : σ) (rules : List AutomationRule) : Prop :=
  ∀ turn ∈ turns env s rules, Commands turn.1.actionConfig → Triggers env turn.1 turn.2 →
    Admits (env.utcnow turn.2) turn.1.conditionConfig

/-- The rule with another condition. -/
def AutomationRule.withCondition (rule : AutomationRule) (condition : Option PyDict) : AutomationRule :=
  { rule with conditionConfig := condition }

theorem fireRule_withCondition (env : Env σ R) (rule : AutomationRule) (condition : Option PyDict) :
    fireRule env (rule.withCondition condition) = fireRule env rule := by
  have hevaluate : evaluateRule env (rule.withCondition condition) = evaluateRule env rule := evaluateRule_congr rfl rfl
  unfold fireRule
  rw [hevaluate]
  rfl

theorem evaluateRules_withCondition (env : Env σ R) (change : AutomationRule → Option PyDict)
    (rules : List AutomationRule) :
    evaluateRules env (rules.map fun rule => rule.withCondition (change rule)) = evaluateRules env rules := by
  induction rules with
  | nil => rfl
  | cons rule rules ih => rw [List.map_cons, evaluateRules, evaluateRules, fireRule_withCondition, ih]

theorem enforced_iff (s : σ) {rules : List AutomationRule} (hbuilt : FromBuilder rules) :
    Enforced env s rules ↔ ClockAdmits env s rules := by
  have hmet : ∀ turn ∈ turns env s rules,
      (ConditionMet env turn.1 turn.2 ↔ Admits (env.utcnow turn.2) turn.1.conditionConfig) := by
    intro turn hturn
    have hrule : turn.1 ∈ rules := by
      rw [← turns_rules env s rules]
      exact List.mem_map_of_mem hturn
    obtain ⟨form, hform⟩ := hbuilt turn.1 hrule
    constructor
    · intro h
      rw [hform]
      exact (conditionHolds_iff_admits form _).mp (h form hform)
    · intro h f hf
      rw [hf] at h
      exact (conditionHolds_iff_admits f _).mpr h
  refine forall₂_congr fun turn hturn => ?_
  rw [turnCommands_ne_nil_iff, hmet turn hturn]
  constructor
  · intro h hcommands htriggers
    exact (h ⟨htriggers, hcommands⟩).2
  · rintro h ⟨htriggers, hcommands⟩
    exact ⟨htriggers, h hcommands htriggers⟩

/-- A pass enforces the conditions exactly if the clock happens to satisfy those of the rules that fire, and it is the
    same pass, with the same commands, whatever the conditions of the rules are. -/
theorem conditions_are_not_read (env : Env σ R) (s : σ) (rules : List AutomationRule) (hbuilt : FromBuilder rules) :
    (Enforced env s rules ↔ ClockAdmits env s rules) ∧
      ∀ change : AutomationRule → Option PyDict,
        (∀ log, evaluateRules env.recording (rules.map fun rule => rule.withCondition (change rule)) (s, log) =
          evaluateRules env.recording rules (s, log)) ∧
        ∀ rule t, turnCommands env (rule.withCondition (change rule)) t = turnCommands env rule t := by
  refine ⟨enforced_iff s hbuilt, fun change => ⟨fun log => by rw [evaluateRules_withCondition], fun rule t => ?_⟩⟩
  rw [turnCommands, fireRule_withCondition]
  rfl

end

/-! ### A pass -/

/-- The builder's form for a condition, with its other fields as they come. -/
def conditionForm (conditionType : ConditionType) (condTimeFrom condTimeTo : String) : BuilderForm where
  name := "Nachtlicht"
  description := ""
  triggerType := .time
  triggerTime := "20:00"
  triggerDeviceAin := ""
  triggerState := .on
  weatherCondition := .rain
  conditionType
  condTimeFrom
  condTimeTo
  condWeekdays := []
  actionDeviceAin := "08761 0374811"
  actionType := .turnOn

/-- A rule with the condition, and with a trigger and an action as the tasks read them. -/
def conditionRule (f : BuilderForm) : AutomationRule where
  id := 1
  name := f.name
  triggerType := "time"
  triggerConfig := [("start_time", .str "00:00"), ("end_time", .str "23:59")]
  conditionConfig := buildConditionConfig f
  actionType := "device_control"
  actionConfig := [("ain", .str f.actionDeviceAin), ("action", .str "on")]
  isEnabled := true

/-- From ten at night to six in the morning. -/
def atNight : BuilderForm := conditionForm .timeRange "22:00" "06:00"

/-- An hour before midnight the clock lies in the window. -/
theorem night_rule_is_enforced :
    FromBuilder [conditionRule atNight] ∧ Enforced clockEnv (23 * 3600) [conditionRule atNight] := by
  have hbuilt : FromBuilder [conditionRule atNight] := by
    intro rule hrule
    obtain rfl := List.mem_singleton.mp hrule
    exact ⟨atNight, rfl⟩
  refine ⟨hbuilt, (conditions_are_not_read clockEnv (23 * 3600) _ hbuilt).1.mpr fun turn hturn _ _ => ?_⟩
  obtain rfl := List.mem_singleton.mp hturn
  have hfrom : tenAtNight.text = "22:00" := by decide
  have hto : sixInTheMorning.text = "06:00" := by decide
  have hmem : Cyclic.Mem 1440 tenAtNight.minuteOfDay sixInTheMorning.minuteOfDay (DateTime.minuteOfDay (23 * 3600)) := by
    decide
  have hadmits := Admits.window tenAtNight sixInTheMorning hmem
  rwa [hfrom, hto] at hadmits

/-- No weekday is chosen. -/
def noDay : BuilderForm := conditionForm .weekday "06:00" "22:00"

theorem noDay_triggers : Triggers clockEnv (conditionRule noDay) 0 := ⟨0, rfl⟩

/-- A rule for no day switches the device on. -/
theorem rule_for_no_day_commands : ¬ Enforced clockEnv 0 [conditionRule noDay] := by
  intro h
  obtain ⟨-, hmet⟩ := h (conditionRule noDay, 0) (List.mem_singleton_self _)
    (turnCommands_ne_nil_iff.mpr ⟨noDay_triggers, .setSwitch true, rfl⟩)
  obtain ⟨day, hday, -⟩ := hmet noDay rfl
  cases hday

end SmartHome
