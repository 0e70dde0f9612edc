import SmartHome.Lib.Decimal
import SmartHome.Ui.Triggers

/-! # Time windows

The `time` branch of `_evaluate_rule` against the window that a pair of clock times stands for. -/

namespace SmartHome

/-- A time of the day that is written `HH:MM`. -/
structure Clock where
  hour : Nat
  minute : Nat
  hour_lt : hour < 24
  minute_lt : minute < 60

namespace Clock

/-- The time as the forms write it. -/
def text (c : Clock) : String :=
  String.ofList [(c.hour / 10).digitChar, (c.hour % 10).digitChar, ':', (c.minute / 10).digitChar,
    (c.minute % 10).digitChar]

/-- The minute of the day. -/
def minuteOfDay (c : Clock) : Int := c.hour * 60 + c.minute

theorem minuteOfDay_bounds (c : Clock) : 0 ≤ c.minuteOfDay ∧ c.minuteOfDay < 1440 := by
  have hhour := c.hour_lt
  have hminute := c.minute_lt
  unfold minuteOfDay
  omega

theorem parseInt_pair {n : Nat} (h : n < 100) :
    Numeral.parseInt [(n / 10).digitChar, (n % 10).digitChar] = some (n : Int) := by
  have htens : n / 10 < 10 := by omega
  have hunits : n % 10 < 10 := by omega
  have hdigits : ∀ c ∈ [(n / 10).digitChar, (n % 10).digitChar], c.isDigit = true := by
    simp [Nat.isDigit_digitChar, htens, hunits]
  rw [Numeral.parseInt_digits hdigits (by simp) (by simp), Nat.ofDigitChars_cons_digitChar_of_lt_ten htens,
    Nat.ofDigitChars_cons_digitChar_of_lt_ten hunits, Nat.ofDigitChars_nil]
  congr 2
  omega

theorem digitChar_ne_colon (n : Nat) (h : n < 10) : ':' ≠ n.digitChar := by
  intro heq
  have hcolon : ':'.isDigit = true := by rw [heq, Nat.isDigit_digitChar, decide_eq_true h]
  exact absurd hcolon (by decide)

theorem parseTime_text (c : Clock) : parseTime (.str c.text) = .ok (c.hour, c.minute) := by
  have hhour := c.hour_lt
  have hminute := c.minute_lt
  have hsplit : Numeral.split ':' c.text.toList =
      [[(c.hour / 10).digitChar, (c.hour % 10).digitChar], [(c.minute / 10).digitChar, (c.minute % 10).digitChar]] := by
    have hfirst : ':' ∉ [(c.hour / 10).digitChar, (c.hour % 10).digitChar] := by
      simp [digitChar_ne_colon (c.hour / 10) (by omega), digitChar_ne_colon (c.hour % 10) (by omega)]
    have hsecond : ':' ∉ [(c.minute / 10).digitChar, (c.minute % 10).digitChar] := by
      simp [digitChar_ne_colon (c.minute / 10) (by omega), digitChar_ne_colon (c.minute % 10) (by omega)]
    rw [text, String.toList_ofList]
    exact (Numeral.split_append hfirst _).trans (by rw [Numeral.split_of_notMem hsecond])
  simp only [parseTime, hsplit, parseInt_pair (show c.hour < 100 by omega), parseInt_pair (show c.minute < 100 by omega)]

/-- The defaults of a missing start and a missing end. -/
def first : Clock := ⟨0, 0, by decide, by decide⟩
/-- The last minute of a day. -/
def last : Clock := ⟨23, 59, by decide, by decide⟩

end Clock

section
variable {σ R : Type}

/-- A bound of a window in a configuration, if the key is there. -/
def Bound (config : PyDict) (key : String) (c : Option Clock) : Prop := config.lookup key = c.map fun c => .str c.text

theorem getD_of_bound {config : PyDict} {key : String} {c : Option Clock} (h : Bound config key c) (default : Clock) :
    config.getD key (.str default.text) = .str (c.getD default).text := by
  rw [PyDict.getD, h]
  cases c <;> rfl

theorem evaluateTime_bounds (env : Env σ R) {config : PyDict} {start stop : Option Clock}
    (hstart : Bound config "start_time" start)
    (hstop : Bound config "end_time" stop) (s : σ) :
    evaluateTime env config s =
      (.ok (decide ((start.getD .first).minuteOfDay ≤ (env.utcnow s).minuteOfDay ∧
        (env.utcnow s).minuteOfDay ≤ (stop.getD .last).minuteOfDay)), s) := by
  have hfirst : Clock.first.text = "00:00" := by decide
  have hlast : Clock.last.text = "23:59" := by decide
  have hs := getD_of_bound hstart Clock.first
  have he := getD_of_bound hstop Clock.last
  rw [hfirst] at hs
  rw [hlast] at he
  rw [Bool.decide_and]
  simp only [evaluateTime, hs, he, Clock.parseTime_text, Py.ofExcept, Clock.minuteOfDay, Eff.gets_bind_run]
  rfl

variable [DeviceReading R]

/-- The rule evaluates to the truth of the cyclic window from its start forward to its end. -/
def WindowHonoured (env : Env σ R) (rule : AutomationRule) (start stop : Clock) (s : σ) : Prop :=
  ∃ b, (evaluateRule env rule s).1 = .ok b ∧
    (b = true ↔ Cyclic.Mem 1440 start.minuteOfDay stop.minuteOfDay (env.utcnow s).minuteOfDay)

/-- A window whose end is earlier than its start never opens, although its first minute lies in it. -/
theorem wrapping_window_never_opens (env : Env σ R) {rule : AutomationRule} {start stop : Option Clock}
    (htype : rule.triggerType = "time") (hstart : Bound rule.triggerConfig "start_time" start)
    (hstop : Bound rule.triggerConfig "end_time" stop)
    (hlt : (stop.getD .last).minuteOfDay < (start.getD .first).minuteOfDay) :
    (∀ s, evaluateRule env rule s = (.ok false, s)) ∧
      Cyclic.Mem 1440 (start.getD .first).minuteOfDay (stop.getD .last).minuteOfDay (start.getD .first).minuteOfDay := by
  refine ⟨fun s => ?_, (Cyclic.mem_start (by decide)).1⟩
  rw [evaluateRule_of_time env htype, evaluateTime_bounds env hstart hstop]
  have hout : ¬ ((start.getD .first).minuteOfDay ≤ (env.utcnow s).minuteOfDay ∧
      (env.utcnow s).minuteOfDay ≤ (stop.getD .last).minuteOfDay) := by omega
  rw [decide_eq_false hout]

/-- A time rule is right at an instant exactly when its window does not wrap around midnight, or when the instant
    lies outside the window. -/
theorem window_honoured_iff (env : Env σ R) (rule : AutomationRule) (start stop : Option Clock)
    (htype : rule.triggerType = "time") (hstart : Bound rule.triggerConfig "start_time" start)
    (hstop : Bound rule.triggerConfig "end_time" stop) (s : σ) :
    WindowHonoured env rule (start.getD .first) (stop.getD .last) s ↔
      (start.getD .first).minuteOfDay ≤ (stop.getD .last).minuteOfDay ∨
        ((env.utcnow s).minuteOfDay < (start.getD .first).minuteOfDay ∧
          (stop.getD .last).minuteOfDay < (env.utcnow s).minuteOfDay) := by
  obtain ⟨hstart0, hstart1⟩ := (start.getD .first).minuteOfDay_bounds
  obtain ⟨hstop0, hstop1⟩ := (stop.getD .last).minuteOfDay_bounds
  obtain ⟨hnow0, hnow1⟩ := Ui.minuteOfDay_bounds (env.utcnow s)
  unfold WindowHonoured
  rw [evaluateRule_of_time env htype, evaluateTime_bounds env hstart hstop]
  by_cases hle : (start.getD .first).minuteOfDay ≤ (stop.getD .last).minuteOfDay
  · rw [Cyclic.mem_iff_of_le hstart0 hle hstop1 hnow0 (by omega)]
    exact ⟨fun _ => Or.inl hle, fun _ => ⟨_, rfl, decide_eq_true_iff⟩⟩
  · rw [Cyclic.mem_iff_of_lt hstop0 (not_le.mp hle) hstart1 hnow0 (by omega)]
    constructor
    · rintro ⟨b, hb, hiff⟩
      obtain rfl := Except.ok.inj hb
      rw [decide_eq_true_iff] at hiff
      -- no minute lies between a start and an earlier end
      have hout := mt hiff.mpr (by omega)
      omega
    · intro h
      have hout := h.resolve_left hle
      refine ⟨_, rfl, ?_⟩
      rw [decide_eq_true_iff]
      omega

end

/-! ### A night window -/

/-- On from 22:00 to 06:00, in a home without devices. -/
def nightWindow : AutomationRule where
  id := 1
  name := "Nachtlicht"
  triggerType := "time"
  triggerConfig := [("start_time", .str "22:00"), ("end_time", .str "06:00")]
  conditionConfig := none
  actionType := "device_control"
  actionConfig := [("ain", .str "08761 0374811"), ("action", .str "on")]
  isEnabled := true

/-- It is eleven in the evening. -/
def lateEvening : Env MockProvider DeviceState := { Ui.midnight with utcnow := fun _ => 23 * 3600 }

/-- 22:00. -/
def tenAtNight : Clock := ⟨22, 0, by decide, by decide⟩
/-- 06:00. -/
def sixInTheMorning : Clock := ⟨6, 0, by decide, by decide⟩

theorem nightWindow_bounds :
    Bound nightWindow.triggerConfig "start_time" (some tenAtNight) ∧
      Bound nightWindow.triggerConfig "end_time" (some sixInTheMorning) := by
  have hstart : tenAtNight.text = "22:00" := by decide
  have hend : sixInTheMorning.text = "06:00" := by decide
  simp [Bound, nightWindow, hstart, hend, List.lookup_cons]

/-- At 23:00 the window from 22:00 to 06:00 does not hold. -/
theorem night_window_is_empty :
    (evaluateRule lateEvening nightWindow Ui.emptyHome).1 = .ok false ∧
      ¬ WindowHonoured lateEvening nightWindow tenAtNight sixInTheMorning Ui.emptyHome := by
  have hrun : evaluateRule lateEvening nightWindow Ui.emptyHome = (.ok false, Ui.emptyHome) :=
    (wrapping_window_never_opens lateEvening rfl nightWindow_bounds.1 nightWindow_bounds.2 (by decide)).1 Ui.emptyHome
  refine ⟨by rw [hrun], ?_⟩
  rintro ⟨b, hb, hiff⟩
  rw [hrun] at hb
  obtain rfl := Except.ok.inj hb
  exact absurd (hiff.mpr (by decide)) (by decide)

theorem night_window_honoured_iff :
    WindowHonoured lateEvening nightWindow tenAtNight sixInTheMorning Ui.emptyHome ↔
      tenAtNight.minuteOfDay ≤ sixInTheMorning.minuteOfDay ∨
        ((lateEvening.utcnow Ui.emptyHome).minuteOfDay < tenAtNight.minuteOfDay ∧
          sixInTheMorning.minuteOfDay < (lateEvening.utcnow Ui.emptyHome).minuteOfDay) :=
  window_honoured_iff lateEvening nightWindow (some tenAtNight) (some sixInTheMorning) rfl nightWindow_bounds.1
    nightWindow_bounds.2 Ui.emptyHome

end SmartHome
