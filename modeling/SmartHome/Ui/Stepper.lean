import SmartHome.Devices.SetPointCodec

/-! # The temperature buttons

The buttons of `device_state_panel.html` over the component `tempControl` of `app.js`. A press steps the
temperature by half a degree, clamps it at one end, and sends it. -/

namespace SmartHome.Ui
open Fritz.SetPoint

/-- The two buttons. -/
inductive Press where
  | minus
  | plus
  deriving DecidableEq, Repr

/-- `Math.max(8, temperature - 0.5)` and `Math.min(28, temperature + 0.5)`. -/
def Press.step : Press → ℚ → ℚ
  | minus, temperature => max 8 (temperature - 1 / 2)
  | plus, temperature => min 28 (temperature + 1 / 2)

/-- A request of `setTemperature`, and the number in the panel, `temperature.toFixed(1)`. -/
structure Sent where
  celsius : ℚ
  shown : ℚ

/-- The requests of a sequence of presses. -/
def presses (temperature : ℚ) : List Press → List Sent
  | [] => []
  | press :: rest =>
    let next := press.step temperature
    { celsius := next, shown := Grid.nearestUp 10 next } :: presses next rest

/-- The schema takes the set-point. -/
def Sent.Accepted (sent : Sent) : Prop := ∃ data : SetTemperatureRequest, data.celsius = .finite sent.celsius

/-- The request is accepted, and the panel shows what was sent. -/
def Sent.Good (sent : Sent) : Prop := sent.Accepted ∧ sent.shown = sent.celsius

theorem Sent.accepted_iff {sent : Sent} : sent.Accepted ↔ 8 ≤ sent.celsius ∧ sent.celsius ≤ 28 := by
  have hge : (PyFloat.finite sent.celsius).lt (.finite 8) = decide (sent.celsius < 8) := rfl
  have hle : (PyFloat.finite 28).lt (.finite sent.celsius) = decide (28 < sent.celsius) := rfl
  constructor
  · rintro ⟨data, hdata⟩
    have hlow := data.ge
    have hhigh := data.le
    rw [hdata] at hlow hhigh
    exact ⟨not_lt.mp (of_decide_eq_false (hge ▸ hlow)), not_lt.mp (of_decide_eq_false (hle ▸ hhigh))⟩
  · rintro ⟨hlow, hhigh⟩
    exact ⟨⟨.finite sent.celsius, hge.trans (decide_eq_false hlow.not_gt), hle.trans (decide_eq_false hhigh.not_gt)⟩, rfl⟩

/-! ### One press -/

theorem Press.step_on {temperature : ℚ} (press : Press) (h : Grid.On 2 temperature) : Grid.On 2 (press.step temperature) := by
  obtain ⟨z, hz⟩ := h
  cases press with
  | minus =>
    rcases max_choice 8 (temperature - 1 / 2) with hmax | hmax
    · exact ⟨16, by rw [Press.step, hmax]; norm_num⟩
    · exact ⟨z - 1, by rw [Press.step, hmax, hz]; push_cast; ring⟩
  | plus =>
    rcases min_choice 28 (temperature + 1 / 2) with hmin | hmin
    · exact ⟨56, by rw [Press.step, hmin]; norm_num⟩
    · exact ⟨z + 1, by rw [Press.step, hmin, hz]; push_cast; ring⟩

/-- A temperature on the half degrees that a button brings into the range: not too hot for minus, not too cold for
    plus. -/
def Reachable : Press → ℚ → Prop
  | .minus, temperature => temperature ≤ 57 / 2
  | .plus, temperature => 15 / 2 ≤ temperature

theorem Press.step_bounds_iff (press : Press) (temperature : ℚ) :
    (8 ≤ press.step temperature ∧ press.step temperature ≤ 28) ↔ Reachable press temperature := by
  cases press with
  | minus =>
    simp only [Press.step, Reachable, le_max_iff, le_refl, true_or, true_and, max_le_iff]
    constructor
    · rintro ⟨-, hle⟩
      linarith
    · intro hle
      exact ⟨by norm_num, by linarith⟩
  | plus =>
    simp only [Press.step, Reachable, min_le_iff, le_refl, true_or, and_true, le_min_iff]
    constructor
    · rintro ⟨-, hle⟩
      linarith
    · intro hle
      exact ⟨by norm_num, by linarith⟩

theorem reachable_of_bounds {temperature : ℚ} (press : Press) (h : 8 ≤ temperature ∧ temperature ≤ 28) :
    Reachable press temperature := by
  obtain ⟨hlow, hhigh⟩ := h
  cases press with
  | minus => exact le_trans hhigh (by norm_num)
  | plus => exact le_trans (by norm_num) hlow

/-- What a press on a half degree sends is good exactly when the button brings the temperature into the range. -/
theorem good_step_iff {temperature : ℚ} (press : Press) (h : Grid.On 2 temperature) :
    Sent.Good { celsius := press.step temperature, shown := Grid.nearestUp 10 (press.step temperature) } ↔
      Reachable press temperature := by
  have hshown : Grid.nearestUp 10 (press.step temperature) = press.step temperature :=
    Grid.nearestUp_of_on (by norm_num) ((press.step_on h).finer two_pos (show 0 < 5 by norm_num))
  rw [Sent.Good, Sent.accepted_iff, hshown]
  exact (and_iff_left rfl).trans (press.step_bounds_iff temperature)

/-! ### All presses -/

/-- In the range every sequence of presses is good. -/
theorem presses_good {temperature : ℚ} (h : Grid.On 2 temperature) (hbounds : 8 ≤ temperature ∧ temperature ≤ 28)
    (sequence : List Press) : ∀ sent ∈ presses temperature sequence, sent.Good := by
  induction sequence generalizing temperature with
  | nil => simp [presses]
  | cons press rest ih =>
    intro sent hsent
    have hreach := reachable_of_bounds press hbounds
    rcases List.mem_cons.mp hsent with rfl | hsent
    · exact (good_step_iff press h).mpr hreach
    · exact ih (press.step_on h) ((press.step_bounds_iff temperature).mpr hreach) sent hsent

/-- From any half degree only the first press can go wrong. -/
theorem presses_good_iff {temperature : ℚ} (h : Grid.On 2 temperature) (sequence : List Press) :
    (∀ sent ∈ presses temperature sequence, sent.Good) ↔ ∀ press, sequence.head? = some press → Reachable press temperature := by
  cases sequence with
  | nil => simp [presses]
  | cons press rest =>
    constructor
    · intro hgood first hfirst
      obtain rfl := Option.some.inj hfirst
      exact (good_step_iff press h).mp (hgood _ (List.mem_cons_self ..))
    · intro hreach sent hsent
      rcases List.mem_cons.mp hsent with rfl | hsent
      · exact (good_step_iff press h).mpr (hreach press rfl)
      · exact presses_good (press.step_on h) ((press.step_bounds_iff temperature).mpr (hreach press rfl)) rest sent hsent

/-- From what a thermostat in a legal state is read as, every press is good exactly when the first is not plus while it
    is off, and not minus while it is on boost. -/
theorem presses_accepted_iff (param : Int) (temperature : ℚ) (hparam : LegalParam param)
    (hread : decode param = .ok (.finite temperature)) (sequence : List Press) :
    (∀ sent ∈ presses temperature sequence, sent.Good) ↔
      ¬ (temperature = 0 ∧ sequence.head? = some .plus) ∧ ¬ (temperature = 32 ∧ sequence.head? = some .minus) := by
  obtain ⟨c, hc, hstates⟩ := decode_legal hparam
  obtain rfl : c = temperature := PyFloat.finite.inj (Except.ok.inj (hc.symm.trans hread))
  have hon : Grid.On 2 c := by
    rcases hstates with rfl | rfl | ⟨-, -, hon⟩
    · exact ⟨0, by norm_num⟩
    · exact ⟨64, by norm_num⟩
    · exact hon
  rw [presses_good_iff hon]
  constructor
  · intro hreach
    refine ⟨?_, ?_⟩
    · rintro ⟨rfl, hplus⟩
      have hcold : (15 / 2 : ℚ) ≤ 0 := hreach .plus hplus
      norm_num at hcold
    · rintro ⟨rfl, hminus⟩
      have hhot : (32 : ℚ) ≤ 57 / 2 := hreach .minus hminus
      norm_num at hhot
  · rintro ⟨hoff, hboost⟩ press hpress
    rcases hstates with rfl | rfl | ⟨hlow, hhigh, -⟩
    · cases press with
      | minus => exact (by norm_num : (0 : ℚ) ≤ 57 / 2)
      | plus => exact absurd ⟨rfl, hpress⟩ hoff
    · cases press with
      | minus => exact absurd ⟨rfl, hpress⟩ hboost
      | plus => exact (by norm_num : (15 / 2 : ℚ) ≤ 32)
    · exact reachable_of_bounds press ⟨hlow, hhigh⟩

/-- Plus on a thermostat that is off sends half a degree, which is refused. -/
theorem plus_from_off_is_refused :
    decode 253 = .ok (.finite 0) ∧ (presses 0 [.plus]).map Sent.celsius = [1 / 2] ∧
      ¬ ∀ sent ∈ presses 0 [.plus], sent.Accepted := by
  have hstep : Press.plus.step 0 = 1 / 2 := by norm_num [Press.step]
  refine ⟨decode_off, by simp [presses, hstep], fun haccepted => ?_⟩
  obtain ⟨hlow, -⟩ := Sent.accepted_iff.mp (haccepted _ (List.mem_cons_self ..))
  rw [hstep] at hlow
  norm_num at hlow

theorem presses_from_boost :
    (∀ sent ∈ presses 32 [.plus, .minus], sent.Good) ↔
      ¬ ((32 : ℚ) = 0 ∧ [Press.plus, .minus].head? = some .plus) ∧
        ¬ ((32 : ℚ) = 32 ∧ [Press.plus, .minus].head? = some .minus) :=
  presses_accepted_iff 254 32 (Or.inr (Or.inr rfl)) decode_boost [.plus, .minus]

end SmartHome.Ui
