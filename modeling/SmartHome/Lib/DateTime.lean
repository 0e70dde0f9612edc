/-! # Times -/

namespace SmartHome

/-- Seconds since the epoch, in UTC. -/
abbrev DateTime := Int

namespace DateTime

/-- The hour of the day. -/
def hour (t : DateTime) : Int := t / 3600 % 24

/-- The minute of the hour. -/
def minute (t : DateTime) : Int := t / 60 % 60

/-- The minute of the day. -/
def minuteOfDay (t : DateTime) : Int := t.hour * 60 + t.minute

/-- The day. -/
def day (t : DateTime) : Int := t / 86400

/-- Monday is 0; the epoch began on a Thursday. -/
def weekday (t : DateTime) : Int := (t.day + 3) % 7

end DateTime

/-! ### Cyclic windows -/

namespace Cyclic

/-- Going forward on a circle of `period` points, `x` comes no later after `start` than `stop` does. -/
def Mem (period start stop x : Int) : Prop := (x - start) % period ≤ (stop - start) % period

variable {period start stop x : Int}

instance : Decidable (Mem period start stop x) := inferInstanceAs (Decidable (_ ≤ _))

theorem emod_of_nonneg (hlow : 0 ≤ x) (hhigh : x < period) : x % period = x := Int.emod_eq_of_lt hlow hhigh

theorem emod_of_neg (hlow : -period ≤ x) (hhigh : x < 0) : x % period = x + period := by
  rw [← Int.add_emod_right]
  exact Int.emod_eq_of_lt (by omega) (by omega)

/-- A window holds its first and its last point. -/
theorem mem_start (hperiod : 0 < period) : Mem period start stop start ∧ Mem period start stop stop := by
  refine ⟨?_, Int.le_refl _⟩
  rw [Mem, Int.sub_self, Int.zero_emod]
  exact Int.emod_nonneg _ (by omega)

/-- A window that does not wrap around. -/
theorem mem_iff_of_le (hstart : 0 ≤ start) (hle : start ≤ stop) (hstop : stop < period) (hx : 0 ≤ x)
    (hperiod : x < period) : Mem period start stop x ↔ start ≤ x ∧ x ≤ stop := by
  rw [Mem, emod_of_nonneg (x := stop - start) (by omega) (by omega)]
  by_cases h : start ≤ x
  · rw [emod_of_nonneg (by omega) (by omega)]
    omega
  · rw [emod_of_neg (by omega) (by omega)]
    omega

/-- A window that wraps around. -/
theorem mem_iff_of_lt (hstop : 0 ≤ stop) (hlt : stop < start) (hstart : start < period) (hx : 0 ≤ x)
    (hperiod : x < period) : Mem period start stop x ↔ start ≤ x ∨ x ≤ stop := by
  rw [Mem, emod_of_neg (x := stop - start) (by omega) (by omega)]
  by_cases h : start ≤ x
  · rw [emod_of_nonneg (by omega) (by omega)]
    omega
  · rw [emod_of_neg (by omega) (by omega)]
    omega

end Cyclic

end SmartHome
