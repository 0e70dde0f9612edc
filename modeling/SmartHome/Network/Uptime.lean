import SmartHome.Network.Service
import SmartHome.Lib.Decimal

/-! # Uptimes

`_fmt_uptime` as a printer of days, hours, minutes and seconds, and a parser of what it prints. -/

namespace SmartHome.Network
open Numeral Phone

/-- The fields of a duration, none of them over its range. -/
structure Uptime where
  days : Nat
  hours : Nat
  minutes : Nat
  secs : Nat
  hours_lt : hours < 24
  minutes_lt : minutes < 60
  secs_lt : secs < 60

namespace Uptime

/-- The seconds altogether. -/
def total (u : Uptime) : Nat := 86400 * u.days + 3600 * u.hours + 60 * u.minutes + u.secs

/-- The three `divmod`s of `_fmt_uptime`. -/
def ofSeconds (seconds : Nat) : Uptime where
  days := seconds / 86400
  hours := seconds % 86400 / 3600
  minutes := seconds % 86400 % 3600 / 60
  secs := seconds % 86400 % 3600 % 60
  hours_lt := by omega
  minutes_lt := by omega
  secs_lt := Nat.mod_lt _ (by decide)

/-- The part of the text with the hours. -/
def clock (u : Uptime) : List Char :=
  (padded 2 u.hours).toList ++ ':' :: ((padded 2 u.minutes).toList ++ ':' :: (padded 2 u.secs).toList)

/-- The word for the days. -/
def tag (u : Uptime) : List Char := if u.days ≠ 1 then "Tage".toList else "Tag".toList

/-- The text. -/
def text (u : Uptime) : List Char :=
  if u.days ≠ 0 then Nat.toDigits 10 u.days ++ ' ' :: (u.tag ++ ',' :: ' ' :: u.clock) else u.clock

end Uptime

/-! ## Reading an uptime -/

/-- A natural number, from its digits. -/
def readNat (cs : List Char) : Option Nat :=
  if !cs.isEmpty && cs.all Char.isDigit then some (Nat.ofDigitChars 10 cs 0) else none

/-- The seconds in the part with the hours. -/
def readClock (cs : List Char) : Option Nat :=
  match split ':' cs with
  | [hours, minutes, secs] => do
    return 3600 * (← readNat hours) + 60 * (← readNat minutes) + (← readNat secs)
  | _ => none

/-- The days in the part before it. -/
def readDays (cs : List Char) : Option Nat :=
  match split ' ' cs with
  | [days, tag] => if tag = "Tag".toList ∨ tag = "Tage".toList then readNat days else none
  | _ => none

/-- Reads both formats: a clock, and a clock after a number of days and a comma. -/
def parseUptime (text : String) : Option Nat :=
  match split ',' text.toList with
  | [clock] => readClock clock
  | [days, ' ' :: clock] => do return 86400 * (← readDays days) + (← readClock clock)
  | _ => none

/-! ## The fields -/

namespace Uptime

theorem total_ofSeconds (seconds : Nat) : (ofSeconds seconds).total = seconds := by
  show 86400 * (seconds / 86400) + 3600 * (seconds % 86400 / 3600) + 60 * (seconds % 86400 % 3600 / 60) +
    seconds % 86400 % 3600 % 60 = seconds
  omega

theorem toList_fmtUptime (seconds : Nat) : (fmtUptime seconds).toList = (ofSeconds seconds).text := by
  have htext : ∀ s : String, toString s = s := fun _ => rfl
  unfold fmtUptime text
  by_cases hnone : seconds / 86400 = 0
  · simp [ofSeconds, clock, hnone, htext]
  · by_cases hone : seconds / 86400 = 1
    · simp [ofSeconds, clock, tag, hone, htext]
    · simp [ofSeconds, clock, tag, hnone, hone, htext]

end Uptime

/-! ## Reading back -/

section Reading
variable {cs : List Char} {sep : Char} {n : Nat}

theorem notMem_of_digits (hsep : sep.isDigit = false) (h : ∀ c ∈ cs, c.isDigit = true) : sep ∉ cs := by
  intro hmem
  rw [h sep hmem] at hsep
  cases hsep

theorem readNat_digits (hne : cs ≠ []) (h : ∀ c ∈ cs, c.isDigit = true) :
    readNat cs = some (Nat.ofDigitChars 10 cs 0) := by
  have hcs : (!cs.isEmpty && cs.all Char.isDigit) = true := by
    rw [Bool.and_eq_true, List.all_eq_true]
    exact ⟨by simpa using hne, h⟩
  exact if_pos hcs

theorem readNat_toDigits : readNat (Nat.toDigits 10 n) = some n := by
  rw [readNat_digits Nat.toDigits_ne_nil (digits_toDigits n), Nat.ofDigitChars_ten_toDigits]

theorem toList_padded (width : Nat) :
    (padded width n).toList =
      List.replicate (width - (Nat.toDigits 10 n).length) '0' ++ Nat.toDigits 10 n := by
  have hdigits : (toString n).toList = Nat.toDigits 10 n := Nat.toList_repr
  rw [padded, String.toList_ofList, List.leftpad, hdigits]

theorem digits_padded (width : Nat) : ∀ c ∈ (padded width n).toList, c.isDigit = true := by
  intro c hc
  rw [toList_padded] at hc
  rcases List.mem_append.mp hc with hc | hc
  · obtain ⟨-, rfl⟩ := List.mem_replicate.mp hc
    rfl
  · exact digits_toDigits n c hc

/-- The zeros in front of a number do not change its value. -/
theorem readNat_padded (width : Nat) : readNat (padded width n).toList = some n := by
  have hne : (padded width n).toList ≠ [] := by
    rw [toList_padded]
    exact List.append_ne_nil_of_right_ne_nil _ Nat.toDigits_ne_nil
  rw [readNat_digits hne (digits_padded width), toList_padded, Nat.ofDigitChars_append,
    Nat.ofDigitChars_replicate_zero, Nat.mul_zero, Nat.ofDigitChars_ten_toDigits]

end Reading

namespace Uptime
variable (u : Uptime)

theorem split_clock : split ':' u.clock = [(padded 2 u.hours).toList, (padded 2 u.minutes).toList,
    (padded 2 u.secs).toList] := by
  have hcolon : ∀ n, ':' ∉ (padded 2 n).toList := fun n => notMem_of_digits rfl (digits_padded 2)
  rw [clock, split_append (hcolon _), split_append (hcolon _), split_of_notMem (hcolon _)]

theorem readClock_clock : readClock u.clock = some (3600 * u.hours + 60 * u.minutes + u.secs) := by
  unfold readClock
  rw [u.split_clock]
  simp only [readNat_padded, Option.pure_def, Option.bind_eq_bind, Option.bind_some]

/-- A character of neither a digit nor a colon is not in a clock. -/
theorem notMem_clock {sep : Char} (hdigit : sep.isDigit = false) (hcolon : sep ≠ ':') : sep ∉ u.clock := by
  have hpadded : ∀ n, sep ∉ (padded 2 n).toList := fun n => notMem_of_digits hdigit (digits_padded 2)
  unfold clock
  simp [hpadded, hcolon]

theorem split_days : split ' ' (Nat.toDigits 10 u.days ++ ' ' :: u.tag) = [Nat.toDigits 10 u.days, u.tag] := by
  have htag : ' ' ∉ u.tag := by
    unfold tag
    split <;> decide
  rw [split_append (notMem_of_digits rfl (digits_toDigits _)), split_of_notMem htag]

theorem readDays_days : readDays (Nat.toDigits 10 u.days ++ ' ' :: u.tag) = some u.days := by
  have htag : u.tag = "Tag".toList ∨ u.tag = "Tage".toList := by
    unfold tag
    split
    · exact .inr rfl
    · exact .inl rfl
  unfold readDays
  rw [u.split_days]
  exact (if_pos htag).trans readNat_toDigits

theorem comma_notMem_days : ',' ∉ Nat.toDigits 10 u.days ++ ' ' :: u.tag := by
  have hdigits : ',' ∉ Nat.toDigits 10 u.days := notMem_of_digits rfl (digits_toDigits _)
  have htag : ',' ∉ u.tag := by
    unfold tag
    split <;> decide
  simp [hdigits, htag]

theorem parse_text : parseUptime (String.ofList u.text) = some u.total := by
  have hcomma : ',' ∉ u.clock := u.notMem_clock rfl (by decide)
  unfold parseUptime text total
  rw [String.toList_ofList]
  by_cases hdays : u.days = 0
  · rw [if_neg (not_not.mpr hdays), split_of_notMem hcomma]
    show readClock u.clock = _
    rw [u.readClock_clock, hdays, Nat.mul_zero, Nat.zero_add]
  · have hspace : ',' ∉ ' ' :: u.clock := by simp [hcomma]
    rw [if_pos hdays, ← List.cons_append, ← List.append_assoc, split_append u.comma_notMem_days,
      split_of_notMem hspace]
    show (do return 86400 * (← readDays _) + (← readClock u.clock)) = _
    rw [u.readDays_days, u.readClock_clock]
    simp only [Option.pure_def, Option.bind_eq_bind, Option.bind_some, Option.some.injEq]
    omega

end Uptime

theorem parse_fmtUptime (seconds : Nat) : parseUptime (fmtUptime seconds) = some seconds := by
  have htext : fmtUptime seconds = String.ofList (Uptime.ofSeconds seconds).text := by
    rw [← Uptime.toList_fmtUptime, String.ofList_toList]
  rw [htext, Uptime.parse_text, Uptime.total_ofSeconds]

/-- The fields of an uptime add up to it, and its text determines it. -/
theorem fmtUptime_lossless :
    (∀ seconds, ∃ u : Uptime, u = Uptime.ofSeconds seconds ∧ (fmtUptime seconds).toList = u.text ∧
      86400 * u.days + 3600 * u.hours + 60 * u.minutes + u.secs = seconds ∧
      u.hours < 24 ∧ u.minutes < 60 ∧ u.secs < 60) ∧
    Function.Injective fmtUptime ∧ ∀ seconds, parseUptime (fmtUptime seconds) = some seconds := by
  refine ⟨fun seconds => ?_, fun s t h => ?_, parse_fmtUptime⟩
  · exact ⟨_, rfl, Uptime.toList_fmtUptime seconds, Uptime.total_ofSeconds seconds, Uptime.hours_lt _,
      Uptime.minutes_lt _, Uptime.secs_lt _⟩
  · have hparse := congrArg parseUptime h
    rw [parse_fmtUptime, parse_fmtUptime] at hparse
    exact Option.some.inj hparse

end SmartHome.Network
