import SmartHome.Lib.PyValue

/-! # Decimal texts

The decimal text of an integer: its digits, and that `int(..)` reads it back. -/

namespace SmartHome.Numeral

theorem toNat_of_isDigit {c : Char} (h : c.isDigit = true) : 48 ≤ c.toNat ∧ c.toNat ≤ 57 := by
  simp only [Char.isDigit, Bool.and_eq_true, decide_eq_true_eq, UInt32.le_iff_toNat_le] at h
  exact h

theorem isAsciiSpace_of_isDigit {c : Char} (h : c.isDigit = true) : isAsciiSpace c = false := by
  obtain ⟨hlow, hhigh⟩ := toNat_of_isDigit h
  simp only [isAsciiSpace, List.contains_eq_mem, List.mem_cons, List.not_mem_nil, or_false, decide_eq_false_iff_not]
  omega

theorem strip_eq_self {space : Char → Bool} {cs : List Char} (h : ∀ c ∈ cs, space c = false) : strip space cs = cs := by
  have hfront : ∀ ds : List Char, (∀ c ∈ ds, space c = false) → ds.dropWhile space = ds := by
    intro ds hds
    cases ds with
    | nil => rfl
    | cons c ds => rw [List.dropWhile_cons_of_neg (by simp [hds c])]
  rw [strip, hfront cs h, hfront cs.reverse (by simpa using h), List.reverse_reverse]

/-- An ASCII text without blanks is read as it is. -/
theorem prepare_eq_self {cs : List Char} (h : ∀ c ∈ cs, c.toNat < 128 ∧ isAsciiSpace c = false) : prepare cs = cs := by
  have hascii : cs.all (fun c => c.toNat < 128) = true := List.all_eq_true.mpr fun c hc => decide_eq_true (h c hc).1
  rw [prepare, if_pos hascii, strip_eq_self fun c hc => (h c hc).2]

theorem prepare_digits {cs : List Char} (h : ∀ c ∈ cs, c.isDigit = true) : prepare cs = cs := by
  refine prepare_eq_self fun c hc => ⟨?_, isAsciiSpace_of_isDigit (h c hc)⟩
  obtain ⟨-, hhigh⟩ := toNat_of_isDigit (h c hc)
  omega

theorem scanDigits_cons {c : Char} (h : c.isDigit = true) (value count : Nat) (cs : List Char) :
    scanDigits value count (c :: cs) = scanDigits (10 * value + digit c) (count + 1) cs := by
  have hunderscore : c ≠ '_' := by
    rintro rfl
    exact absurd h (by decide)
  rw [scanDigits.eq_def]
  split
  · next heq => cases heq
  · next heq => exact absurd (List.cons.inj heq).1 hunderscore
  · next heq =>
    obtain ⟨rfl, rfl⟩ := List.cons.inj heq
    rw [if_pos h]

theorem scanDigits_digits {cs : List Char} (h : ∀ c ∈ cs, c.isDigit = true) (value count : Nat) :
    scanDigits value count cs = (Nat.ofDigitChars 10 cs value, count + cs.length, []) := by
  induction cs generalizing value count with
  | nil => simp [scanDigits]
  | cons c cs ih =>
    have hc : c.isDigit = true := h c (by simp)
    have hcs : ∀ d ∈ cs, d.isDigit = true := fun d hd => h d (by simp [hd])
    rw [scanDigits_cons hc, ih hcs, Nat.ofDigitChars_cons, List.length_cons]
    simp only [digit, Prod.mk.injEq, and_true, true_and]
    omega

theorem scanSign_digits {cs : List Char} (h : ∀ c ∈ cs, c.isDigit = true) : scanSign cs = (false, cs) := by
  unfold scanSign
  split
  · exact absurd (h '-' (by simp)) (by decide)
  · exact absurd (h '+' (by simp)) (by decide)
  · rfl

theorem digits_toDigits (n : Nat) : ∀ c ∈ Nat.toDigits 10 n, c.isDigit = true :=
  fun _ hc => Nat.isDigit_of_mem_toDigits (by decide) (by decide) hc

/-- The text of an integer: the digits of its magnitude, after a sign when it is negative. -/
theorem toList_toString (z : Int) :
    (toString z).toList = if z < 0 then '-' :: Nat.toDigits 10 z.natAbs else Nat.toDigits 10 z.natAbs := by
  cases z with
  | ofNat n =>
    rw [if_neg (by simp)]
    exact Nat.toList_repr
  | negSucc n =>
    rw [if_pos (Int.negSucc_lt_zero n)]
    show ("-" ++ (n + 1).repr).toList = _
    rw [String.toList_append, Nat.toList_repr]
    rfl

theorem parseInt_digits {cs : List Char} (h : ∀ c ∈ cs, c.isDigit = true) (hne : cs ≠ []) (hlength : cs.length ≤ 4300) :
    parseInt cs = some (Nat.ofDigitChars 10 cs 0 : Int) := by
  have hcount : ¬ (decide (cs.length = 0) || decide (4300 < cs.length)) = true := by simp [hne, hlength]
  simp only [parseInt, prepare_digits h, scanSign_digits h, scanDigits_digits h, Nat.zero_add, if_neg hcount,
    Bool.false_eq_true, if_false]

theorem parseInt_toString {z : Int} (hlength : (Nat.toDigits 10 z.natAbs).length ≤ 4300) :
    parseInt (toString z).toList = some z := by
  have hdigits := digits_toDigits z.natAbs
  rw [toList_toString]
  by_cases hneg : z < 0
  · rw [if_pos hneg]
    have hprepare : prepare ('-' :: Nat.toDigits 10 z.natAbs) = '-' :: Nat.toDigits 10 z.natAbs := by
      refine prepare_eq_self fun c hc => ?_
      rcases List.mem_cons.mp hc with rfl | hc
      · decide
      · have hhigh := (toNat_of_isDigit (hdigits c hc)).2
        exact ⟨by omega, isAsciiSpace_of_isDigit (hdigits c hc)⟩
    have hcount : ¬ (decide ((Nat.toDigits 10 z.natAbs).length = 0) ||
        decide (4300 < (Nat.toDigits 10 z.natAbs).length)) = true := by simp [hlength]
    simp only [parseInt, hprepare, scanSign, scanDigits_digits hdigits, Nat.ofDigitChars_ten_toDigits, Nat.zero_add,
      if_neg hcount, if_true, Option.some.injEq]
    omega
  · rw [if_neg hneg, parseInt_digits hdigits Nat.toDigits_ne_nil hlength, Nat.ofDigitChars_ten_toDigits]
    congr 1
    omega

theorem split_of_notMem {sep : Char} {cs : List Char} (h : sep ∉ cs) : split sep cs = [cs] := by
  induction cs with
  | nil => rfl
  | cons c cs ih =>
    obtain ⟨hc, hcs⟩ := not_or.mp (mt List.mem_cons.mpr h)
    rw [split, if_neg (Ne.symm hc), ih hcs]

/-- A word before the first separator. -/
theorem split_append {sep : Char} {cs : List Char} (h : sep ∉ cs) (rest : List Char) :
    split sep (cs ++ sep :: rest) = cs :: split sep rest := by
  induction cs with
  | nil => simp [split]
  | cons c cs ih =>
    obtain ⟨hc, hcs⟩ := not_or.mp (mt List.mem_cons.mpr h)
    rw [List.cons_append, split, if_neg (Ne.symm hc), ih hcs]

end SmartHome.Numeral
