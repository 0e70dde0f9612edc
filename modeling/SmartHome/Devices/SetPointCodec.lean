import SmartHome.Lib.Decimal
import SmartHome.Lib.Grid
import SmartHome.Devices.SetPoints
import SmartHome.Providers.Readings

/-! # The set-point codec

The parameter that `set_temperature` sends against the reading that `get_state` makes of the answer to
`gethkrtsoll`, which is the decimal text of a parameter. -/

namespace SmartHome.Fritz.SetPoint
open FritzProvider

/-- The parameter that is sent for a temperature. -/
def encode (celsius : ℚ) : Except FritzError Int := temperatureParam (.finite celsius)

/-- The temperature that is read from the text of a parameter. -/
def decode (param : Int) : Except FritzError PyFloat := targetOf (toString param)

/-- The parameters of a thermostat: half degrees from 8 to 28, off and boost. -/
def LegalParam (param : Int) : Prop := (16 ≤ param ∧ param ≤ 56) ∨ param = 253 ∨ param = 254

/-! ### Encoding -/

theorem encode_zero : encode 0 = .ok 253 := by rw [encode, temperatureParam_finite, if_pos rfl]

theorem encode_boost {c : ℚ} (h : 32 ≤ c) : encode c = .ok 254 := by
  rw [encode, temperatureParam_finite, if_neg (by linarith), if_pos h]

theorem encode_range {c : ℚ} (hlow : 8 ≤ c) (hhigh : c ≤ 28) : encode c = .ok ⌊c * 2⌋ := by
  have hlarge := PyFloat.overflowBound_large
  have hfinite : (PyFloat.finite c).twice = .finite (c * 2) := by
    rw [PyFloat.twice, if_neg (by linarith), if_neg (by linarith)]
  rw [encode, temperatureParam_finite, if_neg (by linarith), if_neg (by linarith), hfinite]
  exact congrArg Except.ok (truncate_of_nonneg (by linarith))

theorem floor_bounds {c : ℚ} (hlow : 8 ≤ c) (hhigh : c ≤ 28) : 16 ≤ ⌊c * 2⌋ ∧ ⌊c * 2⌋ ≤ 56 := by
  refine ⟨Int.le_floor.mpr (by push_cast; linarith), ?_⟩
  have hlt : ⌊c * 2⌋ < 57 := Int.floor_lt.mpr (by push_cast; linarith)
  omega

/-! ### Decoding -/

theorem intOf_toString {param : Int} (hlow : 0 ≤ param) (hhigh : param ≤ 255) : intOf (toString param) = .ok param := by
  have hdigits : (Nat.toDigits 10 param.natAbs).length ≤ 3 :=
    (Nat.length_toDigits_le_iff (by decide) (by decide)).mpr (by omega)
  rw [intOf, Numeral.parseInt_toString (by omega)]

theorem decode_off : decode 253 = .ok (.finite 0) := by
  rw [decode, targetOf, intOf_toString (by decide) (by decide)]
  rfl

theorem decode_boost : decode 254 = .ok (.finite 32) := by
  rw [decode, targetOf, intOf_toString (by decide) (by decide)]
  rfl

/-- A half degree is a double. -/
theorem part_half {param : Int} (hlow : 16 ≤ param) (hhigh : param ≤ 56) : part 2 param = param / 2 := by
  have hsmall : |param| < 2 ^ 53 := by
    rw [abs_of_nonneg (by omega)]
    omega
  have hhalf := Binary64.nearest_dyadic hsmall (show 1 ≤ 1074 by norm_num)
  rw [pow_one] at hhalf
  rw [part_intCast 2 hsmall, Nat.cast_ofNat, hhalf]

theorem decode_range {param : Int} (hlow : 16 ≤ param) (hhigh : param ≤ 56) : decode param = .ok (.finite (param / 2)) := by
  have hlarge := PyFloat.overflowBound_large
  have hparam : (param : ℚ) ≤ 56 := by exact_mod_cast hhigh
  have hpos : (0 : ℚ) ≤ param := by exact_mod_cast (show (0 : Int) ≤ param by omega)
  have hsmall : |(param : ℚ)| < PyFloat.overflowBound := by
    rw [abs_of_nonneg hpos]
    linarith
  rw [decode, targetOf, intOf_toString (by omega) (by omega)]
  show (if param = 253 then pure (.finite 0) else if param = 254 then pure (.finite 32)
    else if PyFloat.overflowBound ≤ |(param : ℚ)| then _ else pure ((PyFloat.ofRat param).div 2) : Except FritzError PyFloat) = _
  rw [if_neg (by omega), if_neg (by omega), if_neg (not_le.mpr hsmall), ofRat_eq_finite_iff.mpr ⟨hsmall, rfl⟩,
    div_nearest hsmall le_rfl, part_half hlow hhigh]
  rfl

/-- What a thermostat in a legal state is read as: off, boost, or a half degree from 8 to 28. -/
theorem decode_legal {param : Int} (h : LegalParam param) :
    ∃ c, decode param = .ok (.finite c) ∧ (c = 0 ∨ c = 32 ∨ (8 ≤ c ∧ c ≤ 28 ∧ Grid.On 2 c)) := by
  rcases h with ⟨hlow, hhigh⟩ | rfl | rfl
  · refine ⟨_, decode_range hlow hhigh, Or.inr (Or.inr ⟨?_, ?_, param, by norm_num⟩)⟩
    · have hparam : (16 : ℚ) ≤ param := by exact_mod_cast hlow
      linarith
    · have hparam : (param : ℚ) ≤ 56 := by exact_mod_cast hhigh
      linarith
  · exact ⟨0, decode_off, Or.inl rfl⟩
  · exact ⟨32, decode_boost, Or.inr (Or.inl rfl)⟩

/-! ### The codec -/

/-- Encoding and decoding a temperature of the range cuts it down to a half degree. -/
theorem decode_encode_range {c : ℚ} (hlow : 8 ≤ c) (hhigh : c ≤ 28) :
    ∃ param, encode c = .ok param ∧ 16 ≤ param ∧ param ≤ 56 ∧ decode param = .ok (.finite (Grid.cut 2 c)) := by
  obtain ⟨hfloor, hfloor'⟩ := floor_bounds hlow hhigh
  exact ⟨_, encode_range hlow hhigh, hfloor, hfloor', decode_range hfloor hfloor'⟩

/-- Decoding and encoding a legal parameter gives it back. -/
theorem encode_decode_legal {param : Int} (h : LegalParam param) :
    ∃ c, decode param = .ok (.finite c) ∧ encode c = .ok param := by
  rcases h with ⟨hlow, hhigh⟩ | rfl | rfl
  · have hparam : (16 : ℚ) ≤ param := by exact_mod_cast hlow
    have hparam' : (param : ℚ) ≤ 56 := by exact_mod_cast hhigh
    refine ⟨_, decode_range hlow hhigh, ?_⟩
    rw [encode_range (by linarith) (by linarith), div_mul_cancel₀ _ (by norm_num), Int.floor_intCast]
  · exact ⟨0, decode_off, encode_zero⟩
  · exact ⟨32, decode_boost, encode_boost le_rfl⟩

/-- The codec keeps every half degree from 8 to 28, cuts the other temperatures of the range down to one, keeps their
    order, and keeps off and boost apart from them. -/
theorem set_point_codec_faithful :
    (∀ c, 8 ≤ c → c ≤ 28 → ∃ param d, encode c = .ok param ∧ 16 ≤ param ∧ param ≤ 56 ∧ param ≠ 253 ∧ param ≠ 254 ∧
        decode param = .ok (.finite d) ∧ IsGreatest {x : ℚ | (∃ z : ℤ, x = z / 2) ∧ x ≤ c} d ∧
        ((∃ z : ℤ, c = z / 2) → d = c) ∧ c - d < 1 / 2) ∧
      (∀ b c, 8 ≤ b → b ≤ c → c ≤ 28 → ∀ p q, encode b = .ok p → encode c = .ok q → p ≤ q) ∧
      (∃ param, encode 0 = .ok param ∧ decode param = .ok (.finite 0)) ∧
      (∀ c, 32 ≤ c → ∃ param, encode c = .ok param ∧ decode param = .ok (.finite 32)) ∧
      ∀ param, LegalParam param → ∃ c, decode param = .ok (.finite c) ∧ encode c = .ok param := by
  refine ⟨fun c hlow hhigh => ?_, fun b c hlow hle hhigh p q hp hq => ?_, ⟨253, encode_zero, decode_off⟩,
    fun c h => ⟨254, encode_boost h, decode_boost⟩, fun param h => encode_decode_legal h⟩
  · obtain ⟨param, hencode, hparam, hparam', hdecode⟩ := decode_encode_range hlow hhigh
    refine ⟨param, _, hencode, hparam, hparam', by omega, by omega, hdecode, ?_, fun hhalf => ?_, ?_⟩
    · exact Grid.cut_isGreatest (k := 2) two_pos c
    · exact Grid.cut_of_on two_pos hhalf
    · exact Grid.sub_cut_lt (k := 2) two_pos c
  · rw [encode_range hlow (hle.trans hhigh)] at hp
    rw [encode_range (hlow.trans hle) hhigh] at hq
    obtain rfl := Except.ok.inj hp
    obtain rfl := Except.ok.inj hq
    gcongr

/-- 21.3 degrees become 21. -/
theorem set_point_twenty_one :
    (∃ param d, encode (213 / 10) = .ok param ∧ 16 ≤ param ∧ param ≤ 56 ∧ param ≠ 253 ∧ param ≠ 254 ∧
        decode param = .ok (.finite d) ∧ IsGreatest {x : ℚ | (∃ z : ℤ, x = z / 2) ∧ x ≤ 213 / 10} d ∧
        ((∃ z : ℤ, (213 / 10 : ℚ) = z / 2) → d = 213 / 10) ∧ 213 / 10 - d < 1 / 2) ∧
      ∃ c, decode 42 = .ok (.finite c) ∧ encode c = .ok 42 :=
  ⟨set_point_codec_faithful.1 (213 / 10) (by norm_num) (by norm_num),
    set_point_codec_faithful.2.2.2.2 42 (Or.inl ⟨by decide, by decide⟩)⟩

end SmartHome.Fritz.SetPoint
