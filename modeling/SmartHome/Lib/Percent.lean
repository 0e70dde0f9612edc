import Mathlib.Data.List.Basic

/-! # Percent-encoding

Texts of a URL as their bytes: encoding against a set, decoding, and the pairs of
`application/x-www-form-urlencoded`. -/

namespace SmartHome.Percent

/-- The text in UTF-8. -/
def bytes (s : String) : List UInt8 := s.toByteArray.data.toList

/-- UTF-8; `replaced` is for bytes that are none. -/
def text (replaced : List UInt8 → String) (bs : List UInt8) : String :=
  (String.fromUTF8? ⟨bs.toArray⟩).getD (replaced bs)

theorem text_bytes (replaced : List UInt8 → String) (s : String) : text replaced (bytes s) = s := by
  have hsame : (⟨(bytes s).toArray⟩ : ByteArray) = s.toByteArray := by rw [bytes, Array.toArray_toList]
  rw [text, hsame, String.fromUTF8?, dif_pos s.isValidUTF8, Option.getD_some]
  rfl

/-- A digit of an escape. -/
def hexDigit (n : ℕ) : UInt8 := if n < 10 then .ofNat (48 + n) else .ofNat (55 + n)

/-- The value of such a digit, in either case. -/
def hexValue (b : UInt8) : Option ℕ :=
  if 48 ≤ b.toNat ∧ b.toNat ≤ 57 then some (b.toNat - 48)
  else if 65 ≤ b.toNat ∧ b.toNat ≤ 70 then some (b.toNat - 55)
  else if 97 ≤ b.toNat ∧ b.toNat ≤ 102 then some (b.toNat - 87)
  else none

/-- `%XX`. -/
def escaped (b : UInt8) : List UInt8 := [37, hexDigit (b.toNat / 16), hexDigit (b.toNat % 16)]

/-- The bytes of the set are escaped. -/
def encode (set : UInt8 → Bool) (bs : List UInt8) : List UInt8 := bs.flatMap fun b => if set b then escaped b else [b]

/-- Escapes are read; what is none stays. -/
def decode : List UInt8 → List UInt8
  | [] => []
  | [a] => [a]
  | [a, b] => [a, b]
  | a :: b :: c :: rest =>
    if a = 37 then
      match hexValue b, hexValue c with
      | some high, some low => .ofNat (16 * high + low) :: decode rest
      | _, _ => a :: decode (b :: c :: rest)
    else a :: decode (b :: c :: rest)

/-- The pairs of a query. -/
def parse (query : List UInt8) : List (List UInt8 × List UInt8) :=
  ((query.splitOn 38).filter fun pair => pair ≠ []).map fun pair =>
    let read (part : List UInt8) := decode (part.map fun b => if b = 43 then 32 else b)
    (read (pair.takeWhile fun b => b ≠ 61), read ((pair.dropWhile fun b => b ≠ 61).drop 1))

/-- `new URLSearchParams(query).get(name)`. -/
def get (replaced : List UInt8 → String) (query : List UInt8) (name : String) : Option String :=
  ((parse query).find? fun pair => text replaced pair.1 == name).map fun pair => text replaced pair.2

/-! ## Decoding what was encoded -/

theorem hexValue_hexDigit {n : ℕ} (h : n < 16) : hexValue (hexDigit n) = some n := by
  have hall : ∀ n < 16, hexValue (hexDigit n) = some n := by decide
  exact hall n h

theorem decode_cons {a : UInt8} (h : a ≠ 37) (rest : List UInt8) : decode (a :: rest) = a :: decode rest := by
  match rest with
  | [] => rfl
  | [_] => rfl
  | _ :: _ :: _ => rw [decode, if_neg h]

theorem decode_escaped (b : UInt8) (rest : List UInt8) : decode (escaped b ++ rest) = b :: decode rest := by
  have hlt : b.toNat < 256 := b.toNat_lt
  have hdigits : 16 * (b.toNat / 16) + b.toNat % 16 = b.toNat := Nat.div_add_mod _ _
  have hhigh := hexValue_hexDigit (n := b.toNat / 16) (by omega)
  have hlow := hexValue_hexDigit (n := b.toNat % 16) (by omega)
  rw [escaped, List.cons_append, List.cons_append, List.cons_append, List.nil_append, decode, if_pos rfl, hhigh, hlow]
  dsimp only
  rw [hdigits, UInt8.ofNat_toNat]

theorem decode_encode {set : UInt8 → Bool} (hset : set 37 = true) (bs rest : List UInt8) :
    decode (encode set bs ++ rest) = bs ++ decode rest := by
  induction bs with
  | nil => rfl
  | cons b bs ih =>
    rw [encode, List.flatMap_cons, List.append_assoc, ← encode]
    split
    · rw [decode_escaped, ih, List.cons_append]
    · next hplain =>
      have hne : b ≠ 37 := fun heq => hplain (heq ▸ hset)
      rw [List.singleton_append, decode_cons hne, ih, List.cons_append]

theorem encode_append (set : UInt8 → Bool) (as bs : List UInt8) : encode set (as ++ bs) = encode set as ++ encode set bs :=
  List.flatMap_append

/-- What an escape consists of. -/
theorem hex_of_mem_escaped {b c : UInt8} (h : c ∈ escaped b) : c = 37 ∨ (hexValue c).isSome := by
  have hlt : b.toNat < 256 := b.toNat_lt
  rw [escaped, List.mem_cons, List.mem_cons, List.mem_singleton] at h
  rcases h with rfl | rfl | rfl
  · exact Or.inl rfl
  · exact Or.inr (by rw [hexValue_hexDigit (by omega)]; rfl)
  · exact Or.inr (by rw [hexValue_hexDigit (by omega)]; rfl)

/-- A byte of the set does not stand in what is encoded, unless escapes are made of it. -/
theorem not_mem_encode {set : UInt8 → Bool} {c : UInt8} (hset : set c = true) (hpercent : c ≠ 37)
    (hhex : hexValue c = none) (bs : List UInt8) : c ∉ encode set bs := by
  intro hmem
  obtain ⟨b, -, hc⟩ := List.mem_flatMap.mp hmem
  split at hc
  · rcases hex_of_mem_escaped hc with heq | hsome
    · exact hpercent heq
    · rw [hhex] at hsome
      cases hsome
  · next hplain =>
    rw [List.mem_singleton] at hc
    exact hplain (hc ▸ hset)

/-- To encode again against a set that leaves escapes alone is to encode against both. -/
theorem encode_encode {set set' : UInt8 → Bool} (h : ∀ c, c = 37 ∨ (hexValue c).isSome → set' c = false)
    (bs : List UInt8) : encode set' (encode set bs) = encode (fun b => set b || set' b) bs := by
  have hescaped : ∀ b, encode set' (escaped b) = escaped b := by
    intro b
    have hplain : ∀ c ∈ escaped b, (if set' c then escaped c else [c]) = [c] := fun c hc => by
      rw [h c (hex_of_mem_escaped hc)]
      rfl
    rw [encode, List.flatMap_congr hplain, List.flatMap_singleton']
  unfold encode at hescaped ⊢
  rw [List.flatMap_assoc]
  refine List.flatMap_congr fun b _ => ?_
  by_cases hset : set b = true
  · simp only [hset, if_true, Bool.true_or, hescaped]
  · simp only [hset, Bool.false_eq_true, if_false, Bool.false_or, List.flatMap_singleton]

theorem decode_plain {bs : List UInt8} (h : 37 ∉ bs) : decode bs = bs := by
  induction bs with
  | nil => rfl
  | cons b bs ih =>
    rw [List.mem_cons, not_or] at h
    rw [decode_cons (Ne.symm h.1), ih h.2]

/-! ## One pair -/

theorem map_plus {bs : List UInt8} (h : 43 ∉ bs) : (bs.map fun b => if b = 43 then 32 else b) = bs := by
  refine (List.map_congr_left fun b hb => ?_).trans (List.map_id bs)
  have hne : b ≠ 43 := fun heq => h (heq ▸ hb)
  rw [if_neg hne]
  rfl

theorem parse_pair {name value : List UInt8} (hname : 61 ∉ name) (hsingle : 38 ∉ name ++ 61 :: value)
    (hplus : 43 ∉ name ++ 61 :: value) : parse (name ++ 61 :: value) = [(decode name, decode value)] := by
  have hplain : ∀ b ∈ name, decide (b ≠ 61) = true := fun b hb => by
    have hne : b ≠ 61 := fun heq => hname (heq ▸ hb)
    exact decide_eq_true hne
  have hbefore : (name ++ 61 :: value).takeWhile (fun b => b ≠ 61) = name := by
    rw [List.takeWhile_append_of_pos hplain, List.takeWhile_cons_of_neg (by decide), List.append_nil]
  have hafter : ((name ++ 61 :: value).dropWhile fun b => b ≠ 61).drop 1 = value := by
    rw [List.dropWhile_append_of_pos hplain, List.dropWhile_cons_of_neg (by decide)]
    rfl
  rw [List.mem_append, List.mem_cons, not_or, not_or] at hplus
  rw [parse, List.splitOn_eq_singleton hsingle, List.filter_cons_of_pos (by simp), List.filter_nil, List.map_singleton]
  dsimp only
  rw [hbefore, hafter, map_plus hplus.1, map_plus hplus.2.2]

/-- A query of one pair, whose name needs no encoding and whose value is encoded. -/
theorem get_encoded (replaced : List UInt8 → String) {set : UInt8 → Bool} (hset : ∀ b ∈ [37, 38, 43], set b = true)
    {name : String} (hname : ∀ b ∈ [37, 38, 43, 61], b ∉ bytes name) (value : String) :
    get replaced (bytes name ++ 61 :: encode set (bytes value)) name = some value := by
  have hplain : ∀ b ∈ [(38 : UInt8), 43], b ≠ 37 ∧ b ≠ 61 ∧ hexValue b = none ∧ b ∈ [(37 : UInt8), 38, 43, 61] ∧
      b ∈ [(37 : UInt8), 38, 43] := by
    decide +kernel
  have habsent : ∀ b ∈ [38, 43], b ∉ bytes name ++ 61 :: encode set (bytes value) := by
    intro b hb hmem
    obtain ⟨hpercent, hequals, hhex, hinName, hinSet⟩ := hplain b hb
    rw [List.mem_append, List.mem_cons] at hmem
    rcases hmem with hin | heq | hin
    · exact hname b hinName hin
    · exact hequals heq
    · exact not_mem_encode (hset b hinSet) hpercent hhex _ hin
  have hdecoded : decode (encode set (bytes value)) = bytes value := by
    have hrest := decode_encode (hset 37 (by decide)) (bytes value) []
    rwa [List.append_nil, decode, List.append_nil] at hrest
  rw [get, parse_pair (hname 61 (by decide)) (habsent 38 (by decide)) (habsent 43 (by decide)), List.find?_cons_of_pos]
  · rw [Option.map_some, hdecoded, text_bytes]
  · rw [decode_plain (hname 37 (by decide)), text_bytes, beq_self_eq_true]

end SmartHome.Percent
