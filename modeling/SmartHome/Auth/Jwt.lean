import Mathlib.Logic.Encodable.Basic
import Mathlib.Logic.Equiv.List
import SmartHome.Lib.DateTime
import SmartHome.Auth.Rbac

/-! # Tokens

The creation and the decoding of access and refresh tokens (`app/auth/jwt.py`) over `jose.jwt`, of which only
what it promises is known: a token that was encoded under the secret key is decoded until it expires. -/

namespace SmartHome

/-- The claims of a token; the subject, `str(user.id)`, is carried as the id. -/
structure Claims where
  sub : Option Uuid
  type : Option String
  iat : DateTime
  exp : DateTime
  role : Option String := none
  deriving DecidableEq, Repr

/-- `jose.jwt` under the secret key. Decoding reads the clock, and is `none` where it raises `JWTError`. -/
structure Jose where
  encode : Claims → String
  decode : DateTime → String → Option Claims

namespace Jose

/-- The token is correctly signed, and carries these claims. Several texts can do so: the signature is compared as bytes. -/
def Signed (jose : Jose) (token : String) (claims : Claims) : Prop := ∃ now, jose.decode now token = some claims

/-- What is encoded under the key is signed, and exactly the signed tokens that have not expired are decoded. -/
structure Faithful (jose : Jose) : Prop where
  encode : ∀ claims, jose.Signed (jose.encode claims) claims
  decode : ∀ now token claims, jose.decode now token = some claims ↔ jose.Signed token claims ∧ now ≤ claims.exp

/-- What the guards read of a token at this moment. -/
def jwt (jose : Jose) (now : DateTime) : Jwt := fun token =>
  (jose.decode now token).map fun claims => { sub := claims.sub, type := claims.type }

end Jose

/-- The token lifetimes of `app/config.py`. -/
structure TokenSettings where
  accessTokenExpireMinutes : Int := 15
  refreshTokenExpireDays : Int := 7

section Creation
variable (jose : Jose) (settings : TokenSettings) (now : DateTime)

/-- `_create_token`; `extraRole` is the only extra claim there is. -/
def createToken (subject : Uuid) (tokenType : String) (expiresDelta : Int) (extraRole : Option String) : String :=
  jose.encode { sub := some subject, type := some tokenType, iat := now, exp := now + expiresDelta, role := extraRole }

/-- `create_access_token`: with the role. -/
def createAccessToken (userId : Uuid) (role : String) : String :=
  createToken jose now userId "access" (settings.accessTokenExpireMinutes * 60) (some role)

/-- `create_refresh_token`: without the role. -/
def createRefreshToken (userId : Uuid) : String :=
  createToken jose now userId "refresh" (settings.refreshTokenExpireDays * 86400) none

end Creation

/-- The payload of a token of the type; `none` for an invalid or expired token, and for one of another type. -/
def decodeToken (tokenType : String) (jwt : Jwt) (token : String) : Option Payload :=
  match jwt token with
  | none => none
  | some payload => if payload.type ≠ some tokenType then none else some payload

/-- `decode_refresh_token`. -/
def decodeRefreshToken (jwt : Jwt) (token : String) : Option Payload := decodeToken "refresh" jwt token

theorem decodeAccessToken_eq (jwt : Jwt) (token : String) : decodeAccessToken jwt token = decodeToken "access" jwt token := rfl

/-! ### What is decoded -/

section Decoding
variable {jose : Jose} {now : DateTime} {token : String} {payload : Payload}

/-- A token carries one set of claims. -/
theorem Jose.Faithful.unique (h : jose.Faithful) {c c' : Claims} (hc : jose.Signed token c) (hc' : jose.Signed token c') :
    c = c' := by
  have hfound : jose.decode (min c.exp c'.exp) token = some c := (h.decode _ _ _).mpr ⟨hc, min_le_left _ _⟩
  have hfound' : jose.decode (min c.exp c'.exp) token = some c' := (h.decode _ _ _).mpr ⟨hc', min_le_right _ _⟩
  exact Option.some.inj (hfound.symm.trans hfound')

theorem Jose.Faithful.encode_inj (h : jose.Faithful) {c c' : Claims} (heq : jose.encode c = jose.encode c') : c = c' :=
  h.unique (h.encode c) (heq ▸ h.encode c')

/-- A correctly signed token that has not expired. -/
def Valid (jose : Jose) (now : DateTime) (token : String) (claims : Claims) : Prop :=
  jose.Signed token claims ∧ now ≤ claims.exp

theorem jwt_eq_some (h : jose.Faithful) :
    jose.jwt now token = some payload ↔
      ∃ claims, Valid jose now token claims ∧ payload = { sub := claims.sub, type := claims.type } := by
  unfold Jose.jwt Valid
  rw [Option.map_eq_some_iff]
  constructor
  · rintro ⟨claims, hdecode, rfl⟩
    exact ⟨claims, (h.decode _ _ _).mp hdecode, rfl⟩
  · rintro ⟨claims, hvalid, rfl⟩
    exact ⟨claims, (h.decode _ _ _).mpr hvalid, rfl⟩

theorem decodeToken_eq_some (h : jose.Faithful) {tokenType : String} :
    decodeToken tokenType (jose.jwt now) token = some payload ↔
      ∃ claims, Valid jose now token claims ∧ claims.type = some tokenType ∧
        payload = { sub := claims.sub, type := claims.type } := by
  unfold decodeToken
  constructor
  · intro hdecode
    split at hdecode
    · cases hdecode
    · next found hfound =>
      split at hdecode
      · cases hdecode
      · next htype =>
        cases hdecode
        obtain ⟨claims, hvalid, rfl⟩ := (jwt_eq_some h).mp hfound
        exact ⟨claims, hvalid, not_not.mp htype, rfl⟩
  · rintro ⟨claims, hvalid, htype, rfl⟩
    rw [(jwt_eq_some h).mpr ⟨claims, hvalid, rfl⟩]
    exact if_neg (not_not.mpr htype)

theorem createRefreshToken_valid (h : jose.Faithful) (settings : TokenSettings) {issued : DateTime} (userId : Uuid)
    (hlater : now ≤ issued + settings.refreshTokenExpireDays * 86400) :
    ∃ claims, Valid jose now (createRefreshToken jose settings issued userId) claims ∧ claims.type = some "refresh" ∧
      claims.sub = some userId :=
  ⟨_, ⟨h.encode _, hlater⟩, rfl, rfl⟩

end Decoding

/-! ### Tokens that are numbers -/

namespace NumberedTokens

/-- The claims as data that can be numbered. -/
abbrev Fields := Option ℕ × Option (List ℕ) × Int × Int × Option (List ℕ)

/-- The code points of a text. -/
def codes (text : String) : List ℕ := text.toList.map Char.toNat

/-- The text of the code points. -/
def ofCodes (codes : List ℕ) : String := String.ofList (codes.map Char.ofNat)

theorem ofCodes_codes (text : String) : ofCodes (codes text) = text := by
  simp [ofCodes, codes, Function.comp_def]

/-- The claims as such data. -/
def fields (claims : Claims) : Fields :=
  (claims.sub.map BitVec.toNat, claims.type.map codes, claims.iat, claims.exp, claims.role.map codes)

/-- The claims again. -/
def ofFields : Fields → Claims
  | (sub, type, iat, exp, role) =>
    { sub := sub.map (BitVec.ofNat 128), type := type.map ofCodes, iat, exp, role := role.map ofCodes }

theorem ofFields_fields (claims : Claims) : ofFields (fields claims) = claims := by
  obtain ⟨sub, type, iat, exp, role⟩ := claims
  simp [ofFields, fields, Function.comp_def, ofCodes_codes]

/-- The token is the number of its claims. -/
def encode (claims : Claims) : String := String.ofList (Nat.toDigits 10 (Encodable.encode (fields claims)))

/-- A token is valid if it is the number of claims that have not expired. -/
def decode (now : DateTime) (token : String) : Option Claims :=
  ((Encodable.decode (Nat.ofDigitChars 10 token.toList 0) : Option Fields).map ofFields).filter fun claims =>
    token = encode claims ∧ now ≤ claims.exp

theorem decode_eq_some {now : DateTime} {token : String} {claims : Claims} :
    decode now token = some claims ↔ token = encode claims ∧ now ≤ claims.exp := by
  constructor
  · intro hdecode
    obtain ⟨-, hvalid⟩ := Option.filter_eq_some_iff.mp hdecode
    exact of_decide_eq_true hvalid
  · rintro ⟨rfl, hlater⟩
    have hnumber : (Encodable.decode (Nat.ofDigitChars 10 (encode claims).toList 0) : Option Fields) =
        some (fields claims) := by
      rw [encode, String.toList_ofList, Nat.ofDigitChars_toDigits (by decide) (by decide), Encodable.encodek]
    rw [decode, hnumber, Option.map_some, ofFields_fields, Option.filter_some, if_pos]
    simpa using hlater

end NumberedTokens

/-- A token is the number of its claims, for examples. -/
def numberedTokens : Jose where
  encode := NumberedTokens.encode
  decode := NumberedTokens.decode

theorem numberedTokens_signed {token : String} {claims : Claims} :
    numberedTokens.Signed token claims ↔ token = numberedTokens.encode claims := by
  constructor
  · rintro ⟨now, hdecode⟩
    exact (NumberedTokens.decode_eq_some.mp hdecode).1
  · intro htoken
    exact ⟨claims.exp, NumberedTokens.decode_eq_some.mpr ⟨htoken, Int.le_refl _⟩⟩

theorem numberedTokens_faithful : numberedTokens.Faithful where
  encode _ := numberedTokens_signed.mpr rfl
  decode _ _ _ := by
    rw [numberedTokens_signed]
    exact NumberedTokens.decode_eq_some

end SmartHome
