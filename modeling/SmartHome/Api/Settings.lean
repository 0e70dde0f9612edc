import SmartHome.Lib.Cut
import SmartHome.Lib.PyValue

/-! # System information

`GET /settings/system` and the masking of the database URL (`app/api/v1/settings.py`). -/

namespace SmartHome.Api

/-- Two names for the parts of a `split` or `rsplit` with a limit of one. -/
def unpackTwo (parts : Option (List Char × List Char)) : Except BuiltinError (List Char × List Char) :=
  match parts with
  | some pair => .ok pair
  | none => .error .valueError

/-- The `try` block of `_mask_url_password`. -/
def maskUrl (url : List Char) : Except BuiltinError (List Char) := do
  if "://".toList <:+: url ∧ '@' ∈ url then
    let (scheme, rest) ← unpackTwo (cutFirst "://".toList url)
    let (userinfo, hostinfo) ← unpackTwo (cutLast ['@'] rest)
    if ':' ∈ userinfo then
      let (user, _) ← unpackTwo (cutFirst [':'] userinfo)
      return scheme ++ "://".toList ++ user ++ ":***@".toList ++ hostinfo
  return url

/-- `_mask_url_password`: what cannot be read as an address is not shown at all. -/
def maskUrlPassword (url : String) : String :=
  match maskUrl url.toList with
  | .ok masked => String.ofList masked
  | .error _ => "***"

/-- The settings that the endpoint reads. -/
structure Settings where
  environment : String
  databaseUrl : String
  redisUrl : String
  openweathermapApiKey : String
  weatherLocationLat : PyFloat
  weatherLocationLon : PyFloat

/-- What the endpoint shows of them. -/
structure SystemInfo where
  environment : String
  databaseUrlMasked : String
  redisUrl : String
  weatherApiConfigured : Bool
  weatherLocation : String
  deriving DecidableEq, Repr

/-- `str` gives the text of a float. -/
def getSystemInfo (str : PyFloat → String) (settings : Settings) : SystemInfo where
  environment := settings.environment
  databaseUrlMasked := maskUrlPassword settings.databaseUrl
  redisUrl := settings.redisUrl
  weatherApiConfigured := settings.openweathermapApiKey ≠ ""
  weatherLocation := s!"{str settings.weatherLocationLat}, {str settings.weatherLocationLon}"

/-! ## What the mask leaves -/

/-- A database URL with a user and a password. -/
def databaseUrl (scheme user password host : String) : String :=
  scheme ++ "://" ++ user ++ ":" ++ password ++ "@" ++ host

section Mask
variable {scheme user password host url : List Char}

theorem singleton_occurs_iff {c : Char} {cs : List Char} : [c] <:+: cs ↔ c ∈ cs := by
  constructor
  · intro h
    exact h.subset (List.mem_singleton_self c)
  · intro h
    obtain ⟨before, after, rfl⟩ := List.append_of_mem h
    exact ⟨before, after, by simp⟩

/-- What is done behind the scheme. -/
theorem maskUrl_cut {rest : List Char} (hseparators : "://".toList <:+: url ∧ '@' ∈ url)
    (hfirst : cutFirst "://".toList url = some (scheme, rest)) :
    maskUrl url = (unpackTwo (cutLast ['@'] rest)).bind fun parts =>
      if ':' ∈ parts.1 then
        (unpackTwo (cutFirst [':'] parts.1)).map fun names =>
          scheme ++ "://".toList ++ names.1 ++ ":***@".toList ++ parts.2
      else .ok url := by
  unfold maskUrl
  rw [if_pos hseparators, hfirst]
  show (unpackTwo (cutLast ['@'] rest)).bind _ = _
  refine congrArg _ (funext fun parts => ?_)
  obtain ⟨userinfo, hostinfo⟩ := parts
  show (if ':' ∈ userinfo then _ else _) = if ':' ∈ userinfo then _ else _
  by_cases hcolon : ':' ∈ userinfo
  · rw [if_pos hcolon, if_pos hcolon]
    cases cutFirst [':'] userinfo <;> rfl
  · rw [if_neg hcolon, if_neg hcolon]
    rfl

theorem maskUrl_password (hscheme : ¬ "://".toList <:+: scheme) (huser : ':' ∉ user) (hhost : '@' ∉ host) :
    maskUrl (scheme ++ "://".toList ++ (user ++ [':'] ++ password ++ ['@'] ++ host)) =
      .ok (scheme ++ "://".toList ++ user ++ ":***@".toList ++ host) := by
  have hseparators : "://".toList <:+: scheme ++ "://".toList ++ (user ++ [':'] ++ password ++ ['@'] ++ host) ∧
      '@' ∈ scheme ++ "://".toList ++ (user ++ [':'] ++ password ++ ['@'] ++ host) :=
    ⟨⟨scheme, _, rfl⟩, by simp⟩
  have hfirst := cutFirst_append (y := user ++ [':'] ++ password ++ ['@'] ++ host) (by simp [Unbordered]) hscheme
  have hlast : cutLast ['@'] (user ++ [':'] ++ password ++ ['@'] ++ host) = some (user ++ [':'] ++ password, host) :=
    cutLast_append (by simp [Unbordered]) (mt singleton_occurs_iff.mp hhost)
  have hcolon : cutFirst [':'] (user ++ [':'] ++ password) = some (user, password) :=
    cutFirst_append (by simp [Unbordered]) (mt singleton_occurs_iff.mp huser)
  rw [maskUrl_cut hseparators hfirst, hlast]
  show (if ':' ∈ user ++ [':'] ++ password then _ else _) = _
  rw [if_pos (by simp), hcolon]
  rfl

/-- A URL is left alone, has its only `@` in the scheme, or has its password replaced. -/
theorem maskUrl_cases (url : List Char) :
    maskUrl url = .ok url ∨ maskUrl url = .error .valueError ∨
      ∃ scheme user password host, ¬ "://".toList <:+: scheme ∧ ':' ∉ user ∧ '@' ∉ host ∧
        url = scheme ++ "://".toList ++ (user ++ [':'] ++ password ++ ['@'] ++ host) ∧
        maskUrl url = .ok (scheme ++ "://".toList ++ user ++ ":***@".toList ++ host) := by
  by_cases hseparators : "://".toList <:+: url ∧ '@' ∈ url
  · have hcut : cutFirst "://".toList url ≠ none := mt (cutFirst_eq_none (by simp)).mp (not_not.mpr hseparators.1)
    obtain ⟨⟨scheme, rest⟩, hfirst⟩ := Option.ne_none_iff_exists'.mp hcut
    have hmask := maskUrl_cut hseparators hfirst
    cases hlast : cutLast ['@'] rest with
    | none =>
      right; left
      rw [hmask, hlast]
      rfl
    | some parts =>
      obtain ⟨userinfo, host⟩ := parts
      by_cases hcolon : ':' ∈ userinfo
      · have hcut : cutFirst [':'] userinfo ≠ none :=
          mt (cutFirst_eq_none (by simp)).mp (not_not.mpr (singleton_occurs_iff.mpr hcolon))
        obtain ⟨⟨user, password⟩, huser⟩ := Option.ne_none_iff_exists'.mp hcut
        have hscheme := not_infix_of_cutFirst (by simp) hfirst
        have hname := mt singleton_occurs_iff.mpr (not_infix_of_cutFirst (by simp) huser)
        have hhost := mt singleton_occurs_iff.mpr (not_infix_of_cutLast (by simp) hlast)
        have hurl : url = scheme ++ "://".toList ++ (user ++ [':'] ++ password ++ ['@'] ++ host) := by
          rw [← cutFirst_eq_some huser, ← cutLast_eq_some hlast, ← cutFirst_eq_some hfirst]
        refine .inr (.inr ⟨scheme, user, password, host, hscheme, hname, hhost, hurl, ?_⟩)
        rw [hurl]
        exact maskUrl_password hscheme hname hhost
      · left
        rw [hmask, hlast]
        exact if_neg hcolon
  · left
    unfold maskUrl
    rw [if_neg hseparators]
    rfl

theorem maskUrlPassword_of_ok {text : String} {masked : List Char} (h : maskUrl text.toList = .ok masked) :
    maskUrlPassword text = String.ofList masked := by
  unfold maskUrlPassword
  rw [h]

theorem maskUrlPassword_twice (text : String) : maskUrlPassword (maskUrlPassword text) = maskUrlPassword text := by
  rcases maskUrl_cases text.toList with hsame | herror | ⟨scheme, user, password, host, hscheme, huser, hhost, -, hmask⟩
  · have htext : maskUrlPassword text = text := by rw [maskUrlPassword_of_ok hsame, String.ofList_toList]
    rw [htext, htext]
  · have hstars : maskUrlPassword text = "***" := by
      unfold maskUrlPassword
      rw [herror]
    rw [hstars]
    rfl
  · rw [maskUrlPassword_of_ok hmask]
    refine maskUrlPassword_of_ok ?_
    have hagain := @maskUrl_password scheme user "***".toList host hscheme huser hhost
    rw [String.toList_ofList]
    simpa using hagain

theorem maskUrlPassword_databaseUrl {scheme user password host : String}
    (hscheme : ¬ "://".toList <:+: scheme.toList) (huser : ':' ∉ user.toList) (hhost : '@' ∉ host.toList) :
    maskUrlPassword (databaseUrl scheme user password host) = scheme ++ "://" ++ user ++ ":***@" ++ host := by
  have hmask := @maskUrl_password _ _ password.toList _ hscheme huser hhost
  have htext : (databaseUrl scheme user password host).toList =
      scheme.toList ++ "://".toList ++ (user.toList ++ [':'] ++ password.toList ++ ['@'] ++ host.toList) := by
    simp [databaseUrl]
  rw [← htext] at hmask
  rw [maskUrlPassword_of_ok hmask]
  apply String.toList_injective
  simp

end Mask

/-- The mask replaces the password and nothing else, so what is shown does not depend on it. -/
theorem maskUrlPassword_hides (str : PyFloat → String) :
    (∀ scheme user password host : String, ¬ "://".toList <:+: scheme.toList → ':' ∉ user.toList →
      '@' ∉ host.toList →
      maskUrlPassword (databaseUrl scheme user password host) = scheme ++ "://" ++ user ++ ":***@" ++ host) ∧
    (∀ (settings : Settings) (scheme user password password' host : String), ¬ "://".toList <:+: scheme.toList →
      ':' ∉ user.toList → '@' ∉ host.toList →
      getSystemInfo str { settings with databaseUrl := databaseUrl scheme user password host } =
        getSystemInfo str { settings with databaseUrl := databaseUrl scheme user password' host }) ∧
    ∀ url, maskUrlPassword (maskUrlPassword url) = maskUrlPassword url := by
  refine ⟨fun _ _ _ _ => maskUrlPassword_databaseUrl, ?_, maskUrlPassword_twice⟩
  intro settings scheme user password password' host hscheme huser hhost
  unfold getSystemInfo
  rw [maskUrlPassword_databaseUrl hscheme huser hhost, maskUrlPassword_databaseUrl hscheme huser hhost]

/-- A password with every separator in it. -/
theorem maskUrlPassword_hides_separators :
    maskUrlPassword "postgresql+asyncpg://home:a@b:c://d@db:5432/home" = "postgresql+asyncpg://home:***@db:5432/home" :=
  (maskUrlPassword_hides fun _ => "").1 "postgresql+asyncpg" "home" "a@b:c://d" "db:5432/home" (by decide) (by decide)
    (by decide)

end SmartHome.Api
