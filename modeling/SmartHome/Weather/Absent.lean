import SmartHome.Weather.Client

/-! # Absent data

What the parsers make of a response in which fields are missing or `null` and every other field is of its type. -/

namespace SmartHome.Weather

/-- The value is a number. -/
def IsNumber : PyValue → Prop
  | .int _ | .float _ => True
  | _ => False

/-- The value is a text. -/
def IsText : PyValue → Prop
  | .str _ => True
  | _ => False

/-- Missing, `null` or of the expected type: `PyDict.get` is `None` for a missing key. -/
def Optionally (expected : PyValue → Prop) (v : PyValue) : Prop := v = .none ∨ expected v

/-- An object whose members under the keys are of the type, where they are there. -/
def IsObject (keys : List String) (expected : PyValue → Prop) (v : PyValue) : Prop :=
  ∃ fields, v = .dict fields ∧ ∀ key ∈ keys, Optionally expected (PyDict.get fields key)

/-- A response of Open-Meteo: what is there has its type, or is null. -/
def OpenmeteoResponse (data : PyDict) : Prop :=
  Optionally
    (IsObject ["weather_code", "temperature_2m", "apparent_temperature", "relative_humidity_2m", "wind_speed_10m"]
      IsNumber)
    (PyDict.get data "current")

/-- A response of OpenWeatherMap: what is there has its type, or is null. -/
structure OwmResponse (data : PyDict) : Prop where
  main : Optionally (IsObject ["temp", "feels_like", "humidity"] IsNumber) (PyDict.get data "main")
  weather : Optionally
    (fun v => ∃ xs, v = .list xs ∧ ∀ x ∈ xs, Optionally (IsObject ["main", "description", "icon"] IsText) x)
    (PyDict.get data "weather")
  wind : Optionally (IsObject ["speed"] IsNumber) (PyDict.get data "wind")

/-- What the response has under a key; `None` where the object is absent itself. -/
def field (v : PyValue) (key : String) : PyValue :=
  match v with
  | .dict fields => PyDict.get fields key
  | _ => .none

/-- The first of a list, where there is one. -/
def firstOf (v : PyValue) : PyValue :=
  match v with
  | .list (x :: _) => x
  | _ => .none

/-- An absent number is absent from the output, and any other is what the output has. -/
structure Carries (input output : PyValue) : Prop where
  absent : input = .none → output = .none
  number : IsNumber input → output = input

/-- The tenth nearest to the quotient of the double by 3.6, in double precision; infinities and `nan` stay. -/
def RoundedQuotient (speed : PyFloat) (output : PyValue) : Prop :=
  match speed with
  | .finite q => ∃ tenths : ℤ,
      |10 * Binary64.nearest (q / Binary64.nearest (18 / 5)) - tenths| ≤ 1 / 2 ∧
        output = .float (.finite (Binary64.nearest (tenths / 10)))
  | x => output = .float x

/-- No output of an absent input, and every number of the response in its place. -/
structure OpenmeteoFaithful (current : PyValue) (w : ParsedWeather) : Prop where
  temperature : Carries (field current "temperature_2m") w.temperatureCelsius
  feelsLike : Carries (field current "apparent_temperature") w.feelsLikeCelsius
  humidity : Carries (field current "relative_humidity_2m") w.humidityPercent
  code : field current "weather_code" = .none →
    w.condition = .none ∧ w.description = .none ∧ w.iconCode = .none
  noWind : field current "wind_speed_10m" = .none → w.windSpeedMs = .none
  wind : IsNumber (field current "wind_speed_10m") →
    ∃ speed, (field current "wind_speed_10m").toFloat = .ok speed ∧ RoundedQuotient speed w.windSpeedMs

/-- The parsed weather says what the response of OpenWeatherMap says, and nothing else. -/
structure OwmFaithful (main weather wind : PyValue) (w : ParsedWeather) : Prop where
  temperature : Carries (field main "temp") w.temperatureCelsius
  feelsLike : Carries (field main "feels_like") w.feelsLikeCelsius
  humidity : Carries (field main "humidity") w.humidityPercent
  condition : field weather "main" = .none → w.condition = .none
  description : field weather "description" = .none → w.description = .none
  icon : field weather "icon" = .none → w.iconCode = .none
  wind : Carries (field wind "speed") w.windSpeedMs

/-! ## Reading a field -/

section Reading
variable {v u default : PyValue} {fields data : PyDict} {key : String} {w : ParsedWeather}

theorem get_eq_ok_iff : get v key default = .ok u ↔ ∃ fields, v = .dict fields ∧ u = PyDict.getD fields key default := by
  unfold get
  cases v with
  | dict fields =>
    constructor
    · intro h
      cases h
      exact ⟨fields, rfl, rfl⟩
    · rintro ⟨fields, hv, rfl⟩
      cases hv
      rfl
  | _ =>
    constructor
    · intro h
      cases h
    · rintro ⟨fields, hv, -⟩
      cases hv

theorem getD_none : PyDict.getD fields key .none = PyDict.get fields key := rfl

/-- A field that is there is not replaced by the default. -/
theorem getD_of_present (h : PyDict.get fields key ≠ .none) : PyDict.getD fields key default = PyDict.get fields key := by
  unfold PyDict.get at h ⊢
  unfold PyDict.getD
  cases hlookup : fields.lookup key with
  | none =>
    rw [hlookup] at h
    exact absurd rfl h
  | some v => rfl

theorem carries_self (v : PyValue) : Carries v v := ⟨id, fun _ => rfl⟩

theorem wmoCode_number (h : IsNumber v) : ∃ texts, wmoCode v = .ok texts := by
  cases v with
  | int z => exact ⟨_, rfl⟩
  | float x => exact ⟨_, rfl⟩
  | _ => exact h.elim

theorem toFloat_number (h : IsNumber v) (hbound : ∀ z : ℤ, v = .int z → |(z : ℚ)| < PyFloat.overflowBound) :
    ∃ speed, v.toFloat = .ok speed := by
  cases v with
  | int z => exact ⟨_, if_neg (not_le.mpr (hbound z rfl))⟩
  | float x => exact ⟨x, rfl⟩
  | _ => exact h.elim

theorem metresPerSecond_number (h : IsNumber v) {speed : PyFloat} (hspeed : v.toFloat = .ok speed) :
    ∃ wind, metresPerSecond v = .ok wind ∧ RoundedQuotient speed (.float wind) := by
  cases v with
  | int _ | float _ =>
    unfold metresPerSecond
    simp only [hspeed]
    cases speed with
    | finite q => exact ⟨_, rfl, _, Binary64.abs_sub_roundEven _, rfl⟩
    | inf negative => exact ⟨_, rfl, rfl⟩
    | nan => exact ⟨_, rfl, rfl⟩
  | _ => exact h.elim

/-- An integer without a nearest double cannot be divided. -/
theorem bound_of_metresPerSecond {z : ℤ} {wind : PyFloat} (h : metresPerSecond (.int z) = .ok wind) :
    |(z : ℚ)| < PyFloat.overflowBound := by
  by_contra hbound
  have hraise : (PyValue.int z).toFloat = .error .overflowError := if_pos (not_lt.mp hbound)
  unfold metresPerSecond at h
  simp only [hraise] at h
  cases h

end Reading

/-! ## Open-Meteo -/

section Openmeteo
variable {data : PyDict} {w : ParsedWeather}

theorem parseOpenmeteoData_eq_ok_iff :
    parseOpenmeteoData (.dict data) = .ok w ↔
      ∃ fields texts wind, PyDict.getD data "current" (.dict []) = .dict fields ∧
        wmoCode (PyDict.getD fields "weather_code" (.int 0)) = .ok texts ∧
        metresPerSecond (PyDict.getD fields "wind_speed_10m" (.int 0)) = .ok wind ∧
        w = { temperatureCelsius := PyDict.get fields "temperature_2m"
              feelsLikeCelsius := PyDict.get fields "apparent_temperature"
              humidityPercent := PyDict.get fields "relative_humidity_2m"
              condition := .str texts.1
              description := .str texts.2.1
              windSpeedMs := .float wind
              iconCode := .str texts.2.2 } := by
  simp only [parseOpenmeteoData, except_bind_eq_ok, get_eq_ok_iff]
  constructor
  · rintro ⟨current, ⟨_, hdata, rfl⟩, _, ⟨fields, hfields, rfl⟩, texts, htexts, _, ⟨_, hf, rfl⟩, _, ⟨_, hg, rfl⟩, _,
      ⟨_, hk, rfl⟩, _, ⟨_, hl, rfl⟩, wind, hwind, hw⟩
    cases hdata
    rw [hfields] at hf hg hk hl
    cases hf
    cases hg
    cases hk
    cases hl
    cases hw
    exact ⟨fields, texts, wind, hfields, htexts, hwind, rfl⟩
  · rintro ⟨fields, texts, wind, hfields, htexts, hwind, rfl⟩
    exact ⟨.dict fields, ⟨data, rfl, hfields.symm⟩, _, ⟨fields, rfl, rfl⟩, texts, htexts, _, ⟨fields, rfl, rfl⟩, _,
      ⟨fields, rfl, rfl⟩, _, ⟨fields, rfl, rfl⟩, _, ⟨fields, rfl, rfl⟩, wind, hwind, rfl⟩

theorem field_of_present {v : PyValue} {key : String} (h : field v key ≠ .none) : v ≠ .none := by
  rintro rfl
  exact h rfl

/-- The parser is faithful to the responses that have a weather code and a wind speed. -/
theorem parseOpenmeteoData_faithful_iff (h : OpenmeteoResponse data) :
    (∃ w, parseOpenmeteoData (.dict data) = .ok w ∧ OpenmeteoFaithful (PyDict.get data "current") w) ↔
      field (PyDict.get data "current") "weather_code" ≠ .none ∧
        field (PyDict.get data "current") "wind_speed_10m" ≠ .none ∧
        ∀ z : ℤ, field (PyDict.get data "current") "wind_speed_10m" = .int z → |(z : ℚ)| < PyFloat.overflowBound := by
  constructor
  · rintro ⟨w, hparse, hfaithful⟩
    obtain ⟨fields, texts, wind, hfields, htexts, hwind, rfl⟩ := parseOpenmeteoData_eq_ok_iff.mp hparse
    have hcode : field (PyDict.get data "current") "weather_code" ≠ .none := by
      intro habsent
      cases (hfaithful.code habsent).1
    have hspeed : field (PyDict.get data "current") "wind_speed_10m" ≠ .none := by
      intro habsent
      cases hfaithful.noWind habsent
    rw [getD_of_present (field_of_present hcode)] at hfields
    rw [hfields] at hcode hspeed ⊢
    refine ⟨hcode, hspeed, fun z hz => ?_⟩
    rw [getD_of_present hspeed, show PyDict.get fields "wind_speed_10m" = .int z from hz] at hwind
    exact bound_of_metresPerSecond hwind
  · rintro ⟨hcode, hspeed, hbound⟩
    obtain ⟨fields, hfields, hmembers⟩ := h.resolve_left (field_of_present hcode)
    rw [hfields] at hcode hspeed hbound ⊢
    have hnumber : IsNumber (PyDict.get fields "wind_speed_10m") := (hmembers _ (by simp)).resolve_left hspeed
    obtain ⟨texts, htexts⟩ := wmoCode_number ((hmembers "weather_code" (by simp)).resolve_left hcode)
    obtain ⟨speed, hfloat⟩ := toFloat_number hnumber hbound
    obtain ⟨wind, hwind, hrounded⟩ := metresPerSecond_number hnumber hfloat
    have hcurrent : PyDict.getD data "current" (.dict []) = .dict fields := by
      rw [getD_of_present (by rw [hfields]; exact PyValue.noConfusion), hfields]
    rw [← getD_of_present hcode] at htexts
    rw [← getD_of_present hspeed] at hwind
    refine ⟨_, parseOpenmeteoData_eq_ok_iff.mpr ⟨fields, texts, wind, hcurrent, htexts, hwind, rfl⟩, ?_⟩
    constructor
    · exact carries_self _
    · exact carries_self _
    · exact carries_self _
    · exact fun habsent => absurd habsent hcode
    · exact fun habsent => absurd habsent hspeed
    · exact fun _ => ⟨speed, hfloat, hrounded⟩

end Openmeteo

/-! ## OpenWeatherMap -/

section Owm
variable {data : PyDict} {w : ParsedWeather}

theorem parseOwmData_eq_ok_iff :
    parseOwmData (.dict data) = .ok w ↔
      ∃ main weather wind, PyDict.getD data "main" (.dict []) = .dict main ∧
        firstWeather (PyDict.getD data "weather" (.list [.dict []])) = .ok (.dict weather) ∧
        PyDict.getD data "wind" (.dict []) = .dict wind ∧
        w = { temperatureCelsius := PyDict.get main "temp"
              feelsLikeCelsius := PyDict.get main "feels_like"
              humidityPercent := PyDict.get main "humidity"
              condition := PyDict.get weather "main"
              description := PyDict.get weather "description"
              windSpeedMs := PyDict.get wind "speed"
              iconCode := PyDict.get weather "icon" } := by
  simp only [parseOwmData, except_bind_eq_ok, get_eq_ok_iff]
  constructor
  · rintro ⟨_, ⟨_, hdata, rfl⟩, _, ⟨_, hdata', rfl⟩, _, hfirst, _, ⟨_, hdata'', rfl⟩, _, ⟨main, hmain, rfl⟩, _,
      ⟨_, hf, rfl⟩, _, ⟨_, hg, rfl⟩, _, ⟨weather, rfl, rfl⟩, _, ⟨_, hk, rfl⟩, _, ⟨wind, hwind, rfl⟩, _, ⟨_, hl, rfl⟩,
      hw⟩
    cases hdata
    cases hdata'
    cases hdata''
    rw [hmain] at hf hg
    cases hf
    cases hg
    cases hk
    cases hl
    cases hw
    exact ⟨main, weather, wind, hmain, hfirst, hwind, rfl⟩
  · rintro ⟨main, weather, wind, hmain, hfirst, hwind, rfl⟩
    exact ⟨.dict main, ⟨data, rfl, hmain.symm⟩, _, ⟨data, rfl, rfl⟩, .dict weather, hfirst, .dict wind,
      ⟨data, rfl, hwind.symm⟩, _, ⟨main, rfl, rfl⟩, _, ⟨main, rfl, rfl⟩, _, ⟨main, rfl, rfl⟩, _, ⟨weather, rfl, rfl⟩,
      _, ⟨weather, rfl, rfl⟩, _, ⟨wind, rfl, rfl⟩, _, ⟨weather, rfl, rfl⟩, rfl⟩

/-- The default is for a missing object, and not for one that is `null`. -/
theorem object_of_getD {key : String} {fields : PyDict} (h : PyDict.getD data key (.dict []) = .dict fields) :
    data.lookup key ≠ some .none ∧ ∀ name, PyDict.get fields name = field (PyDict.get data key) name := by
  unfold PyDict.getD at h
  unfold PyDict.get
  cases hlookup : data.lookup key with
  | none =>
    rw [hlookup] at h
    cases h
    exact ⟨fun hnull => (by cases hnull), fun _ => rfl⟩
  | some v =>
    rw [hlookup] at h
    obtain rfl : v = .dict fields := h
    exact ⟨fun hnull => (by cases hnull), fun _ => rfl⟩

theorem exists_object {key : String} {keys : List String} {expected : PyValue → Prop}
    (h : Optionally (IsObject keys expected) (PyDict.get data key)) (hnull : data.lookup key ≠ some .none) :
    ∃ fields, PyDict.getD data key (.dict []) = .dict fields := by
  unfold PyDict.getD
  unfold PyDict.get at h
  cases hlookup : data.lookup key with
  | none => exact ⟨[], rfl⟩
  | some v =>
    rw [hlookup] at h hnull
    rcases h with rfl | ⟨fields, rfl, -⟩
    · exact absurd rfl hnull
    · exact ⟨fields, rfl⟩

/-- The empty object stands for the first of an empty list and of what is no list. -/
theorem weather_of_not_cons {v : PyValue} {weather : PyDict} (hcons : ∀ x xs, v ≠ .list (x :: xs))
    (h : firstWeather v = .ok (.dict weather)) : weather = [] := by
  unfold firstWeather at h
  split at h
  · cases h
    rfl
  · split at h
    · next x xs _ => exact absurd rfl (hcons x xs)
    · cases h
    · cases h
    · cases h

theorem first_of_weather {weather : PyDict}
    (h : firstWeather (PyDict.getD data "weather" (.list [.dict []])) = .ok (.dict weather)) :
    (∀ xs, PyDict.get data "weather" = .list xs → xs.head? ≠ some .none) ∧
      ∀ name, PyDict.get weather name = field (firstOf (PyDict.get data "weather")) name := by
  unfold PyDict.getD at h
  unfold PyDict.get
  cases hlookup : data.lookup "weather" with
  | none =>
    rw [hlookup] at h
    cases h
    exact ⟨fun xs hxs => (by cases hxs), fun _ => rfl⟩
  | some v =>
    rw [hlookup] at h
    by_cases hcons : ∃ x xs, v = .list (x :: xs)
    · obtain ⟨x, xs, rfl⟩ := hcons
      obtain rfl : x = .dict weather := Except.ok.inj h
      refine ⟨fun ys hys => ?_, fun _ => rfl⟩
      cases hys
      exact fun hnull => (by cases hnull)
    · have hnot : ∀ x xs, v ≠ .list (x :: xs) := fun x xs heq => hcons ⟨x, xs, heq⟩
      have hfirst : firstOf v = .none := by
        unfold firstOf
        split
        · next x xs => exact absurd rfl (hnot x xs)
        · rfl
      obtain rfl := weather_of_not_cons hnot h
      refine ⟨fun xs hxs => ?_, fun name => ?_⟩
      · obtain rfl : v = .list xs := hxs
        cases xs with
        | nil => exact fun hnull => (by cases hnull)
        | cons x xs => exact absurd rfl (hnot x xs)
      · show _ = field (firstOf v) name
        rw [hfirst]
        rfl

theorem exists_weather
    (h : Optionally
      (fun v => ∃ xs, v = .list xs ∧ ∀ x ∈ xs, Optionally (IsObject ["main", "description", "icon"] IsText) x)
      (PyDict.get data "weather"))
    (hnull : ∀ xs, PyDict.get data "weather" = .list xs → xs.head? ≠ some .none) :
    ∃ weather, firstWeather (PyDict.getD data "weather" (.list [.dict []])) = .ok (.dict weather) := by
  unfold PyDict.getD
  unfold PyDict.get at h hnull
  cases hlookup : data.lookup "weather" with
  | none => exact ⟨[], rfl⟩
  | some v =>
    rw [hlookup] at h hnull
    rcases h with rfl | ⟨xs, rfl, hmembers⟩
    · exact ⟨[], rfl⟩
    · cases xs with
      | nil => exact ⟨[], rfl⟩
      | cons x xs =>
        rcases hmembers x (List.mem_cons_self ..) with rfl | ⟨fields, rfl, -⟩
        · exact absurd rfl (hnull _ rfl)
        · exact ⟨fields, rfl⟩

/-- The parser is faithful to the responses in which neither `main` nor `wind` nor the first weather is `null`. -/
theorem parseOwmData_faithful_iff (h : OwmResponse data) :
    (∃ w, parseOwmData (.dict data) = .ok w ∧ OwmFaithful (PyDict.get data "main")
        (firstOf (PyDict.get data "weather")) (PyDict.get data "wind") w) ↔
      data.lookup "main" ≠ some .none ∧ data.lookup "wind" ≠ some .none ∧
        ∀ xs, PyDict.get data "weather" = .list xs → xs.head? ≠ some .none := by
  constructor
  · rintro ⟨w, hparse, -⟩
    obtain ⟨main, weather, wind, hmain, hweather, hwind, -⟩ := parseOwmData_eq_ok_iff.mp hparse
    exact ⟨(object_of_getD hmain).1, (object_of_getD hwind).1, (first_of_weather hweather).1⟩
  · rintro ⟨hmainNull, hwindNull, hfirstNull⟩
    obtain ⟨main, hmain⟩ := exists_object h.main hmainNull
    obtain ⟨wind, hwind⟩ := exists_object h.wind hwindNull
    obtain ⟨weather, hweather⟩ := exists_weather h.weather hfirstNull
    have hmainFields := (object_of_getD hmain).2
    have hwindFields := (object_of_getD hwind).2
    have hweatherFields := (first_of_weather hweather).2
    refine ⟨_, parseOwmData_eq_ok_iff.mpr ⟨main, weather, wind, hmain, hweather, hwind, rfl⟩, ?_⟩
    constructor
    · rw [← hmainFields]
      exact carries_self _
    · rw [← hmainFields]
      exact carries_self _
    · rw [← hmainFields]
      exact carries_self _
    · exact fun habsent => (hweatherFields "main").trans habsent
    · exact fun habsent => (hweatherFields "description").trans habsent
    · exact fun habsent => (hweatherFields "icon").trans habsent
    · rw [← hwindFields]
      exact carries_self _

end Owm

/-! ## The parsers -/

/-- Where the parsers return, invent nothing and lose no number. -/
theorem parsers_faithful_iff (data : PyDict) :
    (OpenmeteoResponse data →
      ((∃ w, parseOpenmeteoData (.dict data) = .ok w ∧ OpenmeteoFaithful (PyDict.get data "current") w) ↔
        field (PyDict.get data "current") "weather_code" ≠ .none ∧
          field (PyDict.get data "current") "wind_speed_10m" ≠ .none ∧
          ∀ z : ℤ, field (PyDict.get data "current") "wind_speed_10m" = .int z →
            |(z : ℚ)| < PyFloat.overflowBound)) ∧
      (OwmResponse data →
        ((∃ w, parseOwmData (.dict data) = .ok w ∧ OwmFaithful (PyDict.get data "main")
            (firstOf (PyDict.get data "weather")) (PyDict.get data "wind") w) ↔
          data.lookup "main" ≠ some .none ∧ data.lookup "wind" ≠ some .none ∧
            ∀ xs, PyDict.get data "weather" = .list xs → xs.head? ≠ some .none)) :=
  ⟨parseOpenmeteoData_faithful_iff, parseOwmData_faithful_iff⟩

/-- A response of Open-Meteo without a humidity. -/
def overcast : PyDict :=
  [("current", .dict [("weather_code", .int 3), ("temperature_2m", .float (.finite (37 / 2))), ("wind_speed_10m", .int 36)])]

/-- A response of OpenWeatherMap without a wind. -/
def rainy : PyDict :=
  [("main", .dict [("temp", .int 12), ("humidity", .int 91)]), ("weather", .list [.dict [("main", .str "Rain")]])]

theorem parsers_faithful_rainy :
    (∃ w, parseOpenmeteoData (.dict overcast) = .ok w ∧ OpenmeteoFaithful (PyDict.get overcast "current") w) ∧
      ∃ w, parseOwmData (.dict rainy) = .ok w ∧
        OwmFaithful (PyDict.get rainy "main") (firstOf (PyDict.get rainy "weather")) (PyDict.get rainy "wind") w := by
  constructor
  · have hresponse : OpenmeteoResponse overcast := by
      refine .inr ⟨_, rfl, fun key hkey => ?_⟩
      simp only [List.mem_cons, List.not_mem_nil, or_false] at hkey
      rcases hkey with rfl | rfl | rfl | rfl | rfl
      exacts [.inr trivial, .inr trivial, .inl rfl, .inl rfl, .inr trivial]
    refine ((parsers_faithful_iff overcast).1 hresponse).mpr ⟨nofun, nofun, fun z hz => ?_⟩
    obtain rfl : 36 = z := PyValue.int.inj hz
    have hlarge := PyFloat.overflowBound_large
    rw [Int.cast_ofNat, abs_of_pos (by norm_num)]
    linarith
  · have hmain : ∀ key ∈ ["temp", "feels_like", "humidity"],
        Optionally IsNumber (PyDict.get [("temp", .int 12), ("humidity", .int 91)] key) := by
      intro key hkey
      simp only [List.mem_cons, List.not_mem_nil, or_false] at hkey
      rcases hkey with rfl | rfl | rfl
      exacts [.inr trivial, .inl rfl, .inr trivial]
    have hweather : ∀ key ∈ ["main", "description", "icon"],
        Optionally IsText (PyDict.get [("main", .str "Rain")] key) := by
      intro key hkey
      simp only [List.mem_cons, List.not_mem_nil, or_false] at hkey
      rcases hkey with rfl | rfl | rfl
      exacts [.inr trivial, .inl rfl, .inl rfl]
    have hresponse : OwmResponse rainy :=
      ⟨.inr ⟨_, rfl, hmain⟩, .inr ⟨_, rfl, fun x hx => .inr ⟨_, List.mem_singleton.mp hx, hweather⟩⟩, .inl rfl⟩
    refine ((parsers_faithful_iff rainy).2 hresponse).mpr ⟨nofun, nofun, fun xs hxs => ?_⟩
    obtain rfl : [PyValue.dict [("main", .str "Rain")]] = xs := PyValue.list.inj hxs
    nofun

/-- A response without a weather code is clear, and one with `null` in place of an object is lost. -/
theorem parsers_not_faithful :
    (¬ ∀ data, OpenmeteoResponse data →
      ∃ w, parseOpenmeteoData (.dict data) = .ok w ∧ OpenmeteoFaithful (PyDict.get data "current") w) ∧
      ¬ ∀ data, OwmResponse data →
        ∃ w, parseOwmData (.dict data) = .ok w ∧ OwmFaithful (PyDict.get data "main")
          (firstOf (PyDict.get data "weather")) (PyDict.get data "wind") w := by
  constructor
  · intro h
    have hempty : OpenmeteoResponse [] := .inl rfl
    exact ((parseOpenmeteoData_faithful_iff hempty).mp (h [] hempty)).1 rfl
  · intro h
    have hnull : OwmResponse [("main", .none)] := ⟨.inl rfl, .inl rfl, .inl rfl⟩
    exact ((parseOwmData_faithful_iff hnull).mp (h _ hnull)).1 rfl

end SmartHome.Weather
