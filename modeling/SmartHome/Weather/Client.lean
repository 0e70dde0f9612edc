import SmartHome.Exceptions
import SmartHome.Lib.Binary64

/-! # Weather responses

The parsers of `app/weather/client.py`. The HTTP requests are made by a library: what they answer is given. -/

namespace SmartHome.Weather

/-- The settings of the weather. -/
structure Settings where
  weatherProvider : String := "open-meteo"
  openweathermapApiKey : String := ""
  weatherLocationLat : PyFloat
  weatherLocationLon : PyFloat
  /-- `_LOCATION_KEY`, the text of the two coordinates. -/
  locationKey : String

/-- Our standard weather fields. -/
structure ParsedWeather where
  temperatureCelsius : PyValue
  feelsLikeCelsius : PyValue
  humidityPercent : PyValue
  condition : PyValue
  description : PyValue
  windSpeedMs : PyValue
  iconCode : PyValue

/-- `v.get(key, default)` -/
def get (v : PyValue) (key : String) (default : PyValue) : Except PyError PyValue :=
  match v with
  | .dict items => .ok (PyDict.getD items key default)
  | _ => .error (.builtin .attributeError)

/-- `_WMO_CODES`. -/
def wmoCodes : List (Int × String × String × String) :=
  [(0, "Clear", "Klar", "01d"),
    (1, "Clear", "Überwiegend klar", "01d"),
    (2, "Clouds", "Teilweise bewölkt", "02d"),
    (3, "Clouds", "Bewölkt", "04d"),
    (45, "Fog", "Nebel", "50d"),
    (48, "Fog", "Reifnebel", "50d"),
    (51, "Drizzle", "Leichter Nieselregen", "09d"),
    (53, "Drizzle", "Nieselregen", "09d"),
    (55, "Drizzle", "Starker Nieselregen", "09d"),
    (61, "Rain", "Leichter Regen", "10d"),
    (63, "Rain", "Regen", "10d"),
    (65, "Rain", "Starker Regen", "10d"),
    (71, "Snow", "Leichter Schneefall", "13d"),
    (73, "Snow", "Schneefall", "13d"),
    (75, "Snow", "Starker Schneefall", "13d"),
    (80, "Rain", "Leichte Regenschauer", "09d"),
    (81, "Rain", "Regenschauer", "09d"),
    (82, "Rain", "Starke Regenschauer", "09d"),
    (95, "Thunderstorm", "Gewitter", "11d")]

/-- `_WMO_CODES.get(wmo_code, ("Unknown", "Unbekannt", "01d"))`; a list or a dictionary has no hash. -/
def wmoCode : PyValue → Except PyError (String × String × String)
  | .list _ | .dict _ => .error (.builtin .typeError)
  | code => .ok (((wmoCodes.find? fun entry => code.eq (.int entry.1)).map Prod.snd).getD ("Unknown", "Unbekannt", "01d"))

/-- `round(speed / 3.6, 1)` -/
def metresPerSecond (speed : PyValue) : Except PyError PyFloat :=
  match speed with
  | .bool _ | .int _ | .float _ =>
    match speed.toFloat with
    | .error e => .error (.builtin e)
    | .ok (.finite q) =>
      let quotient := Binary64.nearest (q / Binary64.nearest (18 / 5))
      .ok (.finite (Binary64.nearest (Binary64.roundEven (10 * quotient) / 10)))
    | .ok x => .ok x
  | _ => .error (.builtin .typeError)

/-- `parse_openmeteo_data`. -/
def parseOpenmeteoData (data : PyValue) : Except PyError ParsedWeather := do
  let current ← get data "current" (.dict [])
  let wmo ← get current "weather_code" (.int 0)
  let (condition, description, icon) ← wmoCode wmo
  let temperature ← get current "temperature_2m" .none
  let apparent ← get current "apparent_temperature" .none
  let humidity ← get current "relative_humidity_2m" .none
  let speed ← get current "wind_speed_10m" (.int 0)
  let wind ← metresPerSecond speed
  pure
    { temperatureCelsius := temperature
      feelsLikeCelsius := apparent
      humidityPercent := humidity
      condition := .str condition
      description := .str description
      windSpeedMs := .float wind
      iconCode := .str icon }

/-- `weather_list[0] if weather_list else {}` -/
def firstWeather (weatherList : PyValue) : Except PyError PyValue :=
  if !weatherList.truthy then .ok (.dict [])
  else
    match weatherList with
    | .list (weather :: _) => .ok weather
    | .str s => .ok (.str (String.ofList (s.toList.take 1)))
    -- A `KeyError`: the keys are strings.
    | .dict _ => .error .external
    | _ => .error (.builtin .typeError)

/-- `parse_owm_data`. -/
def parseOwmData (data : PyValue) : Except PyError ParsedWeather := do
  let main ← get data "main" (.dict [])
  let weatherList ← get data "weather" (.list [.dict []])
  let weather ← firstWeather weatherList
  let wind ← get data "wind" (.dict [])
  let temperature ← get main "temp" .none
  let feelsLike ← get main "feels_like" .none
  let humidity ← get main "humidity" .none
  let condition ← get weather "main" .none
  let description ← get weather "description" .none
  let speed ← get wind "speed" .none
  let icon ← get weather "icon" .none
  pure
    { temperatureCelsius := temperature
      feelsLikeCelsius := feelsLike
      humidityPercent := humidity
      condition, description
      windSpeedMs := speed
      iconCode := icon }

/-- `parse_weather_data`. -/
def parseWeatherData (settings : Settings) (data : PyValue) : Except PyError ParsedWeather :=
  if settings.weatherProvider = "open-meteo" then parseOpenmeteoData data else parseOwmData data

end SmartHome.Weather
