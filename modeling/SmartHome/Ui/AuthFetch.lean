import SmartHome.Lib.Run
import SmartHome.Auth.Issuing
import SmartHome.House.Trail

/-! # Calls of `authFetch`

The wrapper around `fetch` in `app/static/js/app.js`, the requests of HTMX and the proactive refresh, on all pages of
a browser at once: they share the access token in `localStorage` and the refresh cookie, and their steps come in any
order. A page that is left takes no further step. -/

namespace SmartHome.Ui
open Run

/-- The application, as a browser reaches it. -/
structure Server (σ ρ : Type) where
  /-- Whether the request is answered 401 under a bearer token, and what it leads to. -/
  handle : String → ρ → σ → Bool × σ
  /-- `POST /api/v1/auth/refresh` with the cookie of the browser, and the token in an answer that is ok. -/
  refresh : σ → Option String × σ

/-- What calls the server. -/
inductive Caller (ρ : Type) where
  | authFetch (request : ρ)
  | htmx (request : ρ)
  /-- The timer of `_scheduleProactiveRefresh`. -/
  | timer

/-- Where a call is. -/
inductive Stage where
  /-- The request is on its way; `again` for the second one of the call. -/
  | asking (token : String) (again : Bool)
  | answered (denied again : Bool)
  /-- `_tryRefreshToken` waits for its answer. -/
  | refreshing
  | refreshAnswered (token : Option String)
  | refreshed (ok : Bool)
  | returned (denied : Bool)
  /-- `fetch` has thrown. -/
  | rejected

/-- A call that goes on. -/
structure Call (ρ : Type) where
  caller : Caller ρ
  stage : Stage

/-- A request that has reached the server. -/
structure Handled (σ ρ : Type) where
  call : ℕ
  request : ρ
  token : String
  denied : Bool
  before : σ
  after : σ

/-- `handled` and `redirects` record what has happened; nothing reads them. -/
structure Browser (σ ρ : Type) where
  server : σ
  /-- The item `access_token` of `localStorage`. -/
  token : Option String := none
  calls : List (Call ρ) := []
  handled : List (Handled σ ρ) := []
  /-- How often a page was sent to the login page. -/
  redirects : ℕ := 0

/-- What comes to a call. -/
inductive Progress where
  /-- The server gets the request, or the refresh. -/
  | serve
  /-- The answer arrives. -/
  | receive
  /-- The network fails. A request that the server gets nevertheless is served before. -/
  | lose
  /-- The code after `await _tryRefreshToken()`. -/
  | resume

/-- What the page, the network and others do. -/
inductive Event (σ ρ : Type) where
  | fetch (request : ρ)
  | htmx (request : ρ)
  | timer
  | call (id : ℕ) (progress : Progress)
  /-- Other code writes the item: the login page, or the logout. -/
  | store (token : Option String)
  /-- `_checkAuth`, when a page has been loaded. -/
  | checkAuth (path : String)
  /-- The server is used by others, and time passes. -/
  | elapse (server : σ)

section Machine
variable {σ ρ : Type}

/-- The request of the caller; a timer has none. -/
def Caller.request : Caller ρ → Option ρ
  | authFetch request | htmx request => some request
  | timer => none

namespace Browser

/-- `getAccessToken`; nothing stored is the empty text. -/
def getAccessToken (s : Browser σ ρ) : String := s.token.getD ""

/-- `localStorage.removeItem`, and on to the login page. -/
def forceLogin (s : Browser σ ρ) : Browser σ ρ := { s with token := none, redirects := s.redirects + 1 }

/-- A call begins. -/
def start (s : Browser σ ρ) (caller : Caller ρ) (stage : Stage) : Browser σ ρ :=
  { s with calls := s.calls ++ [{ caller, stage }] }

/-- The server gets a request of the call. -/
def serve (server : Server σ ρ) (s : Browser σ ρ) (id : ℕ) (token : String) (request : ρ) : Handled σ ρ where
  call := id
  request
  token
  denied := (server.handle token request s.server).1
  before := s.server
  after := (server.handle token request s.server).2

/-- What the call does to the browser, and where it stands then. -/
def act (server : Server σ ρ) (s : Browser σ ρ) (id : ℕ) (call : Call ρ) : Progress → Option (Browser σ ρ × Stage)
  | .serve =>
    match call.stage with
    | .asking token again => call.caller.request.map fun request =>
      let handled := s.serve server id token request
      ({ s with server := handled.after, handled := s.handled ++ [handled] }, .answered handled.denied again)
    | .refreshing =>
      let (token, after) := server.refresh s.server
      some ({ s with server := after }, .refreshAnswered token)
    | _ => none
  | .receive =>
    match call.stage, call.caller with
    | .answered true false, .authFetch _ => some (s, .refreshing)
    | .answered true _, .htmx _ => some (s.forceLogin, .returned true)
    | .answered denied _, _ => some (s, .returned denied)
    | .refreshAnswered (some token), _ => some ({ s with token := some token }, .refreshed true)
    | .refreshAnswered none, _ => some (s, .refreshed false)
    | _, _ => none
  | .lose =>
    match call.stage with
    | .asking .. | .answered .. => some (s, .rejected)
    | .refreshing | .refreshAnswered _ => some (s, .refreshed false)
    | _ => none
  | .resume =>
    match call.stage, call.caller with
    | .refreshed true, .authFetch _ => some (s, .asking s.getAccessToken true)
    | .refreshed false, .authFetch _ => some (s.forceLogin, .returned true)
    | _, _ => none

/-- What an event does. -/
def step (server : Server σ ρ) (s : Browser σ ρ) : Event σ ρ → Option (Browser σ ρ)
  | .fetch request => some (s.start (.authFetch request) (.asking s.getAccessToken false))
  | .htmx request => some (s.start (.htmx request) (.asking s.getAccessToken false))
  | .timer => some (s.start .timer .refreshing)
  | .call id progress => do
    let call ← s.calls[id]?
    let (s', stage) ← s.act server id call progress
    some { s' with calls := s.calls.set id { call with stage } }
  | .store token => some { s with token }
  | .checkAuth path => some (if path ≠ "/login" ∧ s.getAccessToken = "" then { s with redirects := s.redirects + 1 } else s)
  | .elapse server => some { s with server }

/-- The requests of a call, in the order in which the server got them. -/
def requests (s : Browser σ ρ) (id : ℕ) : List (Handled σ ρ) := s.handled.filter fun handled => handled.call == id

end Browser

/-! ## What a step can do -/

namespace Browser
variable {server : Server σ ρ} {s t : Browser σ ρ}

/-- `P` holds of every call. -/
def Each (P : ℕ → Call ρ → Prop) (calls : List (Call ρ)) : Prop := ∀ id call, calls[id]? = some call → P id call

theorem Each.append {P : ℕ → Call ρ → Prop} {calls : List (Call ρ)} {call : Call ρ} (h : Each P calls)
    (hcall : P calls.length call) : Each P (calls ++ [call]) := by
  intro id found hfound
  rcases Nat.lt_or_ge id calls.length with hlt | hge
  · rw [List.getElem?_append_left hlt] at hfound
    exact h id found hfound
  · rw [List.getElem?_append_right hge, List.getElem?_singleton] at hfound
    split at hfound
    · next hlast =>
      cases hfound
      obtain rfl : id = calls.length := by omega
      exact hcall
    · cases hfound

theorem Each.set {P Q : ℕ → Call ρ → Prop} {calls : List (Call ρ)} {id : ℕ} {call : Call ρ} (h : Each P calls)
    (hothers : ∀ other found, other ≠ id → P other found → Q other found) (hcall : Q id call) :
    Each Q (calls.set id call) := by
  intro other found hfound
  rw [List.getElem?_set] at hfound
  split at hfound
  · next hsame =>
    split at hfound
    · cases hfound
      exact hsame ▸ hcall
    · cases hfound
  · next hne => exact hothers other found (fun heq => hne heq.symm) (h other found hfound)

theorem step_call {id : ℕ} {progress : Progress} (hstep : s.step server (.call id progress) = some t) :
    ∃ call s' stage, s.calls[id]? = some call ∧ s.act server id call progress = some (s', stage) ∧
      t = { s' with calls := s.calls.set id { call with stage } } := by
  simp only [step, Option.bind_eq_bind, Option.bind_eq_some_iff, Prod.exists, Option.some.injEq] at hstep
  obtain ⟨call, hcall, s', stage, hact, rfl⟩ := hstep
  exact ⟨call, s', stage, hcall, hact, rfl⟩

/-! ## Every call is answered once, and once more after a 401 -/

/-- What the server has answered to the requests of a call that has come this far. -/
def Answers (answers : List Bool) (call : Call ρ) : Prop :=
  match call.stage with
  | .asking _ again => answers = if again then [true] else []
  | .answered denied again => answers = (if again then [true] else []) ++ [denied]
  | .refreshing | .refreshAnswered _ | .refreshed _ => answers = if call.caller.request.isSome then [true] else []
  | .returned _ | .rejected => ∃ (again : Bool) (last : Option Bool), answers = (if again then [true] else []) ++ last.toList

theorem Answers.settled {answers : List Bool} {call : Call ρ} (h : Answers answers call) :
    ∃ (again : Bool) (last : Option Bool), answers = (if again then [true] else []) ++ last.toList := by
  obtain ⟨caller, stage⟩ := call
  cases stage with
  | asking token again => exact ⟨again, none, by rw [h]; simp⟩
  | answered denied again => exact ⟨again, some denied, h⟩
  | refreshing | refreshAnswered | refreshed => exact ⟨caller.request.isSome, none, by rw [h]; simp⟩
  | returned | rejected => exact h

/-- What a call does next: the server answers it, or nothing is added to what it has answered. -/
theorem act_answers {id : ℕ} {call : Call ρ} {progress : Progress} {s' : Browser σ ρ} {stage : Stage} {answers : List Bool}
    (hact : s.act server id call progress = some (s', stage)) (h : Answers answers call) :
    ∃ more, s'.handled = s.handled ++ more ∧ (∀ handled ∈ more, handled.call = id) ∧
      Answers (answers ++ more.map Handled.denied) { call with stage } := by
  obtain ⟨caller, before⟩ := call
  have quiet : ∀ {stage : Stage}, Answers answers { caller, stage : Call ρ } →
      ∃ more, s.handled = s.handled ++ more ∧ (∀ handled ∈ more, handled.call = id) ∧
        Answers (answers ++ more.map Handled.denied) { caller, stage } := fun h =>
    ⟨[], (List.append_nil _).symm, fun _ hmem => absurd hmem List.not_mem_nil, by simpa using h⟩
  cases progress with
  | serve =>
    cases before with
    | asking token again =>
      obtain ⟨request, -, hact⟩ := Option.map_eq_some_iff.mp hact
      cases hact
      refine ⟨_, rfl, fun handled hmem => ?_, by rw [h]; rfl⟩
      rw [List.mem_singleton.mp hmem]
      rfl
    | refreshing =>
      cases hact
      exact quiet h
    | answered | refreshAnswered | refreshed | returned | rejected => cases hact
  | receive =>
    cases before with
    | answered denied again =>
      have hreturned : ∃ (again : Bool) (last : Option Bool), answers = (if again then [true] else []) ++ last.toList :=
        h.settled
      cases denied <;> cases again <;> cases caller <;> cases hact <;> first | exact quiet hreturned | exact quiet h
    | refreshAnswered token => cases token <;> cases hact <;> exact quiet h
    | asking | refreshing | refreshed | returned | rejected => cases hact
  | lose =>
    cases before with
    | asking | answered =>
      cases hact
      exact quiet h.settled
    | refreshing | refreshAnswered =>
      cases hact
      exact quiet h
    | refreshed | returned | rejected => cases hact
  | resume =>
    cases before with
    | refreshed ok =>
      cases caller with
      | authFetch request =>
        cases ok with
        | true =>
          cases hact
          exact quiet h
        | false =>
          cases hact
          exact quiet h.settled
      | htmx | timer => cases ok <;> cases hact
    | asking | answered | refreshing | refreshAnswered | returned | rejected => cases hact

/-- Every call has been answered as its stage says, and nothing else has been answered. -/
structure Tracked (s : Browser σ ρ) : Prop where
  answers : Each (fun id call => Answers ((s.requests id).map Handled.denied) call) s.calls
  known : ∀ handled ∈ s.handled, handled.call < s.calls.length

theorem requests_unknown {id : ℕ} (h : s.Tracked) (hid : s.calls.length ≤ id) : s.requests id = [] :=
  List.filter_eq_nil_iff.mpr fun handled hmem hsame => by
    have hlt := h.known handled hmem
    rw [beq_iff_eq.mp hsame] at hlt
    omega

theorem start_tracked (h : s.Tracked) {caller : Caller ρ} {stage : Stage} (hfresh : Answers [] { caller, stage : Call ρ }) :
    (s.start caller stage).Tracked where
  answers := by
    refine h.answers.append ?_
    rw [requests_unknown h le_rfl]
    exact hfresh
  known handled hmem := by
    simp only [start, List.length_append, List.length_singleton]
    exact Nat.lt_succ_of_lt (h.known handled hmem)

theorem step_tracked {e : Event σ ρ} (h : s.Tracked) (hstep : s.step server e = some t) : t.Tracked := by
  cases e with
  | fetch | htmx | timer =>
    cases hstep
    exact start_tracked h rfl
  | call id progress =>
    obtain ⟨call, s', stage, hcall, hact, rfl⟩ := step_call hstep
    obtain ⟨more, hhandled, hmore, hanswers⟩ := act_answers hact (h.answers id call hcall)
    constructor
    · refine Each.set h.answers (fun other found hne hfound => ?_) ?_
      · have hothers : more.filter (fun handled => handled.call == other) = [] :=
          List.filter_eq_nil_iff.mpr fun handled hmem => by simp [hmore handled hmem, Ne.symm hne]
        simpa only [requests, hhandled, List.filter_append, hothers, List.append_nil] using hfound
      · have hown : more.filter (fun handled => handled.call == id) = more :=
          List.filter_eq_self.mpr fun handled hmem => by simp [hmore handled hmem]
        simpa only [requests, hhandled, List.filter_append, hown, List.map_append] using hanswers
    · intro handled hmem
      rw [List.length_set]
      rcases List.mem_append.mp (hhandled ▸ hmem) with hold | hnew
      · exact h.known handled hold
      · rw [hmore handled hnew]
        exact (List.getElem?_eq_some_iff.mp hcall).1
  | store token | elapse server =>
    cases hstep
    exact ⟨h.answers, h.known⟩
  | checkAuth path =>
    cases hstep
    split <;> exact ⟨h.answers, h.known⟩

theorem opened_tracked (server : σ) (token : Option String) : Tracked (ρ := ρ) { server, token } where
  answers id call hcall := by cases hcall
  known handled hmem := absurd hmem List.not_mem_nil

/-- The server gets a call at most twice, and the second time only after it has answered 401. -/
theorem requests_of_run {first : σ} {token : Option String} {es : List (Event σ ρ)}
    (hvisit : Visits (step server) { server := first, token } es s) (id : ℕ) :
    (s.requests id).length ≤ 2 ∧ ∀ handled ∈ (s.requests id).dropLast, handled.denied = true := by
  have htracked : s.Tracked := invariant_of_steps step_tracked (opened_tracked first token) hvisit
  rcases Nat.lt_or_ge id s.calls.length with hlt | hge
  · obtain ⟨again, last, hanswers⟩ := (htracked.answers id _ (List.getElem?_eq_getElem hlt)).settled
    have hlength : (s.requests id).length = ((if again then [true] else []) ++ last.toList).length := by
      rw [← hanswers, List.length_map]
    refine ⟨by rw [hlength]; cases again <;> cases last <;> simp, fun handled hmem => ?_⟩
    have hdenied : handled.denied ∈ ((if again then [true] else []) ++ last.toList).dropLast := by
      rw [← hanswers, ← List.map_dropLast]
      exact List.mem_map_of_mem hmem
    cases again <;> cases last <;> simp_all
  · rw [requests_unknown htracked hge]
    exact ⟨by simp, by simp⟩

/-- A request that is recorded is the one under way, served in the state the server is in. -/
theorem act_handled {id : ℕ} {call : Call ρ} {progress : Progress} {s' : Browser σ ρ} {stage : Stage}
    (hact : s.act server id call progress = some (s', stage)) :
    s'.handled = s.handled ∨ ∃ token again request, progress = .serve ∧ call.stage = .asking token again ∧
      call.caller.request = some request ∧ s'.handled = s.handled ++ [s.serve server id token request] := by
  obtain ⟨caller, before⟩ := call
  cases progress with
  | serve =>
    cases before with
    | asking token again =>
      obtain ⟨request, hrequest, hact⟩ := Option.map_eq_some_iff.mp hact
      cases hact
      exact .inr ⟨token, again, request, rfl, rfl, hrequest, rfl⟩
    | refreshing =>
      cases hact
      exact .inl rfl
    | answered | refreshAnswered | refreshed | returned | rejected => cases hact
  | receive =>
    cases before with
    | answered denied again => cases denied <;> cases again <;> cases caller <;> cases hact <;> exact .inl rfl
    | refreshAnswered token => cases token <;> cases hact <;> exact .inl rfl
    | asking | refreshing | refreshed | returned | rejected => cases hact
  | lose =>
    cases before <;> cases hact <;> exact .inl rfl
  | resume =>
    cases before with
    | refreshed ok => cases caller <;> cases ok <;> cases hact <;> exact .inl rfl
    | asking | answered | refreshing | refreshAnswered | returned | rejected => cases hact

/-- `P` holds of every request that the server has got. -/
theorem handled_of_step {P : Handled σ ρ → Prop} {e : Event σ ρ} (hstep : s.step server e = some t)
    (hserved : ∀ id call token again request, e = .call id .serve → s.calls[id]? = some call →
      call.stage = .asking token again → call.caller.request = some request → P (s.serve server id token request))
    (h : ∀ handled ∈ s.handled, P handled) : ∀ handled ∈ t.handled, P handled := by
  cases e with
  | fetch | htmx | timer | store | elapse =>
    cases hstep
    exact h
  | call id progress =>
    obtain ⟨call, s', stage, hcall, hact, rfl⟩ := step_call hstep
    dsimp only
    rcases act_handled hact with hsame | ⟨token, again, request, rfl, hstage, hrequest, hnew⟩
    · rw [hsame]
      exact h
    · rw [hnew]
      intro handled hmem
      rcases List.mem_append.mp hmem with hold | hlast
      · exact h handled hold
      · rw [List.mem_singleton.mp hlast]
        exact hserved id call token again request rfl hcall hstage hrequest
  | checkAuth path =>
    cases hstep
    split <;> exact h

end Browser
end Machine

/-! ## Calls that change the house -/

/-- The exception is answered with the status 401. -/
def denied {α : Type} : Except PyError α → Bool
  | .error (.app e) => e.statusCode == 401
  | _ => false

theorem denied_error {α β : Type} (e : PyError) :
    denied (.error e : Except PyError α) = denied (.error e : Except PyError β) := by
  cases e <;> rfl

/-- The house, and the calls to the database that fail now. -/
abbrev Serving (σ R T : Type) := Cached (House σ T) R × (DbCall → Option PyError)

section House
variable {σ R T : Type} [DeviceReading R] (a : Setup σ R T)
  (refresh : Serving σ R T → Option String × Serving σ R T)

/-- Operations in the house; the refresh is left open. -/
def houseServer : Server (Serving σ R T) (String → Operation σ) where
  handle token operation s :=
    let (result, after) := a.program s.2 (operation token) { s.1 with world := s.1.world.failing s.2 }
    (denied result, (after, s.2))
  refresh

theorem houseServer_denied {token : String} {operation : String → Operation σ} {s : Serving σ R T}
    (hdenied : ((houseServer a refresh).handle token operation s).1 = true) :
    s.1.world.SameTables ((houseServer a refresh).handle token operation s).2.1.world := by
  have hsame : s.1.world.SameTables (s.1.world.failing s.2) := ⟨rfl, rfl, rfl, rfl, rfl, rfl⟩
  rcases hrun : a.program s.2 (operation token) { s.1 with world := s.1.world.failing s.2 } with ⟨e | _, after⟩
  · simp only [houseServer, hrun]
    exact hsame.trans (Setup.program_onError _ _ _ _ hrun)
  · simp [houseServer, hrun, denied] at hdenied

/-- No exception of a device is answered 401. -/
def NeverDenies (provider : Provider σ R) : Prop :=
  ∀ ain command w, denied (provider.send ain command w).1 = false

omit [DeviceReading R] in
variable {a} in
/-- A command that is answered 401 has not reached the devices. -/
theorem deviceControl_denied (hprovider : NeverDenies a.env.provider) {fails : DbCall → Option PyError} {token ain : String}
    {command : Command} {payload : PyDict} {s : Cached (House σ T) R}
    (hdenied : denied (a.deviceControl token ain (DeviceService.control (a.houseEnv fails) ain command) payload s).1 = true) :
    (a.deviceControl token ain (DeviceService.control (a.houseEnv fails) ain command) payload s).2.world.world =
      s.world.world := by
  unfold Setup.deviceControl at hdenied ⊢
  rcases huser : House.currentUser a.jwt token .user s.world with ⟨err | id, h₁⟩
  · rw [Eff.bind_of_error (Setup.outside_of_run huser)]
    obtain ⟨-, rfl⟩ := Prod.mk.inj huser
    rfl
  · rw [Eff.bind_of_ok (Setup.outside_of_run huser)] at hdenied
    have hundenied := hprovider (.str ain) command h₁.world
    rcases hsent : a.env.provider.send (.str ain) command h₁.world with ⟨err | done, world⟩
    · -- The exception of the device is the one that the handler ends with.
      rw [hsent] at hundenied
      rw [Eff.bind_of_error (Setup.control_of_error (s := { s with world := h₁ }) (House.onWorld_of_run hsent))] at hdenied
      exact absurd hdenied (Bool.eq_false_iff.mp hundenied)
    · rw [Eff.bind_of_ok (Setup.control_of_ok (s := { s with world := h₁ }) (House.onWorld_of_run hsent))] at hdenied
      cases hdenied

/-- What a request that is answered 401 leaves as it was: the tables, and the devices if it is a command to one. -/
structure Ineffective (operation : Operation σ) (h h' : House σ T) : Prop where
  tables : h.SameTables h'
  devices : operation.command.isSome = true → h'.world = h.world

theorem houseServer_ineffective (hprovider : NeverDenies a.env.provider) {token : String}
    {operation : String → Operation σ} {s : Serving σ R T}
    (hdenied : ((houseServer a refresh).handle token operation s).1 = true) :
    Ineffective (operation token) s.1.world ((houseServer a refresh).handle token operation s).2.1.world := by
  refine ⟨houseServer_denied a refresh hdenied, fun hcommand => ?_⟩
  have hdevice : ∀ {bearer ain command payload}, a.program s.2 (operation token) =
      a.deviceControl bearer ain (DeviceService.control (a.houseEnv s.2) ain command) payload →
      ((houseServer a refresh).handle token operation s).2.1.world.world = s.1.world.world := by
    intro bearer ain command payload hprogram
    simp only [houseServer, hprogram] at hdenied ⊢
    exact deviceControl_denied hprovider hdenied
  cases hoperation : operation token with
  | turnOn | turnOff | setTemperature | setBrightness => exact hdevice (by rw [hoperation]; rfl)
  | discover | updateDevice | group | schedule | rule | user | job | evaluateAllRules | writeEvent | elapse =>
    rw [hoperation] at hcommand
    cases hcommand

/-- However the calls of all pages interleave with each other, with refreshes and with what others do, a call takes effect
    once: of its requests, only the last can have changed a table, or a device. -/
theorem calls_take_effect_once (hprovider : NeverDenies a.env.provider) {first : Serving σ R T} {token : Option String}
    {es : List (Event (Serving σ R T) (String → Operation σ))} {s : Browser (Serving σ R T) (String → Operation σ)}
    (hvisit : Visits (Browser.step (houseServer a refresh)) { server := first, token } es s) (id : ℕ) :
    (s.requests id).length ≤ 2 ∧ ∀ handled ∈ (s.requests id).dropLast,
      Ineffective (handled.request handled.token) handled.before.1.world handled.after.1.world := by
  obtain ⟨hlength, hdenied⟩ := Browser.requests_of_run hvisit id
  have hserved : ∀ handled ∈ s.handled, handled.denied = true →
      Ineffective (handled.request handled.token) handled.before.1.world handled.after.1.world := by
    refine invariant_of_steps (I := fun s => ∀ handled ∈ s.handled, handled.denied = true →
      Ineffective (handled.request handled.token) handled.before.1.world handled.after.1.world)
      (fun hs hstep => ?_) (by simp) hvisit
    exact Browser.handled_of_step hstep (fun _ _ _ _ _ _ _ _ _ => houseServer_ineffective a refresh hprovider) hs
  refine ⟨hlength, fun handled hmem => hserved handled ?_ (hdenied handled hmem)⟩
  exact List.mem_of_mem_filter (List.mem_of_mem_dropLast hmem)

end House

/-! ### An example -/

/-- The refresh hands out Anna's token. -/
def homeServer : Server (Serving MockProvider DeviceState ClockTrigger) (String → Operation MockProvider) :=
  houseServer Setup.home fun s => (some "anna's token", s)

/-- Anna switches her charger on with an old token. -/
def lateSwitch : List (Event (Serving MockProvider DeviceState ClockTrigger) (String → Operation MockProvider)) :=
  [.fetch fun token => .turnOn token "08761 0374811", .call 0 .serve, .call 0 .receive, .call 0 .serve, .call 0 .receive,
    .call 0 .resume, .call 0 .serve, .call 0 .receive]

/-- A browser with a token that has expired. -/
def lateBrowser : Browser (Serving MockProvider DeviceState ClockTrigger) (String → Operation MockProvider) where
  server := ({ world := Setup.household, cache := .empty }, fun _ => none)
  token := some "an old token"

theorem denied_bind {σ α β : Type} {m : Py σ α} {f : α → Py σ β} (hm : ∀ s, denied (m s).1 = false)
    (hf : ∀ x s, denied (f x s).1 = false) (s : σ) : denied ((m >>= f) s).1 = false := by
  have hfirst := hm s
  rcases hrun : m s with ⟨e | x, t⟩
  · rw [Eff.bind_of_error hrun]
    rw [hrun] at hfirst
    exact (denied_error e).trans hfirst
  · rw [Eff.bind_of_ok hrun]
    exact hf x t

theorem mockProvider_neverDenies : NeverDenies MockProvider.provider := by
  intro ain command
  have hdevice : ∀ w, denied (MockProvider.requireDevice ain w).1 = false := by
    cases ain with
    | str a =>
      refine denied_bind (fun _ => rfl) fun info w => ?_
      cases info <;> rfl
    | none | bool | int | float | list | dict | object => exact fun _ => rfl
  have hcapability : ∀ info capability w, denied (MockProvider.requireCapability info capability w).1 = false := by
    intro info capability w
    unfold MockProvider.requireCapability
    split <;> rfl
  cases command with
  | setSwitch on => exact denied_bind hdevice fun info => denied_bind (hcapability info _) fun _ _ => rfl
  | setTemperature celsius =>
    refine denied_bind hdevice fun info => denied_bind (hcapability info _) fun _ w => ?_
    split <;> rfl
  | setDimmer level =>
    refine denied_bind hdevice fun info => denied_bind (hcapability info _) fun _ w => ?_
    split <;> rfl

theorem lateSwitch_takes_effect_once :
    ∃ s, run (Browser.step homeServer) lateBrowser lateSwitch = some s ∧
      (s.requests 0).map Handled.denied = [true, false] ∧
      ∀ handled ∈ (s.requests 0).dropLast,
        Ineffective (handled.request handled.token) handled.before.1.world handled.after.1.world := by
  have hrun : ((run (Browser.step homeServer) lateBrowser lateSwitch).map fun s => (s.requests 0).map Handled.denied) =
      some [true, false] := by decide +kernel
  obtain ⟨s, hs, hdenied⟩ := Option.map_eq_some_iff.mp hrun
  have hvisit : Visits (Browser.step homeServer) lateBrowser lateSwitch s := ⟨lateSwitch, List.prefix_rfl, hs⟩
  exact ⟨s, hs, hdenied, (calls_take_effect_once _ _ mockProvider_neverDenies hvisit 0).2⟩

end SmartHome.Ui
