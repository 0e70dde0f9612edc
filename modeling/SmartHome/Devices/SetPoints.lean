import Mathlib.Tactic.Linarith
import Mathlib.Tactic.NormNum
import SmartHome.Lib.Run
import SmartHome.Devices.Service
import SmartHome.Providers.Contract
import SmartHome.Scheduler.Passes

/-! # The set-points that reach the hardware

In live mode three paths send commands to the FRITZ!Box: the control requests, whose bodies are checked by
their schemas, and the schedule jobs and automation rules, whose stored action is checked by nobody. -/

namespace SmartHome
open Fritz Run

/-! ## Requests -/

/-- The body of `PUT /devices/{ain}/temperature`. A bound refuses the numbers beyond it, so `nan` passes both. -/
structure SetTemperatureRequest where
  celsius : PyFloat
  ge : celsius.lt (.finite 8) = false
  le : (PyFloat.finite 28).lt celsius = false

/-- A brightness within the bounds of the schema. -/
structure SetBrightnessRequest where
  level : Int
  ge : 0 ≤ level
  le : level ≤ 255

/-- The requests that command a device. -/
inductive ControlRequest where
  | turnOn
  | turnOff
  | setTemperature (data : SetTemperatureRequest)
  | setBrightness (data : SetBrightnessRequest)

/-- The service method of a request. -/
def ControlRequest.handle {σ R : Type} (env : DeviceEnv σ R) (ain : String) : ControlRequest → Py (Cached σ R) Unit
  | turnOn => DeviceService.turnOn env ain
  | turnOff => DeviceService.turnOff env ain
  | setTemperature data => DeviceService.setTemperature env ain data.celsius
  | setBrightness data => DeviceService.setBrightness env ain data.level

/-! ## Legal commands -/

/-- The parameter of a command that sets a value is in the range of the AHA interface. -/
def Fritz.AhaCall.Legal (call : AhaCall) : Prop :=
  match call.command with
  | .sethkrtsoll => ∃ param, call.kwargs = [("param", param)] ∧ (16 ≤ param ∧ param ≤ 56 ∨ param = 253 ∨ param = 254)
  | .setlevel => ∃ level, call.kwargs = [("level", level)] ∧ 0 ≤ level ∧ level ≤ 255
  | _ => True

/-- The values that become legal parameters, or none at all. -/
def Command.Safe : Command → Prop
  | setSwitch _ => True
  | setTemperature (.finite q) => q = 0 ∨ (8 ≤ q ∧ q < 57 / 2) ∨ 32 ≤ q ∨ q * 2 ≤ -PyFloat.overflowBound
  | setTemperature _ => True
  | setDimmer level => 0 ≤ level ∧ level ≤ 255

/-- The stored action stands for no command with another value. -/
def SafeAction (actionConfig : PyDict) : Prop := ∀ command, decodeAction actionConfig = .ok (some command) → command.Safe

theorem truncate_of_nonneg {q : ℚ} (h : 0 ≤ q) : q.num.tdiv q.den = ⌊q⌋ := by
  rw [Int.tdiv_eq_ediv_of_nonneg (Rat.num_nonneg.mpr h), Rat.floor_def']

theorem truncate_of_neg {q : ℚ} (h : q < 0) : q.num.tdiv q.den ≤ 0 := by
  have hnum : 0 ≤ -q.num := by
    have := Rat.num_neg.mpr h
    omega
  have hneg : 0 ≤ (-q.num).tdiv q.den := Int.tdiv_nonneg hnum (Int.natCast_nonneg _)
  rw [Int.neg_tdiv] at hneg
  omega

/-- Below 32 degrees the parameter counts half degrees, cut towards zero. -/
theorem halfDegrees_legal_iff {q : ℚ} {param : Int} (h : q < 32) (hparam : param = (q * 2).num.tdiv (q * 2).den) :
    (16 ≤ param ∧ param ≤ 56 ∨ param = 253 ∨ param = 254) ↔ 8 ≤ q ∧ q < 57 / 2 := by
  subst hparam
  rcases lt_or_ge q 0 with hneg | hnonneg
  · have htrunc := truncate_of_neg (q := q * 2) (by linarith)
    constructor
    · omega
    · rintro ⟨hlow, -⟩
      linarith
  · rw [truncate_of_nonneg (by linarith)]
    have hbelow : ⌊q * 2⌋ < 64 := Int.floor_lt.mpr (by push_cast; linarith)
    have hlow : 16 ≤ ⌊q * 2⌋ ↔ 8 ≤ q := by
      rw [Int.le_floor]
      push_cast
      constructor <;> intro <;> linarith
    have hhigh : ⌊q * 2⌋ ≤ 56 ↔ q < 57 / 2 := by
      rw [← Int.lt_add_one_iff, Int.floor_lt]
      push_cast
      constructor <;> intro <;> linarith
    rw [hlow, hhigh]
    constructor
    · rintro (hrange | heq | heq)
      · exact hrange
      · omega
      · omega
    · exact Or.inl

namespace FritzProvider
variable {σ : Type} {box : FritzBox σ} {s t : FritzProvider σ}

theorem safe_of_unsendable {command : Command} (h : Unsendable command) : command.Safe := by
  cases command with
  | setSwitch on => trivial
  | setTemperature celsius =>
    cases celsius with
    | finite q =>
      have hinf : (PyFloat.finite q).twice = .inf true := h.resolve_left nofun
      simp only [PyFloat.twice] at hinf
      split at hinf
      · cases hinf
      split at hinf
      · next hbelow => exact Or.inr (Or.inr (Or.inr hbelow))
      · cases hinf
    | inf negative => trivial
    | nan => trivial
  | setDimmer level => exact h.elim

/-- The parameter that a temperature is encoded as is a set-point exactly if the temperature is one. -/
theorem temperatureParam_legal_iff {celsius : PyFloat} {param : Int} (hparam : temperatureParam celsius = .ok param) :
    (16 ≤ param ∧ param ≤ 56 ∨ param = 253 ∨ param = 254) ↔ (Command.setTemperature celsius).Safe := by
  cases celsius with
  | finite q =>
    rw [temperatureParam_finite] at hparam
    split at hparam
    · next hzero =>
      cases hparam
      exact iff_of_true (Or.inr (Or.inl rfl)) (Or.inl hzero)
    split at hparam
    · next hboost =>
      cases hparam
      exact iff_of_true (Or.inr (Or.inr rfl)) (Or.inr (Or.inr (Or.inl hboost)))
    · next hzero hboost =>
      have hlarge := PyFloat.overflowBound_large
      have hfinite : ¬ q * 2 ≤ -PyFloat.overflowBound := by
        intro hbelow
        have hinf : (PyFloat.finite q).twice = .inf true := by
          rw [PyFloat.twice, if_neg (by linarith), if_pos hbelow]
        rw [hinf] at hparam
        cases hparam
      rw [PyFloat.twice, if_neg (by linarith), if_neg hfinite] at hparam
      cases hparam
      rw [halfDegrees_legal_iff (not_le.mp hboost) rfl]
      simp [Command.Safe, hzero, hboost, hfinite]
  | inf negative =>
    cases negative with
    -- Minus infinity is not converted, plus infinity is above the boost.
    | true => cases hparam
    | false =>
      cases hparam
      exact iff_of_true (Or.inr (Or.inr rfl)) trivial
  | nan => cases hparam

theorem legal_iff_safe {ain : PyValue} {command : Command} {call : AhaCall} (h : ahaCall ain command = .ok call) :
    call.Legal ↔ command.Safe := by
  cases command with
  | setSwitch on =>
    cases h
    cases on <;> exact Iff.rfl
  | setTemperature celsius =>
    simp only [ahaCall] at h
    rcases hparam : temperatureParam celsius with exc | param <;> rw [hparam] at h <;> cases h
    rw [← temperatureParam_legal_iff hparam]
    simp [AhaCall.Legal]
  | setDimmer level =>
    cases h
    simp [AhaCall.Legal, Command.Safe]

/-! ## The commands of the provider -/

/-- Every set-point that was sent is legal. -/
def AllLegal (s : FritzProvider σ) : Prop := ∀ call ∈ s.sent, call.Legal

theorem legal_of_read {call : AhaCall} (h : call.command.isSet = false) : call.Legal := by
  unfold AhaCall.Legal
  split
  · next hcommand => rw [hcommand] at h; cases h
  · next hcommand => rw [hcommand] at h; cases h
  · trivial

theorem OnlyReads.allLegal_iff (h : OnlyReads s t) : AllLegal t ↔ AllLegal s := by
  obtain ⟨calls, hsent, hreads⟩ := h
  unfold AllLegal
  rw [hsent, List.forall_mem_append]
  exact and_iff_left fun call hcall => legal_of_read (hreads call hcall)

/-- A command adds an illegal AHA command exactly if its value is not safe and the box can be reached. -/
theorem allLegal_send (hs : AllLegal s) (ain : PyValue) (command : Command) :
    AllLegal ((provider box).send ain command s).2 ↔ (Reaches box s → command.Safe) := by
  by_cases hreaches : Reaches box s
  · simp only [hreaches, true_implies]
    rcases hcall : ahaCall ain command with exc | call
    · obtain ⟨world, hrun⟩ := send_of_error hreaches hcall
      rw [hrun]
      refine iff_of_true hs (safe_of_unsendable ?_)
      by_contra hsendable
      obtain ⟨call, hok⟩ := ahaCall_of_sendable ain hsendable
      rw [hok] at hcall
      cases hcall
    · obtain ⟨result, world, hrun⟩ := send_of_ahaCall hreaches hcall
      rw [hrun, ← legal_iff_safe hcall]
      unfold AllLegal
      simp only [List.forall_mem_append, List.forall_mem_singleton]
      exact and_iff_right hs
  · obtain ⟨exc, world, hrun⟩ := @send_of_not_reaches _ box s ain command hreaches
    rw [hrun]
    exact iff_of_true hs fun h => absurd h hreaches

theorem allLegal_executeAction (hs : AllLegal s) (actionConfig : PyDict) :
    AllLegal (executeAction actionConfig (provider box) s).2 ↔ (Reaches box s → SafeAction actionConfig) := by
  rw [executeAction_eq]
  unfold SafeAction
  rcases decodeAction actionConfig with e | _ | command
  · exact iff_of_true hs fun _ _ h => nomatch h
  · exact iff_of_true hs fun _ _ h => nomatch h
  · simp only [Except.ok.injEq, Option.some.injEq, forall_eq']
    exact allLegal_send hs _ command

end FritzProvider

/-! ## Runs in live mode -/

section
variable {σ R : Type}

/-- The environment in live mode: the provider is the FRITZ!Box, and the rest of the application is outside it. -/
def DeviceEnv.live (box : FritzBox σ) (env : DeviceEnv σ R) : DeviceEnv (FritzProvider σ) DeviceState where
  provider := FritzProvider.provider box
  getCurrent := FritzProvider.outside env.getCurrent
  utcnow s := env.utcnow s.world
  enabledRules := FritzProvider.outside env.enabledRules
  commitTriggered stamps := FritzProvider.outside (env.commitTriggered stamps)
  stampSchedule id := FritzProvider.outside (env.stampSchedule id)
  monotonic s := env.monotonic s.world
  activeDevices := FritzProvider.outside env.activeDevices
  saveSnapshot snapshot := FritzProvider.outside (env.saveSnapshot snapshot)
  commitSnapshots := FritzProvider.outside env.commitSnapshots

/-- The provider of the FRITZ!Box, and `device_state_cache`. -/
abbrev LiveHome (σ : Type) := Cached (FritzProvider σ) DeviceState

/-- What can use the provider. A pass over the rules is given by its turns, which other events may separate. -/
inductive LiveEvent (σ : Type) where
  | request (ain : String) (body : ControlRequest)
  | job (scheduleId : Uuid) (actionConfig : PyDict)
  | turn (rule : AutomationRule)
  | poll
  | getLiveState (ain : String)
  | discover
  | elsewhere (change : σ → σ)

namespace LiveHome
variable {box : FritzBox σ} {env : DeviceEnv σ R} {s t : LiveHome σ}

/-- What an event runs. -/
def program (env : DeviceEnv (FritzProvider σ) DeviceState) : LiveEvent σ → Py (LiveHome σ) Unit
  | .request ain body => body.handle env ain
  | .job scheduleId actionConfig => Cached.outside (jobFunc env scheduleId actionConfig)
  | .turn rule => do let _ ← Cached.outside ((fireRule env.toEnv rule).attempt fun _ => pure none)
  | .poll => pollAllDevices env
  | .getLiveState ain => do let _ ← DeviceService.getLiveState env ain
  | .discover => do let _ ← Cached.outside env.provider.discoverDevices
  | .elsewhere change => Eff.modify fun s => { s with world := { s.world with world := change s.world.world } }

/-- What an event does to the house and the box. -/
def step (box : FritzBox σ) (env : DeviceEnv σ R) (s : LiveHome σ) (e : LiveEvent σ) : Option (LiveHome σ) :=
  some (program (env.live box) e s).2

/-- A job that runs, and a rule whose trigger holds at its turn, has a safe action, or the box cannot be reached. -/
def Safe (box : FritzBox σ) (env : DeviceEnv σ R) (s : LiveHome σ) : LiveEvent σ → Prop
  | .job _ actionConfig => FritzProvider.Reaches box s.world → SafeAction actionConfig
  | .turn rule => ∀ t, evaluateRule (env.live box).toEnv rule s.world = (.ok true, t) → FritzProvider.Reaches box t →
      SafeAction rule.actionConfig
  | _ => True

/-- The loop of a pass over the rules is the run of its turns. -/
theorem run_turns (box : FritzBox σ) (env : DeviceEnv σ R) (s : LiveHome σ) (rules : List AutomationRule) :
    run (step box env) s (rules.map .turn) =
      some { s with world := (evaluateRules (env.live box).toEnv rules s.world).2 } := by
  induction rules generalizing s with
  | nil => rfl
  | cons rule rules ih =>
    have hturn : (program (env.live box) (.turn rule) s).2 =
        { s with world := (fireRule (env.live box).toEnv rule s.world).2 } := by
      simp only [program, Eff.bind_run, Cached.outside, Eff.zoom, Eff.attempt_pure_run]
      rfl
    rw [List.map_cons, run, step, Option.bind_some, hturn, ih, evaluateRules_run, evaluateRules_run]
    rfl

/-- No command is sent that changes a device. -/
abbrev KeepsReading {α : Type} (m : Py (LiveHome σ) α) : Prop :=
  Eff.Keeps (fun s t => FritzProvider.OnlyReads s.world t.world) m

theorem keepsReading_bind {α β : Type} {m : Py (LiveHome σ) α} {f : α → Py (LiveHome σ) β} (hm : KeepsReading m)
    (hf : ∀ a, KeepsReading (f a)) : KeepsReading (m >>= f) :=
  Eff.Keeps.bind (R := fun s t : LiveHome σ => FritzProvider.OnlyReads s.world t.world) FritzProvider.onlyReads_trans hm hf

theorem keepsReading_pure {α : Type} (a : α) : KeepsReading (pure a : Py (LiveHome σ) α) :=
  Eff.Keeps.pure (fun s => FritzProvider.onlyReads_refl s.world) a

theorem keepsReading_attempt {α : Type} {m : Py (LiveHome σ) α} {handler : PyError → Py (LiveHome σ) α}
    (hm : KeepsReading m) (hh : ∀ e, KeepsReading (handler e)) : KeepsReading (m.attempt handler) :=
  Eff.Keeps.attempt (R := fun s t : LiveHome σ => FritzProvider.OnlyReads s.world t.world)
    FritzProvider.onlyReads_trans hm hh

theorem keepsReading_outside {α : Type} {m : Py (FritzProvider σ) α} (hm : FritzProvider.KeepsReading m) :
    KeepsReading (Cached.outside m) := fun s => hm s.world

theorem keepsReading_pollDevices (now : DateTime) (devices : List Device) :
    KeepsReading (DeviceService.pollDevices (env.live box) now devices) := by
  induction devices with
  | nil => exact keepsReading_pure 0
  | cons device devices ih =>
    refine keepsReading_bind (keepsReading_attempt ?_ fun _ => keepsReading_pure 0) fun one =>
      keepsReading_bind ih fun rest => keepsReading_pure _
    refine keepsReading_bind (keepsReading_outside (FritzProvider.getDeviceState_keepsReading box _)) fun state => ?_
    refine keepsReading_bind (fun s => FritzProvider.onlyReads_refl s.world) fun _ => ?_
    exact keepsReading_bind (keepsReading_outside (FritzProvider.outside_keepsReading _)) fun _ => keepsReading_pure 1

theorem keepsReading_poll : KeepsReading (program (env.live box) .poll) := by
  refine keepsReading_attempt (keepsReading_bind ?_ fun count => ?_) fun _ => keepsReading_pure ()
  · refine keepsReading_bind (keepsReading_outside (FritzProvider.outside_keepsReading _)) fun devices => ?_
    refine keepsReading_bind (fun s => FritzProvider.onlyReads_refl s.world) fun now => ?_
    exact keepsReading_pollDevices now devices
  · exact keepsReading_outside (FritzProvider.outside_keepsReading _)

theorem keepsReading_getLiveState (ain : String) : KeepsReading (program (env.live box) (.getLiveState ain)) := by
  refine keepsReading_bind (fun s => ?_) fun _ => keepsReading_pure ()
  unfold DeviceService.getLiveState
  rcases hlookup : s.cache.lookup ((env.live box).monotonic s.world) (stateKey ain) with _ | state
  · rw [Cached.getOrFetch_of_fetch hlookup]
    have hread := FritzProvider.getDeviceState_keepsReading box (.str ain) s.world
    rcases hrun : (env.live box).provider.getDeviceState (.str ain) s.world with ⟨e | state, w⟩ <;>
      rw [show FritzProvider.getDeviceState box (.str ain) s.world = _ from hrun] at hread <;> exact hread
  · rw [Cached.getOrFetch_of_lookup hlookup]
    exact FritzProvider.onlyReads_refl s.world

theorem control_world (env : DeviceEnv (FritzProvider σ) DeviceState) (ain : String) (command : Command)
    (s : LiveHome σ) :
    (DeviceService.control env ain command s).2.world = (env.provider.send (.str ain) command s.world).2 := by
  simp only [DeviceService.control, Eff.bind_run, Cached.outside, Eff.zoom]
  rcases env.provider.send (.str ain) command s.world with ⟨e | _, w⟩ <;> rfl

theorem allLegal_request (hs : FritzProvider.AllLegal s.world) (ain : String) (body : ControlRequest) :
    FritzProvider.AllLegal (program (env.live box) (.request ain body) s).2.world := by
  have hsafe : ∀ command : Command, command.Safe →
      FritzProvider.AllLegal (DeviceService.control (env.live box) ain command s).2.world := by
    intro command hcommand
    rw [control_world]
    exact (FritzProvider.allLegal_send hs _ command).mpr fun _ => hcommand
  cases body with
  | turnOn => exact hsafe (.setSwitch true) trivial
  | turnOff => exact hsafe (.setSwitch false) trivial
  | setTemperature data =>
    refine hsafe (.setTemperature data.celsius) ?_
    rcases data with ⟨q | negative | _, hge, hle⟩
    · have hlow : 8 ≤ q := by simpa [PyFloat.lt] using hge
      have hhigh : q ≤ 28 := by simpa [PyFloat.lt] using hle
      exact Or.inr (Or.inl ⟨hlow, by linarith⟩)
    · trivial
    · trivial
  | setBrightness data => exact hsafe (.setDimmer data.level) ⟨data.ge, data.le⟩

theorem allLegal_job_iff (hs : FritzProvider.AllLegal s.world) (scheduleId : Uuid) (actionConfig : PyDict) :
    FritzProvider.AllLegal (program (env.live box) (.job scheduleId actionConfig) s).2.world ↔
      (FritzProvider.Reaches box s.world → SafeAction actionConfig) := by
  rw [← FritzProvider.allLegal_executeAction hs actionConfig]
  exact (FritzProvider.onlyReads_bind _ (fun _ => FritzProvider.outside_keepsReading _) s.world).allLegal_iff

theorem allLegal_turn_iff (hs : FritzProvider.AllLegal s.world) (rule : AutomationRule) :
    FritzProvider.AllLegal (program (env.live box) (.turn rule) s).2.world ↔ Safe box env s (.turn rule) := by
  have hworld : (program (env.live box) (.turn rule) s).2.world = (fireRule (env.live box).toEnv rule s.world).2 := by
    simp only [program, Eff.bind_run, Cached.outside, Eff.zoom, Eff.attempt_pure_run]
    rfl
  have hreads : FritzProvider.KeepsReading (evaluateRule (env.live box).toEnv rule) :=
    Env.Keeps.evaluateRule_of_reads FritzProvider.onlyReads_refl (fun _ _ _ => FritzProvider.onlyReads_trans)
      (FritzProvider.getDeviceState_keepsReading box) (FritzProvider.outside_keepsReading _) rule
  rw [hworld]
  by_cases htriggers : Triggers (env.live box).toEnv rule s.world
  · obtain ⟨t, ht⟩ := htriggers
    have hlegal : FritzProvider.AllLegal t := by
      have hread := hreads s.world
      rw [ht] at hread
      exact hread.allLegal_iff.mpr hs
    have hstate : (fireRule (env.live box).toEnv rule s.world).2 =
        (executeAction rule.actionConfig (FritzProvider.provider box) t).2 := by
      rw [fireRule_of_triggers ht]
      rcases hrun : executeAction rule.actionConfig (FritzProvider.provider box) t with ⟨e | _, u⟩ <;>
        simp only [DeviceEnv.live, hrun]
    rw [hstate, FritzProvider.allLegal_executeAction hlegal]
    simp only [Safe, ht, Prod.mk.injEq, true_and, forall_eq']
  · rw [(fireRule_of_not_triggers htriggers).1]
    exact iff_of_true ((hreads s.world).allLegal_iff.mpr hs) fun t ht => absurd ⟨t, ht⟩ htriggers

/-- A step sends an illegal command exactly if it is a job or a turn with an action that is not safe. -/
theorem allLegal_step_iff {e : LiveEvent σ} (hs : FritzProvider.AllLegal s.world) (hstep : step box env s e = some t) :
    FritzProvider.AllLegal t.world ↔ Safe box env s e := by
  cases hstep
  cases e with
  | request ain body => exact iff_of_true (allLegal_request hs ain body) trivial
  | job scheduleId actionConfig => exact allLegal_job_iff hs scheduleId actionConfig
  | turn rule => exact allLegal_turn_iff hs rule
  | poll => exact iff_of_true ((keepsReading_poll s).allLegal_iff.mpr hs) trivial
  | getLiveState ain => exact iff_of_true ((keepsReading_getLiveState ain s).allLegal_iff.mpr hs) trivial
  | discover =>
    have hreads : KeepsReading (program (env.live box) .discover) :=
      keepsReading_bind (keepsReading_outside (FritzProvider.discoverDevices_keepsReading box)) fun _ =>
        keepsReading_pure ()
    exact iff_of_true ((hreads s).allLegal_iff.mpr hs) trivial
  | elsewhere change => exact iff_of_true hs trivial

/-- In a run in live mode every command that sets a value is legal exactly if every action is safe when its job
    runs or its rule fires. -/
theorem set_points_legal_iff (box : FritzBox σ) (env : DeviceEnv σ R) (s : LiveHome σ) (es : List (LiveEvent σ))
    (hs : FritzProvider.AllLegal s.world) :
    (∀ t, Visits (step box env) s es t → FritzProvider.AllLegal t.world) ↔ Meets (step box env) (Safe box env) s es :=
  invariant_iff_meets (I := fun s : LiveHome σ => FritzProvider.AllLegal s.world) (fun _ _ => ⟨_, rfl⟩) allLegal_step_iff hs

/-! ### Runs -/

/-- An application without rules and devices around the box. -/
def bareEnv : DeviceEnv (List RawDevice) DeviceState where
  provider :=
    { discoverDevices := pure []
      getDeviceState := fun ain => pure { ain := ain.text }
      setSwitch := fun _ _ => pure ()
      setTemperature := fun _ _ => pure ()
      setDimmer := fun _ _ => pure () }
  getCurrent := pure none
  utcnow _ := 0
  enabledRules := pure []
  commitTriggered _ := pure ()
  stampSchedule _ := pure ()
  monotonic _ := 0
  activeDevices := pure []
  saveSnapshot _ := pure ()
  commitSnapshots := pure ()

/-- The action that heats to so many degrees. -/
def heatTo (celsius : ℚ) : PyDict :=
  [("ain", .str "09995 0123456"), ("action", .str "temperature"), ("value", .float (.finite celsius))]

/-- A house with an empty box. -/
def bareHome : LiveHome (List RawDevice) := { world := { world := [] }, cache := .empty }

theorem decodeAction_heatTo (celsius : ℚ) :
    decodeAction (heatTo celsius) = .ok (some (.setTemperature (.finite celsius))) := rfl

/-- A job that heats to 30 degrees sends the parameter 60. -/
theorem heating_to_thirty_is_illegal :
    FritzProvider.AllLegal bareHome.world ∧
      ¬ ∀ t, Visits (step tableBox bareEnv) bareHome [.job 1 (heatTo 30)] t → FritzProvider.AllLegal t.world := by
  have hlegal : FritzProvider.AllLegal bareHome.world := fun call hcall => nomatch hcall
  refine ⟨hlegal, fun h => ?_⟩
  have hsafe : Safe tableBox bareEnv bareHome (.job 1 (heatTo 30)) := (allLegal_step_iff hlegal rfl).mp
    (h _ ⟨[.job 1 (heatTo 30)], List.prefix_rfl, rfl⟩)
  have hvalue : Command.Safe (.setTemperature (.finite 30)) := hsafe (Or.inr rfl) _ (decodeAction_heatTo 30)
  have hlarge := PyFloat.overflowBound_large
  rcases hvalue with hzero | ⟨-, hhigh⟩ | hboost | hbelow
  · norm_num at hzero
  · norm_num at hhigh
  · norm_num at hboost
  · linarith

/-- A discovery, a job that heats, and a request. -/
def heatingToTwenty : List (LiveEvent (List RawDevice)) :=
  [.discover, .job 1 (heatTo 20), .request "09995 0123456" .turnOn]

theorem heating_to_twenty_is_legal :
    Meets (step tableBox bareEnv) (Safe tableBox bareEnv) bareHome heatingToTwenty ∧
      ∀ t, Visits (step tableBox bareEnv) bareHome heatingToTwenty t → FritzProvider.AllLegal t.world := by
  have hsafe : Meets (step tableBox bareEnv) (Safe tableBox bareEnv) bareHome heatingToTwenty := by
    refine ⟨trivial, fun t _ => ⟨fun _ command hcommand => ?_, fun t _ => ⟨trivial, fun t _ => trivial⟩⟩⟩
    obtain rfl : Command.setTemperature (.finite 20) = command :=
      Option.some.inj (Except.ok.inj ((decodeAction_heatTo 20).symm.trans hcommand))
    exact Or.inr (Or.inl ⟨by norm_num, by norm_num⟩)
  exact ⟨hsafe, (set_points_legal_iff tableBox bareEnv bareHome _ fun call hcall => nomatch hcall).mpr hsafe⟩

end LiveHome
end
end SmartHome
