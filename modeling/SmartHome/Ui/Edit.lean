import Mathlib.Data.List.Perm.Subperm
import Mathlib.Data.List.TakeWhile
import SmartHome.Lib.Decimal
import SmartHome.Scheduler.Requests
import SmartHome.Scheduler.Rules
import SmartHome.Ui.Forms

/-! # The edit dialogs

`startEditSchedule`, `saveSchedule`, `startEditRule` and `saveRule` of `schedules/index.html`, and what is left
of a stored row after the dialog was opened and saved without a change; the request of a schedule goes through
`update_schedule` with its job sync. Stored values are JSON values; their numbers are exact, and of the values that are
converted to text only the integers and the texts are modelled. -/

namespace SmartHome

/-! ## Objects -/

theorem PyDict.lookup_of_mem {d : PyDict} (hkeys : (d.map Prod.fst).Nodup) {key : String} {v : PyValue}
    (h : (key, v) ∈ d) : d.lookup key = some v := by
  obtain ⟨before, after, rfl⟩ := List.append_of_mem h
  rw [List.map_append, List.nodup_append] at hkeys
  refine List.lookup_eq_some_iff.mpr ⟨before, after, rfl, fun item hitem => ?_⟩
  have hne : item.1 ≠ key := hkeys.2.2 item.1 (List.mem_map_of_mem hitem) key (by simp)
  simpa using hne.symm

theorem PyDict.mem_of_lookup {d : PyDict} {key : String} {v : PyValue} (h : d.lookup key = some v) : (key, v) ∈ d := by
  obtain ⟨before, after, rfl, -⟩ := List.lookup_eq_some_iff.mp h
  simp

/-- Objects with the same items, in whatever order their keys stand. -/
theorem PyDict.perm_iff {d e : PyDict} (hd : (d.map Prod.fst).Nodup) (he : (e.map Prod.fst).Nodup) :
    d.Perm e ↔ d.length = e.length ∧ ∀ item ∈ e, d.lookup item.1 = some item.2 := by
  constructor
  · intro h
    exact ⟨h.length_eq, fun item hitem => lookup_of_mem hd (h.mem_iff.mpr hitem)⟩
  · rintro ⟨hlength, hlookup⟩
    have hsubset : e ⊆ d := fun item hitem => mem_of_lookup (hlookup item hitem)
    have hsub : e.Subperm d := List.subperm_of_subset (List.Nodup.of_map _ he) hsubset
    exact (hsub.perm_of_length_le hlength.le).symm

namespace Ui

/-! ## JavaScript -/

/-- `Boolean(v)`. -/
def toBoolean : PyValue → Bool
  | .list _ | .dict _ => true
  | .float .nan => false
  | v => v.truthy

/-- `v || w`. -/
def logicalOr (v w : PyValue) : PyValue := if toBoolean v then v else w

/-- `v ?? w`. -/
def nullish (v w : PyValue) : PyValue := if v.isNone then w else v

/-- `String(v)` of a number, a text or a truth value. -/
def stringOf : PyValue → String
  | .str s => s
  | .int z => toString z
  | .bool b => if b then "true" else "false"
  | _ => ""

/-- `text.padStart(2, '0')`; a length counts UTF-16 units. -/
def padStart (text : String) : List Char :=
  List.replicate (2 - (text.toList.map fun c => if c.toNat < 65536 then 1 else 2).sum) '0' ++ text.toList

/-! ## The dialogs -/

/-- `editScheduleForm`. -/
structure EditScheduleForm where
  name : String
  triggerType : String
  triggerTime : String
  intervalMinutes : PyValue
  deviceId : PyValue
  deviceAction : PyValue

/-- `${h}:${m}` of a trigger. -/
def timeText (cfg : PyDict) (hour : Int) : String :=
  String.ofList (padStart (stringOf (nullish (cfg.get "hour") (.int hour))) ++
    ':' :: padStart (stringOf (nullish (cfg.get "minute") (.int 0))))

/-- `startEditSchedule`. -/
def startEditSchedule (schedule : Schedule) : EditScheduleForm where
  name := schedule.name
  triggerType := schedule.triggerType
  triggerTime := timeText schedule.triggerConfig 7
  intervalMinutes := logicalOr (schedule.triggerConfig.get "minutes") (.int 30)
  deviceId := logicalOr (schedule.actionConfig.get "ain") (.str "")
  deviceAction := logicalOr (schedule.actionConfig.get "action") (.str "turn_on")

/-- What `saveSchedule` sends. -/
def EditScheduleForm.save (s : EditScheduleForm) : UpdatePayload where
  name := s.name
  triggerConfig :=
    if s.triggerType = "cron" then hourMinute (orElse s.triggerTime "07:00")
    else [("minutes", logicalOr s.intervalMinutes (.int 30))]
  actionConfig := [("ain", s.deviceId), ("action", s.deviceAction)]

/-- `editRuleForm`. -/
structure EditRuleForm where
  name : String
  triggerType : String
  triggerTime : String
  triggerDeviceId : PyValue
  triggerState : PyValue
  deviceId : PyValue
  deviceAction : PyValue

/-- `startEditRule`. -/
def startEditRule (rule : RuleRecord) : EditRuleForm where
  name := rule.name
  triggerType := rule.triggerType
  triggerTime := timeText rule.triggerConfig 20
  triggerDeviceId := logicalOr (rule.triggerConfig.get "ain") (.str "")
  triggerState := logicalOr (rule.triggerConfig.get "state") (.str "on")
  deviceId := logicalOr (rule.actionConfig.get "ain") (.str "")
  deviceAction := logicalOr (rule.actionConfig.get "action") (.str "turn_on")

/-- What `saveRule` sends. -/
def EditRuleForm.save (rule : EditRuleForm) : UpdatePayload where
  name := rule.name
  triggerConfig :=
    if rule.triggerType = "time" then hourMinute (orElse rule.triggerTime "20:00")
    else if rule.triggerType = "device_state" then [("ain", rule.triggerDeviceId), ("state", rule.triggerState)]
    else []
  actionConfig := [("ain", rule.deviceId), ("action", rule.deviceAction)]

/-- The forms with the choices of the page in their fields send what the pages' own forms send. -/
theorem saveSchedule_eq (s : ScheduleForm) (h : toBoolean s.intervalMinutes = s.intervalMinutes.truthy) :
    saveSchedule s = EditScheduleForm.save {
      name := s.name, triggerType := s.triggerType.value, triggerTime := s.triggerTime
      intervalMinutes := s.intervalMinutes, deviceId := .str s.deviceId, deviceAction := .str s.deviceAction.value } := by
  cases ht : s.triggerType <;>
    simp [saveSchedule, EditScheduleForm.save, scheduleTriggerConfig, ht, ScheduleTrigger.value, logicalOr, h, actionConfig]

theorem saveRule_eq (rule : RuleForm) :
    saveRule rule = EditRuleForm.save {
      name := rule.name, triggerType := rule.triggerType.value, triggerTime := rule.triggerTime
      triggerDeviceId := .str rule.triggerDeviceId, triggerState := .str rule.triggerState.value
      deviceId := .str rule.deviceId, deviceAction := .str rule.deviceAction.value } := by
  cases ht : rule.triggerType <;>
    simp [saveRule, EditRuleForm.save, ruleTriggerConfig, ht, TriggerType.value, actionConfig]

/-! ## The rows after a dialog -/

/-- The body as the endpoint of the schedules reads it. -/
def UpdatePayload.scheduleUpdate (p : UpdatePayload) : ScheduleUpdate :=
  { name := some p.name, triggerConfig := some p.triggerConfig, actionConfig := some p.actionConfig }

/-- The body as the endpoint of the rules reads it. -/
def UpdatePayload.ruleUpdate (p : UpdatePayload) : AutomationRuleUpdate :=
  { name := some p.name, triggerConfig := some p.triggerConfig, actionConfig := some p.actionConfig }

/-- The request of a dialog that was opened for a schedule and saved, when it is served. -/
def editSchedule (schedule : Schedule) (now : DateTime) : Request where
  body := .update schedule.id (startEditSchedule schedule).save.scheduleUpdate
  now

/-- The row of `updateSchedule` before its job is synchronised. -/
def editedSchedule (schedule : Schedule) : Schedule := (startEditSchedule schedule).save.scheduleUpdate.updated schedule

/-- The rule after its dialog was opened and saved. -/
def editRule (rule : RuleRecord) : RuleRecord :=
  let data := (startEditRule rule).save.ruleUpdate
  if data.changes rule then data.apply rule else rule

section
variable {T : Type} {aps : Apscheduler T} {schedule : Schedule} {now : DateTime} {s : Stores T}

/-- The job sync raises: the request is rolled back. -/
theorem editSchedule_of_raises {e : PyError} (h : Request.syncEffect aps now (editedSchedule schedule) = .error e)
    (hfind : s.rows.find schedule.id = some schedule) : ((editSchedule schedule now).handle aps s).2 = s := by
  rcases Request.handle_cases aps (editSchedule schedule now) s with ⟨-, e, hhandle⟩ | ⟨p, hplan, -⟩
  · rw [hhandle]
  · obtain ⟨-, row, hrow, f, hsync, -⟩ := (Request.plan_update_iff rfl).mp hplan
    obtain rfl := Option.some.inj (hfind.symm.trans hrow)
    cases h.symm.trans hsync

theorem editSchedule_of_syncs {f : JobEffect T} (h : Request.syncEffect aps now (editedSchedule schedule) = .ok f)
    (hfind : s.rows.find schedule.id = some schedule) :
    ((editSchedule schedule now).handle aps s).2.rows.find schedule.id = some (editedSchedule schedule) := by
  have hplan : (editSchedule schedule now).plan aps s = some
      { id := schedule.id, effect := f, row := some (editedSchedule schedule), late := none } :=
    (Request.plan_update_iff rfl).mpr ⟨by simp [Request.passes, editSchedule], schedule, hfind, f, h, rfl⟩
  rcases Request.handle_cases aps (editSchedule schedule now) s with ⟨hnone, -⟩ | ⟨p, hp, hhandle, -, hid⟩
  · cases hnone.symm.trans hplan
  · obtain rfl := Option.some.inj (hp.symm.trans hplan)
    rw [hhandle]
    exact Request.Plan.finish_find_self hid rfl

/-- The job sync of an enabled row raises when its trigger cannot be built, and no other one raises. -/
theorem syncEffect_eq_error_iff {row : Schedule} :
    (∃ e, Request.syncEffect aps now row = .error e) ↔
      row.isEnabled = true ∧ ∃ e, buildTrigger aps now row.triggerType row.triggerConfig = .error e := by
  rcases henabled : row.isEnabled with _ | _
  · simp [Request.syncEffect_of_disabled henabled]
  · rw [Request.syncEffect_of_enabled henabled, Request.registerEffect]
    rcases buildTrigger aps now row.triggerType row.triggerConfig with e | _ | trigger <;> simp

end

theorem call_bind_eq_ok {α : Type} {fails : DbCall → Option PyError} {c : DbCall} {rows rows' : List RuleRecord} {a : α}
    {f : Unit → Py (List RuleRecord) α} (h : (Tables.call fails c >>= f) rows = (.ok a, rows')) :
    f () rows = (.ok a, rows') := by
  unfold Tables.call at h
  rcases hfails : fails c with _ | e <;> rw [hfails] at h
  · exact h
  · cases h

theorem refresh_eq_ok {fails : DbCall → Option PyError} {id : Uuid} {rows rows' : List RuleRecord} {answer : RuleRecord}
    (h : AutomationRuleRepository.refresh fails id rows = (.ok answer, rows')) :
    (rows.find? fun row => row.id == id) = some answer := by
  have hread := call_bind_eq_ok h
  rw [Eff.gets_bind_run] at hread
  rcases hfind : (rows.find? fun row => row.id == id) with _ | row <;> rw [hfind] at hread <;> cases hread
  exact hfind

theorem find?_map_apply {data : AutomationRuleUpdate} {rows : List RuleRecord} {rule : RuleRecord}
    (h : (rows.find? fun row => row.id == rule.id) = some rule) :
    ((rows.map fun row => if row.id == rule.id then data.apply row else row).find? fun row => row.id == rule.id) =
      some (data.apply rule) := by
  have hid : (fun row => row.id == rule.id) ∘ (fun row => if row.id == rule.id then data.apply row else row) =
      fun row => row.id == rule.id := by
    funext row
    dsimp only [Function.comp_apply]
    split <;> rfl
  rw [List.find?_map, hid, h]
  simp

theorem getRule_eq_ok {fails : DbCall → Option PyError} {id : Uuid} {rows rows' : List RuleRecord} {rule : RuleRecord}
    (h : RuleService.getRule fails id rows = (.ok rule, rows')) :
    (rows.find? fun row => row.id == id) = some rule ∧ rows' = rows := by
  obtain ⟨found, t, hget, hmatch⟩ := Eff.bind_eq_ok.mp h
  have hread := call_bind_eq_ok hget
  rw [Eff.gets_run] at hread
  obtain ⟨hvalue, rfl⟩ := Prod.mk.inj hread
  obtain rfl := Except.ok.inj hvalue
  rcases hfind : (rows.find? fun row => row.id == id) with _ | row <;> rw [hfind] at hmatch <;> cases hmatch
  exact ⟨hfind, rfl⟩

/-- The answer to the request of the dialog, when it succeeds. -/
theorem updateRule_edit {fails : DbCall → Option PyError} {rows rows' : List RuleRecord} {rule answer : RuleRecord}
    (hfind : (rows.find? fun row => row.id == rule.id) = some rule)
    (h : RuleService.updateRule fails rule.id (startEditRule rule).save.ruleUpdate rows = (.ok answer, rows')) :
    answer = editRule rule := by
  obtain ⟨found, t, hget, hupdate⟩ := Eff.bind_eq_ok.mp h
  obtain ⟨hfound, rfl⟩ := getRule_eq_ok hget
  obtain rfl := Option.some.inj (hfind.symm.trans hfound)
  obtain ⟨_, written, hwrite, hrefresh⟩ := Eff.bind_eq_ok.mp hupdate
  have hanswer := refresh_eq_ok hrefresh
  unfold editRule
  cases hchanges : (startEditRule rule).save.ruleUpdate.changes rule with
  | false =>
    simp only [hchanges, Bool.not_false, if_true] at hwrite
    cases hwrite
    rw [hfind] at hanswer
    simpa [hchanges] using (Option.some.inj hanswer).symm
  | true =>
    simp only [hchanges, Bool.not_true, Bool.false_eq_true, if_false] at hwrite
    have hflush := call_bind_eq_ok hwrite
    rw [Eff.gets_bind_run] at hflush
    split at hflush
    · cases hflush
    split at hflush
    · cases hflush
    cases hflush
    rw [find?_map_apply hfind] at hanswer
    simpa [hchanges] using (Option.some.inj hanswer).symm

/-! ### Texts of numbers -/

theorem isWhiteSpace_of_isDigit {c : Char} (h : c.isDigit = true) : isWhiteSpace c = false := by
  obtain ⟨hlow, hhigh⟩ := Numeral.toNat_of_isDigit h
  simp only [isWhiteSpace, Numeral.isSeparator, Bool.or_eq_false_iff, Bool.and_eq_false_iff, decide_eq_false_iff_not,
    List.contains_eq_mem, List.mem_cons, List.not_mem_nil, or_false]
  omega

theorem foldl_digits (cs : List Char) (n : Nat) :
    cs.foldl (fun k c => 10 * k + (Numeral.digit c : Int)) (n : Int) = (Nat.ofDigitChars 10 cs n : Int) := by
  induction cs generalizing n with
  | nil => simp
  | cons c cs ih =>
    rw [List.foldl_cons, Nat.ofDigitChars_cons, ← ih]
    congr 1

/-- Reading a text of digits after an optional sign. -/
theorem parseInt_digits {cs : List Char} (h : ∀ c ∈ cs, c.isDigit = true) (hne : cs ≠ []) :
    parseInt cs = .int (Nat.ofDigitChars 10 cs 0) ∧ parseInt ('-' :: cs) = .int (-(Nat.ofDigitChars 10 cs 0 : Int)) := by
  have hspace : cs.dropWhile isWhiteSpace = cs := by
    cases cs with
    | nil => rfl
    | cons c cs => rw [List.dropWhile_cons_of_neg (by simp [isWhiteSpace_of_isDigit (h c (by simp))])]
  have hsign : ('-' :: cs).dropWhile isWhiteSpace = '-' :: cs := List.dropWhile_cons_of_neg (by decide)
  have htake : cs.takeWhile Char.isDigit = cs := List.takeWhile_eq_self_iff.mpr h
  have hvalue := foldl_digits cs 0
  cases cs with
  | nil => exact absurd rfl hne
  | cons c cs =>
    constructor
    · simp only [parseInt, hspace, Numeral.scanSign_digits h, htake]
      exact congrArg PyValue.int hvalue
    · simp only [parseInt, hsign, Numeral.scanSign, htake, if_true]
      exact congrArg (fun z => PyValue.int (-z)) hvalue

theorem parseInt_padStart (z : Int) : parseInt (padStart (toString z)) = .int z := by
  have hdigits := Numeral.digits_toDigits z.natAbs
  unfold padStart
  rw [Numeral.toList_toString]
  by_cases hneg : z < 0
  · rw [if_pos hneg]
    have hunits : 2 ≤ (('-' :: Nat.toDigits 10 z.natAbs).map fun c => if c.toNat < 65536 then 1 else 2).sum := by
      have hlength : 0 < (Nat.toDigits 10 z.natAbs).length := List.length_pos_iff.mpr Nat.toDigits_ne_nil
      refine le_trans ?_ (List.length_le_sum_of_one_le _ fun i hi => ?_)
      · simpa using Nat.succ_le_of_lt hlength
      · obtain ⟨c, -, rfl⟩ := List.mem_map.mp hi
        split <;> decide
    rw [Nat.sub_eq_zero_of_le hunits, List.replicate_zero, List.nil_append,
      (parseInt_digits hdigits Nat.toDigits_ne_nil).2, Nat.ofDigitChars_ten_toDigits]
    congr 1
    omega
  · rw [if_neg hneg]
    generalize 2 - ((Nat.toDigits 10 z.natAbs).map fun c => if c.toNat < 65536 then 1 else 2).sum = zeros
    have hall : ∀ c ∈ List.replicate zeros '0' ++ Nat.toDigits 10 z.natAbs, c.isDigit = true := by
      intro c hc
      rcases List.mem_append.mp hc with hc | hc
      · rw [List.eq_of_mem_replicate hc]
        decide
      · exact hdigits c hc
    rw [(parseInt_digits hall (by simp)).1, Nat.ofDigitChars_append, Nat.ofDigitChars_replicate_zero, Nat.mul_zero,
      Nat.ofDigitChars_ten_toDigits]
    congr 1
    omega

theorem colon_notMem_padStart (z : Int) : ':' ∉ padStart (toString z) := by
  intro h
  rw [padStart, Numeral.toList_toString] at h
  rcases List.mem_append.mp h with h | h
  · exact absurd (List.eq_of_mem_replicate h) (by decide)
  · have hdigits : ':' ∈ Nat.toDigits 10 z.natAbs := by
      split at h
      · exact (List.mem_cons.mp h).resolve_left (by decide)
      · exact h
    exact absurd (Numeral.digits_toDigits _ _ hdigits) (by decide)

theorem parseInt_cases (cs : List Char) : parseInt cs = .none ∨ ∃ z, parseInt cs = .int z := by
  unfold parseInt
  dsimp only
  split
  · exact Or.inl rfl
  · exact Or.inr ⟨_, rfl⟩

theorem hourMinute_cases (text : String) :
    ∃ h m, hourMinute text = [("hour", h), ("minute", m)] ∧ (h = .none ∨ ∃ z, h = .int z) ∧ (m = .none ∨ ∃ z, m = .int z) := by
  unfold hourMinute
  split
  · exact ⟨_, _, rfl, parseInt_cases _, parseInt_cases _⟩
  · exact ⟨_, _, rfl, parseInt_cases _, Or.inl rfl⟩
  · exact ⟨_, _, rfl, Or.inl rfl, Or.inl rfl⟩

/-- The text before the first colon is the hour. -/
theorem hourMinute_hour (z : Int) (rest : List Char) :
    ∃ m, hourMinute (String.ofList (padStart (toString z) ++ ':' :: rest)) = [("hour", .int z), ("minute", m)] ∧
      (':' ∉ rest → m = parseInt rest) := by
  unfold hourMinute
  rw [String.toList_ofList, Numeral.split_append (colon_notMem_padStart z)]
  rcases hsplit : Numeral.split ':' rest with _ | ⟨m, more⟩
  · refine ⟨.none, by simp only [parseInt_padStart], fun hcolon => ?_⟩
    rw [Numeral.split_of_notMem hcolon] at hsplit
    cases hsplit
  · refine ⟨parseInt m, by simp only [parseInt_padStart], fun hcolon => ?_⟩
    rw [Numeral.split_of_notMem hcolon] at hsplit
    obtain ⟨rfl, -⟩ := List.cons.inj hsplit
    rfl

/-! ### What an update keeps -/

/-- A stored value that a sent one leaves as it is: it equals the sent one for the database, or is the sent one. -/
def Matches (sent stored : PyValue) : Prop := sent.same stored = true ∨ sent = stored

theorem sameItems_lookup {d e : PyDict} (h : PyValue.sameItems d e = true) {item : String × PyValue} (hitem : item ∈ d) :
    ∃ w, e.lookup item.1 = some w ∧ item.2.same w = true := by
  induction d with
  | nil => cases hitem
  | cons first d ih =>
    obtain ⟨key, v⟩ := first
    rw [PyValue.sameItems, Bool.and_eq_true] at h
    rcases List.mem_cons.mp hitem with rfl | hitem
    · rcases hlookup : e.lookup key with _ | w <;> rw [hlookup] at h
      · exact absurd h.1 Bool.false_ne_true
      · exact ⟨w, rfl, h.1⟩
    · exact ih h.2 hitem

/-- An object that an update with `config` leaves as it is has the keys of `config`, with matching values. -/
theorem matches_of_kept {config stored : PyDict} (hconfig : (config.map Prod.fst).Nodup)
    (hstored : (stored.map Prod.fst).Nodup) (h : config.same stored = true ∨ config.Perm stored) :
    stored.length = config.length ∧ ∀ item ∈ config, ∃ w, stored.lookup item.1 = some w ∧ Matches item.2 w := by
  rcases h with hsame | hperm
  · rw [PyDict.same, PyValue.same, Bool.and_eq_true] at hsame
    refine ⟨(eq_of_beq hsame.1).symm, fun item hitem => ?_⟩
    obtain ⟨w, hlookup, hw⟩ := sameItems_lookup hsame.2 hitem
    exact ⟨w, hlookup, Or.inl hw⟩
  · obtain ⟨hlength, hlookup⟩ := (PyDict.perm_iff hstored hconfig).mp hperm.symm
    exact ⟨hlength, fun item hitem => ⟨item.2, hlookup item hitem, Or.inr rfl⟩⟩

theorem matches_str {s : String} {w : PyValue} (h : Matches (.str s) w) : w = .str s := by
  rcases h with h | h
  · cases w with
    | str t =>
      have ht : s = t := eq_of_beq h
      rw [ht]
    | _ => cases h
  · exact h.symm

theorem matches_int_truthy {z : Int} {w : PyValue} (hz : z ≠ 0) (h : Matches (.int z) w) : toBoolean w = true := by
  rcases h with h | rfl
  · cases w with
    | bool b =>
      cases b with
      | true => rfl
      | false =>
        have hzero : (z : ℚ) = 0 := eq_of_beq h
        exact absurd (by exact_mod_cast hzero) hz
    | int y =>
      have hy : (z : ℚ) = y := eq_of_beq h
      have hne : y ≠ 0 := by
        rintro rfl
        exact hz (by exact_mod_cast hy)
      simpa [toBoolean, PyValue.truthy] using hne
    | float x =>
      cases x with
      | finite q =>
        have hq : (z : ℚ) = q := eq_of_beq h
        have hne : q ≠ 0 := by
          rintro rfl
          exact hz (by exact_mod_cast hq)
        simpa [toBoolean, PyValue.truthy] using hne
      | _ => cases h
    | _ => cases h
  · simpa [toBoolean, PyValue.truthy] using hz

/-- What a trigger may hold for an hour or a minute: nothing, a number or an expression. -/
def ClockField (v : PyValue) : Prop := v = .none ∨ (∃ z, v = .int z) ∨ ∃ s, v = .str s

theorem matches_clockField {sent stored : PyValue} (hsent : sent = .none ∨ ∃ z, sent = .int z)
    (hstored : ClockField stored) (h : Matches sent stored) : stored = sent := by
  rcases hstored with rfl | ⟨z, rfl⟩ | ⟨s, rfl⟩ <;> rcases hsent with rfl | ⟨y, rfl⟩
  · rfl
  · rcases h with h | h <;> cases h
  · rcases h with h | h <;> cases h
  · rcases h with h | h
    · have hy : (y : ℚ) = z := eq_of_beq h
      have hyz : y = z := by exact_mod_cast hy
      rw [hyz]
    · exact h.symm
  · rcases h with h | h <;> cases h
  · rcases h with h | h <;> cases h

theorem get_of_lookup {d : PyDict} {key : String} {v : PyValue} (h : d.lookup key = some v) : d.get key = v := by
  rw [PyDict.get, h, Option.getD_some]

/-! ### Fields with defaults -/

/-- What a dialog sends of an object: of each of its fields the stored value, or the default. -/
def fill (fields : List (String × PyValue)) (stored : PyDict) : PyDict :=
  fields.map fun field => (field.1, logicalOr (stored.get field.1) field.2)

/-- The object has just the keys of the fields, and values that the defaults do not replace. -/
def HasJust (fields : List (String × PyValue)) (stored : PyDict) : Prop :=
  stored.length = fields.length ∧
    ∀ field ∈ fields, ∃ v, stored.lookup field.1 = some v ∧ (toBoolean v = true ∨ v = field.2)

/-- The fields of an action, with the defaults of the dialog. -/
def actionFields : List (String × PyValue) := [("ain", .str ""), ("action", .str "turn_on")]
/-- The fields of a device trigger, with the defaults of the dialog. -/
def stateFields : List (String × PyValue) := [("ain", .str ""), ("state", .str "on")]
/-- The field of an interval, with the default of the dialog. -/
def intervalFields : List (String × PyValue) := [("minutes", .int 30)]

/-- A default that is equal to a value for the database is that value, or the value is not replaced. -/
def Definite (default : PyValue) : Prop := ∀ v, Matches default v → toBoolean v = true ∨ v = default

theorem definite_str (s : String) : Definite (.str s) := fun _ h => Or.inr (matches_str h)

theorem definite_int {z : Int} (hz : z ≠ 0) : Definite (.int z) := fun _ h => Or.inl (matches_int_truthy hz h)

/-- What a dialog asks for: every field once, each with a definite default. -/
structure FormFields (fields : List (String × PyValue)) : Prop where
  keys : (fields.map Prod.fst).Nodup
  definite : ∀ field ∈ fields, Definite field.2

theorem actionFields_form : FormFields actionFields := ⟨by simp [actionFields], by simp [actionFields, definite_str]⟩

theorem stateFields_form : FormFields stateFields := ⟨by simp [stateFields], by simp [stateFields, definite_str]⟩

theorem intervalFields_form : FormFields intervalFields :=
  ⟨by simp [intervalFields], by simp [intervalFields, definite_int]⟩

theorem map_fst_fill (fields : List (String × PyValue)) (stored : PyDict) :
    (fill fields stored).map Prod.fst = fields.map Prod.fst := by
  simp [fill, Function.comp_def]

theorem hasJust_of_kept {fields : List (String × PyValue)} {stored : PyDict} (hform : FormFields fields)
    (hstored : (stored.map Prod.fst).Nodup)
    (h : (fill fields stored).same stored = true ∨ (fill fields stored).Perm stored) : HasJust fields stored := by
  obtain ⟨hlength, hmatches⟩ := matches_of_kept (by rw [map_fst_fill]; exact hform.keys) hstored h
  refine ⟨by rw [hlength, fill, List.length_map], fun field hfield => ?_⟩
  obtain ⟨v, hlookup, hv⟩ := hmatches _ (List.mem_map_of_mem hfield)
  refine ⟨v, hlookup, ?_⟩
  rw [get_of_lookup hlookup, logicalOr] at hv
  split at hv
  · next htrue => exact Or.inl htrue
  · exact hform.definite field hfield v hv

theorem fill_perm_of_hasJust {fields : List (String × PyValue)} {stored : PyDict} (hform : FormFields fields)
    (hstored : (stored.map Prod.fst).Nodup) (h : HasJust fields stored) : (fill fields stored).Perm stored := by
  obtain ⟨hlength, hvalues⟩ := h
  refine ((PyDict.perm_iff hstored (by rw [map_fst_fill]; exact hform.keys)).mpr ⟨?_, fun item hitem => ?_⟩).symm
  · rw [hlength, fill, List.length_map]
  · obtain ⟨field, hfield, rfl⟩ := List.mem_map.mp hitem
    obtain ⟨v, hlookup, hv⟩ := hvalues field hfield
    have hkept : logicalOr v field.2 = v := by
      unfold logicalOr
      split
      · rfl
      · next hfalse => exact (hv.resolve_left hfalse).symm
    dsimp only
    rw [get_of_lookup hlookup, hkept, hlookup]

theorem fill_kept_iff {fields : List (String × PyValue)} {stored : PyDict} (hform : FormFields fields)
    (hstored : (stored.map Prod.fst).Nodup) :
    (fill fields stored).same stored = true ∨ (fill fields stored).Perm stored ↔ HasJust fields stored := by
  constructor
  · exact hasJust_of_kept hform hstored
  · intro hjust
    exact Or.inr (fill_perm_of_hasJust hform hstored hjust)

/-! ### Clock triggers -/

/-- The trigger is an hour and a minute, both numbers, and nothing else. -/
def IsClock (stored : PyDict) : Prop := ∃ h m : Int, stored.Perm [("hour", .int h), ("minute", .int m)]

/-- The trigger that a dialog sends for a clock trigger; `hour` stands for a missing hour. -/
def sendClock (stored : PyDict) (hour : Int) (default : String) : PyDict :=
  hourMinute (orElse (timeText stored hour) default)

theorem clock_keys (h m : PyValue) : (([("hour", h), ("minute", m)] : PyDict).map Prod.fst).Nodup := by simp

theorem sendClock_eq (stored : PyDict) (hour : Int) (default : String) :
    sendClock stored hour default = hourMinute (timeText stored hour) := by
  have hne : timeText stored hour ≠ "" := by
    intro h
    have hcolon := congrArg String.toList h
    simp [timeText] at hcolon
  rw [sendClock, orElse, if_pos hne]

/-- The sent hour and minute of a stored or missing hour `h` and a stored or missing minute. -/
theorem sendClock_hour {stored : PyDict} (hour : Int) {z : Int} (default : String)
    (h : nullish (stored.get "hour") (.int hour) = .int z) :
    ∃ m, sendClock stored hour default = [("hour", .int z), ("minute", m)] ∧
      ∀ y : Int, nullish (stored.get "minute") (.int 0) = .int y → m = .int y := by
  obtain ⟨m, hsend, hm⟩ := hourMinute_hour z (padStart (stringOf (nullish (stored.get "minute") (.int 0))))
  refine ⟨m, by rw [sendClock_eq, timeText, h]; exact hsend, fun y hy => ?_⟩
  rw [hy] at hm
  rw [hm (colon_notMem_padStart y), stringOf, parseInt_padStart]

theorem isClock_of_kept {stored : PyDict} {hour : Int} {default : String} (hstored : (stored.map Prod.fst).Nodup)
    (hhour : ClockField (stored.get "hour")) (hminute : ClockField (stored.get "minute"))
    (h : (sendClock stored hour default).same stored = true ∨ (sendClock stored hour default).Perm stored) :
    IsClock stored := by
  obtain ⟨v, w, hsend, hv, hw⟩ := hourMinute_cases (timeText stored hour)
  rw [← sendClock_eq stored hour default] at hsend
  obtain ⟨hlength, hmatches⟩ := matches_of_kept (by rw [hsend]; exact clock_keys v w) hstored h
  rw [hsend] at hlength hmatches
  obtain ⟨v', hv', hvmatch⟩ := hmatches ("hour", v) (by simp)
  obtain ⟨w', hw', hwmatch⟩ := hmatches ("minute", w) (by simp)
  rw [get_of_lookup hv'] at hhour
  rw [get_of_lookup hw'] at hminute
  obtain rfl := matches_clockField hv hhour hvmatch
  obtain rfl := matches_clockField hw hminute hwmatch
  -- a stored hour or minute that is null is sent as its default, which is a number
  rcases hv with rfl | ⟨z, rfl⟩
  · obtain ⟨m, hdefault, -⟩ := sendClock_hour hour default (z := hour) (by rw [get_of_lookup hv']; rfl)
    rw [hdefault] at hsend
    cases hsend
  obtain ⟨m, hclock, hm⟩ := sendClock_hour hour default (z := z) (by rw [get_of_lookup hv']; rfl)
  rw [hclock] at hsend
  rcases hw with rfl | ⟨y, rfl⟩
  · rw [hm 0 (by rw [get_of_lookup hw']; rfl)] at hsend
    cases hsend
  refine ⟨z, y, (PyDict.perm_iff hstored (clock_keys _ _)).mpr ⟨hlength, fun item hitem => ?_⟩⟩
  rcases List.mem_cons.mp hitem with rfl | hitem
  · exact hv'
  · obtain rfl := List.mem_singleton.mp hitem
    exact hw'

theorem sendClock_perm_of_isClock {stored : PyDict} (hour : Int) (default : String)
    (hstored : (stored.map Prod.fst).Nodup) (h : IsClock stored) : (sendClock stored hour default).Perm stored := by
  obtain ⟨z, y, hperm⟩ := h
  obtain ⟨-, hlookup⟩ := (PyDict.perm_iff hstored (clock_keys _ _)).mp hperm
  have hz := get_of_lookup (hlookup ("hour", .int z) (by simp))
  have hy := get_of_lookup (hlookup ("minute", .int y) (by simp))
  obtain ⟨m, hsend, hm⟩ := sendClock_hour hour default (z := z) (by rw [hz]; rfl)
  rw [hsend, hm y (by rw [hy]; rfl)]
  exact hperm.symm

/-! ### Whole rows -/

/-- The configurations are JSON objects, and the hour and the minute of a `cron` trigger are what its trigger
    takes. -/
structure ScheduleDocumented (schedule : Schedule) : Prop where
  triggerKeys : (schedule.triggerConfig.map Prod.fst).Nodup
  actionKeys : (schedule.actionConfig.map Prod.fst).Nodup
  clock : schedule.triggerType = "cron" →
    ClockField (schedule.triggerConfig.get "hour") ∧ ClockField (schedule.triggerConfig.get "minute")

/-- The same of a rule; the builder gives a `time` trigger an hour and a minute. -/
structure RuleDocumented (rule : RuleRecord) : Prop where
  triggerKeys : (rule.triggerConfig.map Prod.fst).Nodup
  actionKeys : (rule.actionConfig.map Prod.fst).Nodup
  clock : rule.triggerType = "time" →
    ClockField (rule.triggerConfig.get "hour") ∧ ClockField (rule.triggerConfig.get "minute")

/-- The trigger that the dialog of a schedule sends. -/
def sentTrigger (schedule : Schedule) : PyDict :=
  if schedule.triggerType = "cron" then sendClock schedule.triggerConfig 7 "07:00"
  else fill intervalFields schedule.triggerConfig

/-- The schedule is enabled and APScheduler refuses the sent trigger; a stored one that equals it is not replaced. -/
def TriggerRefused {T : Type} (aps : Apscheduler T) (now : DateTime) (schedule : Schedule) : Prop :=
  schedule.isEnabled = true ∧ ∃ e, buildTrigger aps now schedule.triggerType
    (if (sentTrigger schedule).same schedule.triggerConfig then schedule.triggerConfig else sentTrigger schedule) =
      .error e

/-- The configurations of a schedule are of the form that its dialog stores. -/
def ScheduleEditable (schedule : Schedule) : Prop :=
  (if schedule.triggerType = "cron" then IsClock schedule.triggerConfig
    else HasJust intervalFields schedule.triggerConfig) ∧ HasJust actionFields schedule.actionConfig

/-- The configurations of a rule are of the form that its dialog stores. -/
def RuleEditable (rule : RuleRecord) : Prop :=
  (if rule.triggerType = "time" then IsClock rule.triggerConfig
    else if rule.triggerType = "device_state" then HasJust stateFields rule.triggerConfig
    else rule.triggerConfig = []) ∧ HasJust actionFields rule.actionConfig

/-- The configurations of the schedule's row are the same as before. -/
def ScheduleKept {T : Type} (before : Schedule) (after : Stores T) : Prop :=
  ∃ row, after.rows.find before.id = some row ∧
    row.triggerConfig.Perm before.triggerConfig ∧ row.actionConfig.Perm before.actionConfig

/-- The configurations of a rule are the same as before. -/
def RuleKept (before after : RuleRecord) : Prop :=
  after.triggerConfig.Perm before.triggerConfig ∧ after.actionConfig.Perm before.actionConfig

theorem startEditSchedule_save (schedule : Schedule) :
    (startEditSchedule schedule).save.triggerConfig = sentTrigger schedule ∧
      (startEditSchedule schedule).save.actionConfig = fill actionFields schedule.actionConfig := by
  refine ⟨?_, rfl⟩
  have hminutes : ∀ v : PyValue, logicalOr (logicalOr v (.int 30)) (.int 30) = logicalOr v (.int 30) := by
    intro v
    by_cases hv : toBoolean v = true
    · simp only [logicalOr, if_pos hv]
    · simp only [logicalOr, if_neg hv, ite_self]
  simp only [EditScheduleForm.save, startEditSchedule, hminutes]
  rfl

theorem startEditRule_save (rule : RuleRecord) :
    (startEditRule rule).save.triggerConfig =
        (if rule.triggerType = "time" then sendClock rule.triggerConfig 20 "20:00"
        else if rule.triggerType = "device_state" then fill stateFields rule.triggerConfig else []) ∧
      (startEditRule rule).save.actionConfig = fill actionFields rule.actionConfig := ⟨rfl, rfl⟩

theorem getD_filter_perm {config stored : PyDict} :
    (((some config).filter fun config => !config.same stored).getD stored).Perm stored ↔
      config.same stored = true ∨ config.Perm stored := by
  cases hsame : config.same stored <;> simp [Option.filter, hsame]

theorem getD_filter_same (config stored : PyDict) :
    ((some config).filter fun config => !config.same stored).getD stored =
      if config.same stored then stored else config := by
  cases hsame : config.same stored <;> simp [Option.filter, hsame]

theorem editedSchedule_triggerConfig (schedule : Schedule) :
    (editedSchedule schedule).triggerConfig =
      if (sentTrigger schedule).same schedule.triggerConfig then schedule.triggerConfig else sentTrigger schedule := by
  rw [← (startEditSchedule_save schedule).1]
  exact getD_filter_same _ _

/-- Both configurations of a schedule are kept exactly when the update sends them as they are. -/
theorem editedSchedule_perm_iff (schedule : Schedule) :
    (editedSchedule schedule).triggerConfig.Perm schedule.triggerConfig ∧
        (editedSchedule schedule).actionConfig.Perm schedule.actionConfig ↔
      ((startEditSchedule schedule).save.triggerConfig.same schedule.triggerConfig = true ∨
          (startEditSchedule schedule).save.triggerConfig.Perm schedule.triggerConfig) ∧
        ((startEditSchedule schedule).save.actionConfig.same schedule.actionConfig = true ∨
          (startEditSchedule schedule).save.actionConfig.Perm schedule.actionConfig) :=
  and_congr getD_filter_perm getD_filter_perm

section
variable {T : Type} {aps : Apscheduler T} {schedule : Schedule} {now : DateTime} {s : Stores T}

theorem triggerRefused_iff :
    TriggerRefused aps now schedule ↔ ∃ e, Request.syncEffect aps now (editedSchedule schedule) = .error e := by
  rw [syncEffect_eq_error_iff, editedSchedule_triggerConfig]
  rfl

/-- The request keeps the configurations exactly when it is rolled back or its row has them. -/
theorem scheduleKept_edit_iff (hfind : s.rows.find schedule.id = some schedule) :
    ScheduleKept schedule ((editSchedule schedule now).handle aps s).2 ↔
      TriggerRefused aps now schedule ∨ (editedSchedule schedule).triggerConfig.Perm schedule.triggerConfig ∧
        (editedSchedule schedule).actionConfig.Perm schedule.actionConfig := by
  rw [triggerRefused_iff, ScheduleKept]
  rcases hsync : Request.syncEffect aps now (editedSchedule schedule) with e | f
  · rw [editSchedule_of_raises hsync hfind, hfind]
    simp
  · rw [editSchedule_of_syncs hsync hfind]
    simp

end

theorem same_of_ruleKept {rule : RuleRecord} (h : RuleKept rule (editRule rule)) :
    ((startEditRule rule).save.triggerConfig.same rule.triggerConfig = true ∨
        (startEditRule rule).save.triggerConfig.Perm rule.triggerConfig) ∧
      ((startEditRule rule).save.actionConfig.same rule.actionConfig = true ∨
        (startEditRule rule).save.actionConfig.Perm rule.actionConfig) := by
  unfold RuleKept editRule at h
  dsimp only at h
  split at h
  · exact ⟨Or.inr h.1, Or.inr h.2⟩
  · next hchanges =>
    simp only [AutomationRuleUpdate.changes, UpdatePayload.ruleUpdate, Bool.not_eq_true, Bool.or_eq_false_iff,
      Option.any_some, Bool.not_eq_false'] at hchanges
    exact ⟨Or.inl hchanges.1.1.1.2, Or.inl hchanges.1.2⟩

theorem ruleKept_of_perm {rule : RuleRecord}
    (htrigger : (startEditRule rule).save.triggerConfig.Perm rule.triggerConfig)
    (haction : (startEditRule rule).save.actionConfig.Perm rule.actionConfig) : RuleKept rule (editRule rule) := by
  unfold RuleKept editRule
  dsimp only
  split
  · exact ⟨htrigger, haction⟩
  · exact ⟨List.Perm.refl _, List.Perm.refl _⟩

theorem editedSchedule_iff {schedule : Schedule} (h : ScheduleDocumented schedule) :
    (editedSchedule schedule).triggerConfig.Perm schedule.triggerConfig ∧
        (editedSchedule schedule).actionConfig.Perm schedule.actionConfig ↔ ScheduleEditable schedule := by
  obtain ⟨htrigger, haction⟩ := startEditSchedule_save schedule
  rw [editedSchedule_perm_iff, htrigger, haction]
  unfold ScheduleEditable sentTrigger
  refine and_congr ?_ (fill_kept_iff actionFields_form h.actionKeys)
  by_cases hcron : schedule.triggerType = "cron"
  · simp only [if_pos hcron]
    obtain ⟨hhour, hminute⟩ := h.clock hcron
    exact ⟨isClock_of_kept h.triggerKeys hhour hminute,
      fun hclock => Or.inr (sendClock_perm_of_isClock 7 "07:00" h.triggerKeys hclock)⟩
  · simp only [if_neg hcron]
    exact fill_kept_iff intervalFields_form h.triggerKeys

theorem scheduleKept_iff {T : Type} (aps : Apscheduler T) (now : DateTime) {schedule : Schedule} {s : Stores T}
    (hfind : s.rows.find schedule.id = some schedule) (h : ScheduleDocumented schedule) :
    ScheduleKept schedule ((editSchedule schedule now).handle aps s).2 ↔
      TriggerRefused aps now schedule ∨ ScheduleEditable schedule := by
  rw [scheduleKept_edit_iff hfind, editedSchedule_iff h]

/-- APScheduler's `DateTrigger` takes no minutes, so the dialog of an enabled `date` schedule changes nothing. -/
theorem date_schedule_is_kept {T : Type} (aps : Apscheduler T) (now : DateTime) {schedule : Schedule} {s : Stores T}
    (hdate : ∀ config : PyDict, (config.lookup "minutes").isSome → ∃ e, aps.dateTrigger now config = .error e)
    (hfind : s.rows.find schedule.id = some schedule) (htype : schedule.triggerType = "date")
    (henabled : schedule.isEnabled = true) :
    ScheduleKept schedule ((editSchedule schedule now).handle aps s).2 := by
  refine (scheduleKept_edit_iff hfind).mpr (Or.inl ⟨henabled, ?_⟩)
  have hsent : sentTrigger schedule = fill intervalFields schedule.triggerConfig :=
    if_neg (by rw [htype]; decide)
  have hmem : ("minutes", logicalOr (schedule.triggerConfig.get "minutes") (.int 30)) ∈ sentTrigger schedule := by
    rw [hsent]
    exact List.mem_singleton_self _
  have hgiven : ((if (sentTrigger schedule).same schedule.triggerConfig then schedule.triggerConfig
      else sentTrigger schedule).lookup "minutes").isSome := by
    split
    · next hsame =>
      rw [PyDict.same, PyValue.same, Bool.and_eq_true] at hsame
      obtain ⟨w, hw, -⟩ := sameItems_lookup hsame.2 hmem
      rw [hw]
      rfl
    · rw [hsent]
      rfl
  obtain ⟨e, he⟩ := hdate _ hgiven
  exact ⟨e, by rw [htype]; simp [buildTrigger, he, Except.map]⟩

theorem ruleKept_iff {rule : RuleRecord} (h : RuleDocumented rule) :
    RuleKept rule (editRule rule) ↔ RuleEditable rule := by
  obtain ⟨htrigger, haction⟩ := startEditRule_save rule
  constructor
  · intro hkept
    obtain ⟨hsameTrigger, hsameAction⟩ := same_of_ruleKept hkept
    rw [htrigger] at hsameTrigger
    rw [haction] at hsameAction
    refine ⟨?_, hasJust_of_kept actionFields_form h.actionKeys hsameAction⟩
    by_cases htime : rule.triggerType = "time"
    · obtain ⟨hhour, hminute⟩ := h.clock htime
      rw [if_pos htime] at hsameTrigger ⊢
      exact isClock_of_kept h.triggerKeys hhour hminute hsameTrigger
    rw [if_neg htime] at hsameTrigger ⊢
    by_cases hstate : rule.triggerType = "device_state"
    · rw [if_pos hstate] at hsameTrigger ⊢
      exact hasJust_of_kept stateFields_form h.triggerKeys hsameTrigger
    · rw [if_neg hstate] at hsameTrigger ⊢
      obtain ⟨hlength, -⟩ := @matches_of_kept [] _ List.nodup_nil h.triggerKeys hsameTrigger
      exact List.length_eq_zero_iff.mp hlength
  · rintro ⟨heditable, hjust⟩
    refine ruleKept_of_perm ?_ (by rw [haction]; exact fill_perm_of_hasJust actionFields_form h.actionKeys hjust)
    rw [htrigger]
    by_cases htime : rule.triggerType = "time"
    · rw [if_pos htime] at heditable ⊢
      exact sendClock_perm_of_isClock 20 "20:00" h.triggerKeys heditable
    rw [if_neg htime] at heditable ⊢
    by_cases hstate : rule.triggerType = "device_state"
    · rw [if_pos hstate] at heditable ⊢
      exact fill_perm_of_hasJust stateFields_form h.triggerKeys heditable
    · rw [if_neg hstate] at heditable ⊢
      rw [heditable]

/-- Opening the dialog of a row and saving it keeps the configurations exactly when these are of the form that the
    dialog itself stores, or when the trigger it sends is refused and the request rolled back. -/
theorem edit_is_identity_iff {T : Type} (aps : Apscheduler T) (now : DateTime) (s : Stores T) (schedule : Schedule)
    (rule : RuleRecord) (hfind : s.rows.find schedule.id = some schedule) (hschedule : ScheduleDocumented schedule)
    (hrule : RuleDocumented rule) :
    (ScheduleKept schedule ((editSchedule schedule now).handle aps s).2 ↔
        TriggerRefused aps now schedule ∨ ScheduleEditable schedule) ∧
      (RuleKept rule (editRule rule) ↔ RuleEditable rule) :=
  ⟨scheduleKept_iff aps now hfind hschedule, ruleKept_iff hrule⟩

/-! ### A schedule that loses its value -/

/-- A schedule with a set-point. -/
def heatAtTen : Schedule where
  id := 1
  name := "Heizung abends"
  triggerType := "cron"
  triggerConfig := [("hour", .int 22), ("minute", .int 0)]
  actionConfig := [("ain", .str "11630 0206488"), ("action", .str "temperature"), ("value", .int 21)]

theorem heatAtTen_documented : ScheduleDocumented heatAtTen where
  triggerKeys := by decide
  actionKeys := by decide
  clock _ := ⟨Or.inr (Or.inl ⟨22, rfl⟩), Or.inr (Or.inl ⟨0, rfl⟩)⟩

/-- The stores with one schedule and no jobs. -/
def storesWith (schedule : Schedule) : Stores ClockTrigger := Stores.empty.putRow schedule

theorem storesWith_find (schedule : Schedule) : (storesWith schedule).rows.find schedule.id = some schedule :=
  ScheduleTable.find_put_self _ schedule

/-- The request is served, and the set point of the thermostat is gone. -/
theorem heating_schedule_loses_value :
    ScheduleDocumented heatAtTen ∧
      (∃ row, ((editSchedule heatAtTen 0).handle clockTriggers (storesWith heatAtTen)).2.rows.find heatAtTen.id =
        some row ∧ row.actionConfig.get "value" = .none) ∧
      ¬ ScheduleKept heatAtTen ((editSchedule heatAtTen 0).handle clockTriggers (storesWith heatAtTen)).2 := by
  refine ⟨heatAtTen_documented, ⟨_, editSchedule_of_syncs rfl (storesWith_find heatAtTen), rfl⟩, fun hkept => ?_⟩
  rcases (scheduleKept_iff clockTriggers 0 (storesWith_find heatAtTen) heatAtTen_documented).mp hkept with
    ⟨-, e, he⟩ | ⟨-, hlength, -⟩
  · cases he
  · exact absurd hlength (by decide)

/-! ### Rows of the page's own -/

/-- A schedule that the dialog can show. -/
def wakeAtSeven : Schedule where
  id := 2
  name := "Licht morgens"
  triggerType := "cron"
  triggerConfig := [("hour", .int 7), ("minute", .int 5)]
  actionConfig := [("ain", .str "08761 0374811"), ("action", .str "turn_on")]

/-- A rule that the dialog can show. -/
def followSwitch : RuleRecord where
  id := 3
  name := "Licht folgt"
  triggerType := "device_state"
  triggerConfig := [("ain", .str "08761 0374811"), ("state", .str "off")]
  conditionConfig := none
  actionType := "device_control"
  actionConfig := [("ain", .str "11630 0206488"), ("action", .str "turn_off")]
  isEnabled := true

theorem wakeAtSeven_documented : ScheduleDocumented wakeAtSeven where
  triggerKeys := by decide
  actionKeys := by decide
  clock _ := ⟨Or.inr (Or.inl ⟨7, rfl⟩), Or.inr (Or.inl ⟨5, rfl⟩)⟩

theorem followSwitch_documented : RuleDocumented followSwitch where
  triggerKeys := by decide
  actionKeys := by decide
  clock h := absurd h (by decide)

theorem own_rows_are_kept :
    ScheduleKept wakeAtSeven ((editSchedule wakeAtSeven 0).handle clockTriggers (storesWith wakeAtSeven)).2 ∧
      RuleKept followSwitch (editRule followSwitch) := by
  obtain ⟨hschedule, hrule⟩ :=
    edit_is_identity_iff clockTriggers 0 (storesWith wakeAtSeven) wakeAtSeven followSwitch (storesWith_find wakeAtSeven)
      wakeAtSeven_documented followSwitch_documented
  refine ⟨hschedule.mpr (Or.inr ⟨⟨7, 5, List.Perm.refl _⟩, rfl, ?_⟩), hrule.mpr ⟨⟨rfl, ?_⟩, rfl, ?_⟩⟩
  · simp [actionFields, wakeAtSeven, toBoolean, PyValue.truthy, List.lookup_cons]
  · simp [stateFields, followSwitch, toBoolean, PyValue.truthy, List.lookup_cons]
  · simp [actionFields, followSwitch, toBoolean, PyValue.truthy, List.lookup_cons]

end Ui
end SmartHome
