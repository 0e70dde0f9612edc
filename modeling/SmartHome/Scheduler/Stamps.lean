import Mathlib.Data.List.Nodup
import SmartHome.Scheduler.Passes

/-! # What a pass over the rules records

A pass catches the exceptions of each rule, and commits the new `last_triggered` of all rules at once. The
theorem says when the commit records exactly the commands that were carried out. -/

namespace SmartHome

/-- A rule with the time of its last action. -/
structure RuleRow extends AutomationRule where
  lastTriggered : Option DateTime := none

/-- The table `automation_rules`; the id is its primary key. -/
structure RuleTable where
  rows : List RuleRow
  nodup : (rows.map (·.id)).Nodup

/-- Sets `last_triggered` where there is a stamp for the row. -/
def RuleRow.stamp (stamps : List (Uuid × DateTime)) (row : RuleRow) : RuleRow :=
  match stamps.find? (·.1 == row.id) with
  | some stamp => { row with lastTriggered := some stamp.2 }
  | none => row

@[simp] theorem RuleRow.stamp_id (stamps : List (Uuid × DateTime)) (row : RuleRow) : (row.stamp stamps).id = row.id := by
  unfold RuleRow.stamp
  split <;> rfl

namespace RuleTable

/-- `get_all(enabled_only=True)`, with the collation of the database. -/
def enabled (collate : String → String → Bool) (table : RuleTable) : List RuleRow :=
  (table.rows.filter (·.isEnabled)).mergeSort fun a b => collate a.name b.name

/-- The table without the deleted rules. -/
def delete (deleted : Uuid → Bool) (table : RuleTable) : RuleTable where
  rows := table.rows.filter fun row => !deleted row.id
  nodup := (List.Sublist.map _ List.filter_sublist).nodup table.nodup

/-- The table with new time stamps. -/
def stamp (stamps : List (Uuid × DateTime)) (table : RuleTable) : RuleTable where
  rows := table.rows.map (RuleRow.stamp stamps)
  nodup := by
    have hid : (fun row : RuleRow => row.id) ∘ RuleRow.stamp stamps = fun row => row.id :=
      funext fun row => row.stamp_id stamps
    rw [List.map_map, hid]
    exact table.nodup

/-- The stamp differs from what the row holds. -/
def changes (table : RuleTable) (stamp : Uuid × DateTime) : Bool :=
  table.rows.any fun row => row.id == stamp.1 && row.lastTriggered != some stamp.2

end RuleTable

/-- The world, and the table of the rules. -/
structure RuleDb (σ : Type) where
  world : σ
  table : RuleTable

namespace RuleDb
variable {σ R : Type}

/-- `session.commit()`, after other requests have deleted rules. An UPDATE goes out for each rule whose
    `last_triggered` differs from the loaded one. Where the rows of so many updates are counted, as `checks` says, the
    commit raises if one of the rows is gone. -/
def commit (checks : ℕ → Bool) (deleted : Uuid → Bool) (stamps : List (Uuid × DateTime)) : Py (RuleDb σ) Unit := fun db =>
  let left := db.table.delete deleted
  let updates := stamps.filter db.table.changes
  if checks updates.length && updates.any fun stamp => !left.rows.any (·.id == stamp.1) then
    (.error .staleData, { db with table := left })
  else (.ok (), { db with table := left.stamp stamps })

/-- The application over the table; `deleted` are the rules that are deleted before the commit of the pass. -/
def env (collate : String → String → Bool) (checks : ℕ → Bool) (deleted : Uuid → Bool) (env : Env σ R) :
    Env (RuleDb σ) R where
  provider := env.provider.within (·.world) fun world db => { db with world }
  getCurrent := Eff.zoom (·.world) (fun world db => { db with world }) env.getCurrent
  utcnow db := env.utcnow db.world
  enabledRules := Eff.gets fun db => (db.table.enabled collate).map (·.toAutomationRule)
  commitTriggered := commit checks deleted
  stampSchedule id := Eff.zoom (·.world) (fun world db => { db with world }) (env.stampSchedule id)

end RuleDb

section
variable {σ R : Type} [DeviceReading R] {collate : String → String → Bool} {checks : ℕ → Bool} {deleted : Uuid → Bool}
  {env : Env σ R} {db : RuleDb σ}

/-- The rules that a pass loads. -/
def RuleDb.loaded (collate : String → String → Bool) (db : RuleDb σ) : List AutomationRule :=
  (db.table.enabled collate).map (·.toAutomationRule)

/-- The stamp of a turn whose action is carried out by the provider. -/
def commandStamp (env : Env σ R) (turn : AutomationRule × σ) : Option (Uuid × DateTime) :=
  if (turnCommands env turn.1 turn.2).isEmpty then none else turnStamp env turn

/-- The turns of the pass. -/
def RuleDb.turns (env : Env σ R) (collate : String → String → Bool) (db : RuleDb σ) : List (AutomationRule × σ) :=
  SmartHome.turns env db.world (db.loaded collate)

/-- After the pass `last_triggered` of the rules that are left is the time of their turn where a command was carried
    out, and is unchanged everywhere else. -/
def RecordsCommands (env : Env σ R) (collate : String → String → Bool) (checks : ℕ → Bool) (deleted : Uuid → Bool)
    (db : RuleDb σ) : Prop :=
  (evaluateAllRules (RuleDb.env collate checks deleted env) db).2.table.rows =
    (db.table.delete deleted).rows.map (RuleRow.stamp ((db.turns env collate).filterMap (commandStamp env)))

/-- The rule fires without an exception, at another time than the row holds. -/
def Restamps (env : Env σ R) (table : RuleTable) (turn : AutomationRule × σ) : Prop :=
  ∃ now, turnStamp env turn = some (turn.1.id, now) ∧ table.changes (turn.1.id, now) = true

/-- The number of rules whose stamp differs from what they hold. -/
def RuleDb.updates (env : Env σ R) (collate : String → String → Bool) (db : RuleDb σ) : ℕ :=
  (((db.turns env collate).filterMap (turnStamp env)).filter db.table.changes).length

/-- A rule that fires is deleted, and the updates are checked. -/
def LosesStamps (env : Env σ R) (collate : String → String → Bool) (checks : ℕ → Bool) (deleted : Uuid → Bool)
    (db : RuleDb σ) : Prop :=
  checks (db.updates env collate) = true ∧
    ∃ turn ∈ db.turns env collate, Restamps env db.table turn ∧ deleted turn.1.id = true

/-- Every rule that fires and is left sends a command, or none does where the stamps are lost. -/
def StampsTogether (env : Env σ R) (collate : String → String → Bool) (checks : ℕ → Bool) (deleted : Uuid → Bool)
    (db : RuleDb σ) : Prop :=
  ∀ turn ∈ db.turns env collate, Restamps env db.table turn → deleted turn.1.id = false →
    (Commands turn.1.actionConfig ↔ ¬ LosesStamps env collate checks deleted db)

/-! ### The pass -/

omit [DeviceReading R] in
theorem readsIn_ruleDb (env : Env σ R) (collate : String → String → Bool) (checks : ℕ → Bool) (deleted : Uuid → Bool) :
    env.ReadsIn (·.world) (fun world db => { db with world }) (RuleDb.env collate checks deleted env) where
  part := { view_put := fun _ _ => rfl, put_put := fun _ _ _ => rfl, put_view := fun _ => rfl }
  getDeviceState _ := rfl
  getCurrent := rfl
  utcnow _ := rfl

/-- The pass takes all turns, and then commits their stamps. -/
theorem pass_run (env : Env σ R) (collate : String → String → Bool) (checks : ℕ → Bool) (deleted : Uuid → Bool)
    (db : RuleDb σ) :
    (evaluateAllRules (RuleDb.env collate checks deleted env) db).2 =
      (RuleDb.commit checks deleted ((db.turns env collate).filterMap (turnStamp env))
        { db with world := (db.loaded collate).foldl (fun s rule => (fireRule env rule s).2) db.world }).2 := by
  have hloop : evaluateRules (RuleDb.env collate checks deleted env) (db.loaded collate) db =
      (.ok ((db.turns env collate).filterMap (turnStamp env)),
        { db with world := (db.loaded collate).foldl (fun s rule => (fireRule env rule s).2) db.world }) := by
    rw [(readsIn_ruleDb env collate checks deleted).evaluateRules fun ain command => Provider.within_send _ _ _ ain command]
    rw [Eff.zoom, evaluateRules_run]
    rfl
  have hload : (RuleDb.env collate checks deleted env).enabledRules db = (.ok (db.loaded collate), db) := rfl
  rw [evaluateAllRules, Eff.attempt_pure_state, Eff.bind_of_ok hload, Eff.bind_of_ok hloop]
  rfl

/-! ### Rows and turns -/

omit [DeviceReading R] in
theorem loaded_nodup (collate : String → String → Bool) (db : RuleDb σ) : ((db.loaded collate).map (·.id)).Nodup := by
  rw [RuleDb.loaded, List.map_map]
  have hfilter : ((db.table.rows.filter (·.isEnabled)).map (·.id)).Nodup :=
    (List.Sublist.map _ List.filter_sublist).nodup db.table.nodup
  exact ((List.mergeSort_perm _ _).map _).nodup_iff.mpr hfilter

theorem turns_nodup (env : Env σ R) (collate : String → String → Bool) (db : RuleDb σ) :
    ((db.turns env collate).map (·.1.id)).Nodup := by
  have hmap : (db.turns env collate).map (·.1.id) = (db.loaded collate).map (·.id) := by
    rw [← turns_rules env db.world (db.loaded collate), List.map_map]
    rfl
  rw [hmap]
  exact loaded_nodup collate db

/-- Every turn is that of a row. -/
theorem row_of_turn {turn : AutomationRule × σ} (h : turn ∈ db.turns env collate) :
    ∃ row ∈ db.table.rows, row.id = turn.1.id := by
  have hrule : turn.1 ∈ db.loaded collate := by
    rw [← turns_rules env db.world (db.loaded collate)]
    exact List.mem_map_of_mem h
  obtain ⟨row, hrow, heq⟩ := List.mem_map.mp hrule
  refine ⟨row, ?_, by rw [← heq]⟩
  exact List.mem_of_mem_filter ((List.mergeSort_perm _ _).mem_iff.mp hrow)

omit [DeviceReading R] in
/-- The stamps that a function gives the turns are looked up by their turn. -/
theorem find?_stamps {turns : List (AutomationRule × σ)} {g : AutomationRule × σ → Option (Uuid × DateTime)}
    (hid : ∀ turn stamp, g turn = some stamp → stamp.1 = turn.1.id) (hnodup : (turns.map (·.1.id)).Nodup)
    {turn : AutomationRule × σ} (hturn : turn ∈ turns) :
    (turns.filterMap g).find? (·.1 == turn.1.id) = g turn := by
  induction turns with
  | nil => cases hturn
  | cons first turns ih =>
    rw [List.map_cons, List.nodup_cons] at hnodup
    have hnone : ∀ {id : Uuid}, id ∉ turns.map (·.1.id) → (turns.filterMap g).find? (·.1 == id) = none := by
      intro id hnot
      refine List.find?_eq_none.mpr fun stamp hstamp heq => hnot ?_
      obtain ⟨other, hother, hg⟩ := List.mem_filterMap.mp hstamp
      rw [← eq_of_beq heq, hid other stamp hg]
      exact List.mem_map_of_mem hother
    rw [List.filterMap_cons]
    rcases List.mem_cons.mp hturn with rfl | hturn
    · rcases hg : g turn with _ | stamp
      · exact hnone hnodup.1
      · simp [hid turn stamp hg]
    · have hne : first.1.id ≠ turn.1.id := fun heq => hnodup.1 (heq ▸ List.mem_map_of_mem hturn)
      rcases hg : g first with _ | stamp
      · exact ih hnodup.2 hturn
      · have hother : (stamp.1 == turn.1.id) = false := by
          rw [hid first stamp hg]
          exact beq_false_of_ne hne
        simp only [List.find?_cons, hother]
        exact ih hnodup.2 hturn

theorem commandStamp_id {turn : AutomationRule × σ} {stamp : Uuid × DateTime} (h : commandStamp env turn = some stamp) :
    stamp.1 = turn.1.id := by
  unfold commandStamp at h
  split at h
  · cases h
  · exact (turnStamp_cases h).1

theorem commandStamp_eq {turn : AutomationRule × σ} {stamp : Uuid × DateTime} (h : turnStamp env turn = some stamp)
    [Decidable (Commands turn.1.actionConfig)] :
    commandStamp env turn = if Commands turn.1.actionConfig then some stamp else none := by
  have hsent : turnCommands env turn.1 turn.2 ≠ [] ↔ Triggers env turn.1 turn.2 ∧ Commands turn.1.actionConfig :=
    turnCommands_ne_nil_iff
  unfold commandStamp
  by_cases hcommands : Commands turn.1.actionConfig
  · have hne := hsent.mpr ⟨(turnStamp_cases h).2, hcommands⟩
    rw [if_pos hcommands, if_neg (by simpa using hne), h]
  · have hnil : turnCommands env turn.1 turn.2 = [] := by
      by_contra hne
      exact hcommands (hsent.mp hne).2
    rw [if_neg hcommands, hnil]
    rfl

theorem changes_iff {table : RuleTable} {row : RuleRow} (hrow : row ∈ table.rows) (now : DateTime) :
    table.changes (row.id, now) = true ↔ row.lastTriggered ≠ some now := by
  unfold RuleTable.changes
  rw [List.any_eq_true]
  constructor
  · rintro ⟨other, hother, hchanges⟩
    rw [Bool.and_eq_true, beq_iff_eq, bne_iff_ne] at hchanges
    obtain rfl := List.inj_on_of_nodup_map table.nodup hother hrow hchanges.1
    exact hchanges.2
  · intro hne
    exact ⟨row, hrow, by simpa using hne⟩

omit [DeviceReading R] in
theorem stamp_of_find {stamps : List (Uuid × DateTime)} {row : RuleRow} {found : Option (Uuid × DateTime)}
    (h : stamps.find? (·.1 == row.id) = found) :
    row.stamp stamps = found.elim row fun stamp => { row with lastTriggered := some stamp.2 } := by
  rw [RuleRow.stamp, h]
  cases found <;> rfl

theorem stamped_eq_self_iff {row : RuleRow} {now : DateTime} :
    { row with lastTriggered := some now } = row ↔ row.lastTriggered = some now := by
  constructor
  · intro h
    rw [← h]
  · intro h
    rw [← h]

/-- Where a turn belongs to the row, the two lists of stamps leave it alike exactly if the turn sends a command
    wherever it would change the row. -/
theorem stamp_row_iff {row : RuleRow} (hrow : row ∈ db.table.rows) {turn : AutomationRule × σ}
    (hturn : turn ∈ db.turns env collate) (hid : turn.1.id = row.id) :
    (row.stamp ((db.turns env collate).filterMap (turnStamp env)) =
        row.stamp ((db.turns env collate).filterMap (commandStamp env)) ↔
      (Restamps env db.table turn → Commands turn.1.actionConfig)) ∧
    (row = row.stamp ((db.turns env collate).filterMap (commandStamp env)) ↔
      (Restamps env db.table turn → ¬ Commands turn.1.actionConfig)) := by
  classical
  have hall := find?_stamps (g := turnStamp env) (fun turn stamp h => (turnStamp_cases h).1)
    (turns_nodup env collate db) hturn
  have hsent := find?_stamps (g := commandStamp env) (fun turn stamp h => commandStamp_id h)
    (turns_nodup env collate db) hturn
  rw [hid] at hall hsent
  rw [stamp_of_find hall, stamp_of_find hsent]
  unfold Restamps
  rcases hstamp : turnStamp env turn with _ | ⟨id, now⟩
  · have hnone : commandStamp env turn = none := by
      unfold commandStamp
      split
      · rfl
      · exact hstamp
    rw [hnone]
    refine ⟨iff_of_true rfl ?_, iff_of_true rfl ?_⟩ <;>
    · rintro ⟨now, h, -⟩
      cases h
  · obtain rfl : id = turn.1.id := (turnStamp_cases hstamp).1
    have hchanges := changes_iff hrow now
    rw [← hid] at hchanges
    rw [commandStamp_eq hstamp]
    simp only [Option.some.injEq, Prod.mk.injEq, true_and, exists_eq_left', hchanges]
    by_cases hcommands : Commands turn.1.actionConfig
    · simp only [hcommands, if_true, Option.elim_some, implies_true, not_true_eq_false, imp_false, not_not, true_and]
      rw [eq_comm, stamped_eq_self_iff]
    · simp only [hcommands, if_false, Option.elim_some, Option.elim_none, not_false_eq_true, implies_true, imp_false,
        not_not, and_true]
      exact stamped_eq_self_iff

theorem stamp_row_of_no_turn {row : RuleRow} {g : AutomationRule × σ → Option (Uuid × DateTime)}
    (hid : ∀ turn stamp, g turn = some stamp → stamp.1 = turn.1.id)
    (hnone : ∀ turn ∈ db.turns env collate, turn.1.id ≠ row.id) :
    row.stamp ((db.turns env collate).filterMap g) = row := by
  have hfind : ((db.turns env collate).filterMap g).find? (·.1 == row.id) = none := by
    refine List.find?_eq_none.mpr fun stamp hstamp heq => ?_
    obtain ⟨turn, hturn, hg⟩ := List.mem_filterMap.mp hstamp
    exact hnone turn hturn ((hid turn stamp hg).symm.trans (eq_of_beq heq))
  exact stamp_of_find hfind

/-- The commit raises exactly if a row that it would change is gone and the updates are checked. -/
theorem commit_raises_iff :
    (checks (db.updates env collate) &&
        (((db.turns env collate).filterMap (turnStamp env)).filter db.table.changes).any fun stamp =>
          !(db.table.delete deleted).rows.any (·.id == stamp.1)) = true ↔
      LosesStamps env collate checks deleted db := by
  have hgone : ∀ turn ∈ db.turns env collate,
      (!(db.table.delete deleted).rows.any fun row => row.id == turn.1.id) = true ↔ deleted turn.1.id = true := by
    intro turn hturn
    rw [Bool.not_eq_true', List.any_eq_false]
    constructor
    · intro hnone
      obtain ⟨row, hrow, hid⟩ := row_of_turn hturn
      by_contra hkept
      exact hnone row (List.mem_filter.mpr ⟨hrow, by rw [hid]; simpa using hkept⟩) (by simpa using hid)
    · intro hdeleted row hrow heq
      have hkept := (List.mem_filter.mp hrow).2
      rw [eq_of_beq heq, hdeleted] at hkept
      cases hkept
  rw [Bool.and_eq_true, List.any_eq_true]
  refine and_congr_right fun _ => ⟨?_, ?_⟩
  · rintro ⟨⟨id, now⟩, hmem, hnone⟩
    obtain ⟨hstamps, hchanges⟩ := List.mem_filter.mp hmem
    obtain ⟨turn, hturn, hstamp⟩ := List.mem_filterMap.mp hstamps
    obtain rfl : id = turn.1.id := (turnStamp_cases hstamp).1
    exact ⟨turn, hturn, ⟨now, hstamp, hchanges⟩, (hgone turn hturn).mp hnone⟩
  · rintro ⟨turn, hturn, ⟨now, hstamp, hchanges⟩, hdeleted⟩
    exact ⟨_, List.mem_filter.mpr ⟨List.mem_filterMap.mpr ⟨turn, hturn, hstamp⟩, hchanges⟩,
      (hgone turn hturn).mpr hdeleted⟩

theorem pass_table_of_kept (h : ¬ LosesStamps env collate checks deleted db) :
    (evaluateAllRules (RuleDb.env collate checks deleted env) db).2.table =
      (db.table.delete deleted).stamp ((db.turns env collate).filterMap (turnStamp env)) := by
  rw [← commit_raises_iff, RuleDb.updates] at h
  rw [pass_run, RuleDb.commit]
  simp only [if_neg h]

theorem pass_table_of_lost (h : LosesStamps env collate checks deleted db) :
    (evaluateAllRules (RuleDb.env collate checks deleted env) db).2.table = db.table.delete deleted := by
  rw [← commit_raises_iff, RuleDb.updates] at h
  rw [pass_run, RuleDb.commit]
  simp only [if_pos h]

/-! ### The theorem -/

/-- The rows that are left, each with its turn if it has one. -/
theorem forall_left_iff {P : RuleRow → Prop} {Q : AutomationRule × σ → Prop}
    (hturn : ∀ row ∈ db.table.rows, ∀ turn ∈ db.turns env collate, turn.1.id = row.id → (P row ↔ Q turn))
    (hnone : ∀ row ∈ db.table.rows, (∀ turn ∈ db.turns env collate, turn.1.id ≠ row.id) → P row) :
    (∀ row ∈ (db.table.delete deleted).rows, P row) ↔
      ∀ turn ∈ db.turns env collate, deleted turn.1.id = false → Q turn := by
  constructor
  · intro h turn hmem hkept
    obtain ⟨row, hrow, hid⟩ := row_of_turn hmem
    have hleft : row ∈ (db.table.delete deleted).rows := List.mem_filter.mpr ⟨hrow, by rw [hid, hkept]; rfl⟩
    exact (hturn row hrow turn hmem hid.symm).mp (h row hleft)
  · intro h row hleft
    obtain ⟨hrow, hkept⟩ := List.mem_filter.mp hleft
    by_cases hexists : ∃ turn ∈ db.turns env collate, turn.1.id = row.id
    · obtain ⟨turn, hmem, hid⟩ := hexists
      exact (hturn row hrow turn hmem hid).mpr (h turn hmem (by simpa [hid] using hkept))
    · exact hnone row hrow fun turn hmem hid => hexists ⟨turn, hmem, hid⟩

theorem recordsCommands_iff (env : Env σ R) (collate : String → String → Bool) (checks : ℕ → Bool)
    (deleted : Uuid → Bool) (db : RuleDb σ) :
    RecordsCommands env collate checks deleted db ↔ StampsTogether env collate checks deleted db := by
  unfold RecordsCommands StampsTogether
  by_cases hlost : LosesStamps env collate checks deleted db
  · -- The commit is rolled back: nothing that is left may have been commanded.
    rw [pass_table_of_lost hlost]
    nth_rewrite 1 [← List.map_id (db.table.delete deleted).rows]
    rw [List.map_inj_left]
    simp only [id_eq]
    rw [forall_left_iff (fun row hrow turn hmem hid => (stamp_row_iff hrow hmem hid).2) fun row hrow hnone => ?_]
    · simp only [hlost, not_true_eq_false, iff_false]
      exact forall₂_congr fun turn _ => ⟨fun h hrestamps hkept => h hkept hrestamps, fun h hkept hrestamps => h hrestamps hkept⟩
    · exact (stamp_row_of_no_turn (fun turn stamp h => commandStamp_id h) hnone).symm
  · -- The commit goes through: what is stamped has to be what was commanded.
    rw [pass_table_of_kept hlost, RuleTable.stamp, List.map_inj_left]
    rw [forall_left_iff (fun row hrow turn hmem hid => (stamp_row_iff hrow hmem hid).1) fun row hrow hnone => ?_]
    · simp only [hlost, not_false_eq_true, iff_true]
      exact forall₂_congr fun turn _ => ⟨fun h hrestamps hkept => h hkept hrestamps, fun h hkept hrestamps => h hrestamps hkept⟩
    · rw [stamp_row_of_no_turn (fun turn stamp h => (turnStamp_cases h).1) hnone,
        stamp_row_of_no_turn (fun turn stamp h => commandStamp_id h) hnone]

/-- The world after a pass is left by one turn of each loaded rule, in their order and whatever the turns raise; and
    the pass records its commands exactly if the stamps of its rules go together. -/
theorem pass_isolates_and_records_iff (env : Env σ R) (collate : String → String → Bool) (checks : ℕ → Bool)
    (deleted : Uuid → Bool) (db : RuleDb σ) :
    ((db.turns env collate).map Prod.fst = db.loaded collate ∧
        (evaluateAllRules (RuleDb.env collate checks deleted env) db).2.world =
          (db.loaded collate).foldl (fun s rule => (fireRule env rule s).2) db.world) ∧
      (RecordsCommands env collate checks deleted db ↔ StampsTogether env collate checks deleted db) := by
  refine ⟨⟨turns_rules env db.world (db.loaded collate), ?_⟩, recordsCommands_iff env collate checks deleted db⟩
  rw [pass_run, RuleDb.commit]
  split <;> rfl

end
/-! ### A pass -/

/-- The row count of every UPDATE is checked. -/
def everyUpdate (_ : ℕ) : Bool := true

/-- The row count of a lone UPDATE is checked; two or more go out as one `executemany`, whose rows nobody counts. -/
def loneUpdate (n : ℕ) : Bool := n == 1

/-- A rule that fires at all times, with an action that the form stores and no branch of `_execute_action` knows. -/
def silentRow : RuleRow where
  id := 1
  name := "Immer an"
  triggerType := "time"
  triggerConfig := []
  conditionConfig := none
  actionType := "device_control"
  actionConfig := [("ain", .str "08761 0374811"), ("action", .str "turn_on")]
  isEnabled := true

/-- The table with the rule that sends no command. -/
def silentRule : RuleDb DateTime where
  world := 0
  table := { rows := [silentRow], nodup := by decide }

/-- Any order of names will do. -/
def anyOrder (_ _ : String) : Bool := true

theorem silentRule_turns : silentRule.turns clockEnv anyOrder = [(silentRow.toAutomationRule, 0)] := by
  have hsorted : silentRule.table.enabled anyOrder = silentRule.table.rows :=
    List.mergeSort_of_pairwise (by simp [anyOrder, List.pairwise_of_forall])
  rw [RuleDb.turns, RuleDb.loaded, hsorted]
  rfl

/-- The rule sends no command and nothing is deleted, and still the pass stamps it. -/
theorem silent_rule_is_stamped :
    ¬ RecordsCommands clockEnv anyOrder everyUpdate (fun _ => false) silentRule ∧
      ¬ RecordsCommands clockEnv anyOrder loneUpdate (fun _ => false) silentRule := by
  have hstamped : ∀ checks, ¬ RecordsCommands clockEnv anyOrder checks (fun _ => false) silentRule := by
    intro checks hrecords
    rw [recordsCommands_iff, StampsTogether, silentRule_turns] at hrecords
    have hkept : ¬ LosesStamps clockEnv anyOrder checks (fun _ => false) silentRule := by
      rintro ⟨-, turn, -, -, hdeleted⟩
      cases hdeleted
    obtain ⟨command, hcommand⟩ := (hrecords _ List.mem_cons_self ⟨0, rfl, by decide⟩ rfl).mpr hkept
    cases hcommand
  exact ⟨hstamped everyUpdate, hstamped loneUpdate⟩

end SmartHome
