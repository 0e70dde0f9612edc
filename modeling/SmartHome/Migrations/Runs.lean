import SmartHome.Migrations.Models

/-! # Migrating

The commands that change the revision of the database (`alembic upgrade`, `alembic downgrade`; `migrations/env.py`
runs each of them in one transaction), among what the application writes and beside tables of others. -/

namespace SmartHome.Migrations
open Ddl Revisions

/-- The relations that the scripts create. -/
def names : List String := (schemaAt migrations.length).flatMap Table.relations

/-! ## The scripts one by one -/

section Scripts
variable {i : ℕ} (hi : i < migrations.length)

theorem upgrade_schemaAt : onSchema migrations[i].upgrade (schemaAt i) = some (schemaAt (i + 1)) := by
  have hall : ∀ i (hi : i < migrations.length),
      onSchema migrations[i].upgrade (schemaAt i) = some (schemaAt (i + 1)) := by
    decide
  exact hall i hi

theorem downgrade_schemaAt : onSchema migrations[i].downgrade (schemaAt (i + 1)) = some (schemaAt i) := by
  have hall : ∀ i (hi : i < migrations.length),
      onSchema migrations[i].downgrade (schemaAt (i + 1)) = some (schemaAt i) := by
    decide
  exact hall i hi

theorem owned_programs {m : Migration} (hm : m ∈ migrations) :
    m.upgrade.all (Statement.owned names) = true ∧ m.downgrade.all (Statement.owned names) = true := by
  have hall : ∀ m ∈ migrations, m.upgrade.all (Statement.owned names) = true ∧
      m.downgrade.all (Statement.owned names) = true := by
    decide
  exact hall m hm

theorem free_programs {m : Migration} (hm : m ∈ migrations) :
    free [] m.upgrade = true ∧ free [] m.downgrade = true := by
  have hall : ∀ m ∈ migrations, free [] m.upgrade = true ∧ free [] m.downgrade = true := by decide
  exact hall m hm

include hi in
theorem hasColumn_succ {table column : String} (hcolumn : (schemaAt i).hasColumn table column = true) :
    (schemaAt (i + 1)).hasColumn table column = true := by
  have hall : ∀ i < migrations.length, ∀ t ∈ schemaAt i, ∀ c ∈ t.columns,
      (schemaAt (i + 1)).hasColumn t.name c.name = true := by
    decide
  obtain ⟨t, ht, c, hc, rfl, rfl⟩ := Schema.hasColumn_iff.mp hcolumn
  exact hall i hi t ht c hc

/-- Whether a device is active is the one value that scripts change. -/
theorem spares_programs {table column : String} (hcolumn : (schemaAt i).hasColumn table column = true)
    (hne : (table, column) ≠ ("devices", "is_active")) :
    spares table column migrations[i].upgrade = true ∧ spares table column migrations[i].downgrade = true := by
  have hall : ∀ i (hi : i < migrations.length), ∀ t ∈ schemaAt i, ∀ c ∈ t.columns,
      (t.name, c.name) ≠ ("devices", "is_active") →
      spares t.name c.name migrations[i].upgrade = true ∧ spares t.name c.name migrations[i].downgrade = true := by
    decide
  obtain ⟨t, ht, c, hc, rfl, rfl⟩ := Schema.hasColumn_iff.mp hcolumn
  exact hall i hi t ht c hc hne

end Scripts

theorem linear_scripts : Linear scripts where
  nodup := by decide
  follows := by decide

theorem scripts_upgrade {i : ℕ} (_ : i < scripts.length) (_ : i < migrations.length) :
    scripts[i].upgrade = run migrations[i].upgrade :=
  congrArg Script.upgrade (List.getElem_map Migration.script)

theorem scripts_downgrade {i : ℕ} (_ : i < scripts.length) (_ : i < migrations.length) :
    scripts[i].downgrade = run migrations[i].downgrade :=
  congrArg Script.downgrade (List.getElem_map Migration.script)

/-! ## Every revision has its tables -/

section Runs
variable {others : Schema} (h : Foreign names others)
include h

/-- The tables of the scripts are those of the revision. -/
def TablesAt (others : Schema) (i : ℕ) (s : Store) : Prop := s.schema = schemaAt i ++ others

theorem upgrade_tables {i : ℕ} (hi : i < migrations.length) {s : Store} (hs : TablesAt others i s) :
    ∃ t, run migrations[i].upgrade s = some t ∧ TablesAt others (i + 1) t ∧
      onRows migrations[i].upgrade s.rows = some t.rows :=
  h.run (owned_programs (List.getElem_mem hi)).1 (free_programs (List.getElem_mem hi)).1 (upgrade_schemaAt hi) hs

theorem downgrade_tables {i : ℕ} (hi : i < migrations.length) {s : Store} (hs : TablesAt others (i + 1) s) :
    ∃ t, run migrations[i].downgrade s = some t ∧ TablesAt others i t ∧
      onRows migrations[i].downgrade s.rows = some t.rows :=
  h.run (owned_programs (List.getElem_mem hi)).2 (free_programs (List.getElem_mem hi)).2 (downgrade_schemaAt hi) hs

theorem sound_tables : Sound scripts 0 (TablesAt others) where
  linear := linear_scripts
  upgrade i hi s _ hs := by
    have hi' : i < migrations.length := List.length_map Migration.script ▸ hi
    obtain ⟨t, hrun, ht, -⟩ := upgrade_tables h hi' hs
    exact ⟨t, (congrFun (scripts_upgrade hi hi') s).trans hrun, ht⟩
  downgrade i hi s _ hs := by
    have hi' : i < migrations.length := List.length_map Migration.script ▸ hi
    obtain ⟨t, hrun, ht, -⟩ := downgrade_tables h hi' hs
    exact ⟨t, (congrFun (scripts_downgrade hi hi') s).trans hrun, ht⟩

end Runs

/-- The application writes rows, and no tables. -/
def OnlyRows (v : Versioned Store) (e : Event Store) : Prop := ∀ store, e = .write store → store.schema = v.store.schema

/-- The database is in the revision `i`, and no command fails in it but for the lack of revisions. A command over no
    revision is refused. -/
structure Migrated (others : Schema) (i : ℕ) (v : Versioned Store) : Prop where
  below : i ≤ migrations.length
  version : v.version = versionAt scripts i
  tables : v.store.schema = schemaAt i ++ others
  upgrade : ∀ n, (∃ w, execute scripts v (.upgrade n) = some w) ↔ 0 < n ∧ i + n ≤ migrations.length
  downgrade : ∀ n, (∃ w, execute scripts v (.downgrade n) = some w) ↔ 0 < n ∧ n ≤ i
  /-- As the container does before it starts the application. -/
  upgradeHead : ∃ w, execute scripts v .upgradeHead = some w ∧ w.version = some "0008" ∧ ServesAll w.store.schema

/-- In every run of commands and writes, from a database in which only others have tables. -/
theorem runs_stay_migrated {others : Schema} (h : Foreign names others) {rows : Rows} {es : List (Event Store)}
    {v : Versioned Store} (honly : Run.Meets (step scripts) OnlyRows ⟨none, ⟨others, rows⟩⟩ es)
    (hrun : Run.run (step scripts) ⟨none, ⟨others, rows⟩⟩ es = some v) : ∃ i, Migrated others i v := by
  have hsound := sound_tables h
  have hstart : Standing scripts 0 (TablesAt others) 0 ⟨none, ⟨others, rows⟩⟩ :=
    ⟨Nat.le_refl 0, Nat.zero_le _, rfl, rfl⟩
  have hmeets : Run.Meets (step scripts) (fun v e => Above scripts 0 v e ∧ Fitting (TablesAt others) v e)
      ⟨none, ⟨others, rows⟩⟩ es :=
    honly.imp (I := fun _ => True) (fun _ _ _ => trivial)
      (fun _ hok => ⟨fun _ _ _ => Nat.zero_le _, fun store he i hi => (hok store he).trans hi⟩) trivial
  obtain ⟨i, hv⟩ := hsound.standing_of_run hstart hmeets hrun
  refine ⟨i, List.length_map Migration.script ▸ hv.below, hv.version, hv.store, fun n => ?_, fun n => ?_, ?_⟩
  · rw [hsound.execute_upgrade_iff hv, scripts, List.length_map]
  · exact hsound.execute_downgrade_iff hv
  · obtain ⟨w, hw, hlast⟩ := hsound.execute_upgradeHead hv
    refine ⟨w, hw, hlast.version, ?_⟩
    rw [show w.store.schema = schemaAt scripts.length ++ others from hlast.store, scripts, List.length_map]
    exact servesAll_last others

/-- The table in which the revision is kept. -/
def alembicVersion : Table :=
  { name := "alembic_version", columns := [required "version_num" (.string 32)] }

theorem alembicVersion_foreign : Foreign names [alembicVersion] where
  relation := by
    have hall : ∀ t ∈ [alembicVersion], ∀ name ∈ t.relations, name ∉ names := by decide
    exact hall
  reference t ht c hc r hr := by
    have hnone : ∀ t ∈ [alembicVersion], ∀ c ∈ t.columns, c.references = none := by decide
    rw [hnone t ht c hc] at hr
    cases hr

/-- The database with the first administrator. -/
def seeded : Store :=
  { schema := schemaAt 8 ++ [alembicVersion]
    rows := fun table =>
      if table = "users" then [fun column => if column = "email" then some "admin@local" else none] else [] }

/-- The administrator is stored; the groups go and come again. -/
def regrouping : List (Event Store) :=
  [.command .upgradeHead, .write seeded, .command (.downgrade 3), .command (.upgrade 1)]

theorem regrouping_migrated : ∃ v i,
    Run.run (step scripts) ⟨none, ⟨[alembicVersion], fun _ => []⟩⟩ regrouping = some v ∧ v.version = some "0006" ∧
      Migrated [alembicVersion] i v := by
  have honly : Run.Meets (step scripts) OnlyRows ⟨none, ⟨[alembicVersion], fun _ => []⟩⟩ regrouping := by
    refine ⟨nofun, fun v hv => ⟨fun store hstore => ?_, fun _ _ => ⟨nofun, fun _ _ => ⟨nofun, fun _ _ => trivial⟩⟩⟩⟩
    cases hstore
    cases hv
    decide
  have hversion : (Run.run (step scripts) ⟨none, ⟨[alembicVersion], fun _ => []⟩⟩ regrouping).map Versioned.version =
      some (some "0006") := by
    decide
  obtain ⟨v, hrun, hversion⟩ := Option.map_eq_some_iff.mp hversion
  obtain ⟨i, hv⟩ := runs_stay_migrated alembicVersion_foreign honly hrun
  exact ⟨v, i, hrun, hversion, hv⟩

/-! ## Values outlive the scripts -/

theorem hasColumn_mono {i j : ℕ} (hij : i ≤ j) (hj : j ≤ migrations.length) {table column : String}
    (hcolumn : (schemaAt i).hasColumn table column = true) : (schemaAt j).hasColumn table column = true := by
  induction j, hij using Nat.le_induction with
  | base => exact hcolumn
  | succ j hij ih => exact hasColumn_succ hj (ih (Nat.le_of_succ_le hj))

/-- The tables are those of the revision, and but for `is_active` the columns there were `before` have their values. -/
structure KeptAt (others : Schema) (before : Store) (i : ℕ) (s : Store) : Prop where
  tables : TablesAt others i s
  values : ∀ table column, before.schema.hasColumn table column = true → (table, column) ≠ ("devices", "is_active") →
    s.rows.values table column = before.rows.values table column

section Kept
variable {others : Schema} (h : Foreign names others) {floor i : ℕ} {before : Store}
  (hbefore : TablesAt others floor before)
include h hbefore

theorem values_of_program {program : List Statement} {table column : String} {rows rows' : Rows}
    (howned : program.all (Statement.owned names) = true)
    (hspares : (schemaAt floor).hasColumn table column = true → spares table column program = true)
    (hcolumn : before.schema.hasColumn table column = true) (hrun : onRows program rows = some rows') :
    rows'.values table column = rows.values table column := by
  obtain ⟨t, ht, c, hc, rfl, rfl⟩ := Schema.hasColumn_iff.mp hcolumn
  rw [hbefore] at ht
  rcases List.mem_append.mp ht with hown | hother
  · exact values_of_spares (hspares (Schema.hasColumn_iff.mpr ⟨t, hown, c, hc, rfl, rfl⟩)) hrun
  · have hforeign : t.name ∉ names := h.relation t hother t.name List.mem_cons_self
    rw [Rows.values, Rows.values, onRows_foreign howned hforeign hrun]

theorem sound_kept : Sound scripts floor (KeptAt others before) where
  linear := linear_scripts
  upgrade i hi s hfloor hs := by
    have hi' : i < migrations.length := List.length_map Migration.script ▸ hi
    obtain ⟨t, hrun, ht, hrows⟩ := upgrade_tables h hi' hs.tables
    refine ⟨t, (congrFun (scripts_upgrade hi hi') s).trans hrun, ht, fun table column hcolumn hne => ?_⟩
    rw [← hs.values table column hcolumn hne]
    exact values_of_program h hbefore (owned_programs (List.getElem_mem hi')).1
      (fun hown => (spares_programs hi' (hasColumn_mono hfloor (Nat.le_of_lt hi') hown) hne).1) hcolumn hrows
  downgrade i hi s hfloor hs := by
    have hi' : i < migrations.length := List.length_map Migration.script ▸ hi
    obtain ⟨t, hrun, ht, hrows⟩ := downgrade_tables h hi' hs.tables
    refine ⟨t, (congrFun (scripts_downgrade hi hi') s).trans hrun, ht, fun table column hcolumn hne => ?_⟩
    rw [← hs.values table column hcolumn hne]
    exact values_of_program h hbefore (owned_programs (List.getElem_mem hi')).2
      (fun hown => (spares_programs hi' (hasColumn_mono hfloor (Nat.le_of_lt hi') hown) hne).2) hcolumn hrows

end Kept

/-- What commands make of a database that they do not take below its revision. -/
structure Survived (v w : Versioned Store) : Prop where
  values : ∀ table column, v.store.schema.hasColumn table column = true → (table, column) ≠ ("devices", "is_active") →
    w.store.rows.values table column = v.store.rows.values table column
  back : w.version = v.version → w.store.schema = v.store.schema

/-- Every value in every row of every table survives any upgrades and downgrades that do not go below the revision, only
    not whether a device is active; and back in the revision the tables are what they were. -/
theorem values_survive_commands {others : Schema} (h : Foreign names others) {i : ℕ} {v w : Versioned Store}
    {commands : List Revisions.Command} (hv : Standing scripts i (TablesAt others) i v)
    (habove : Run.Meets (step scripts) (Above scripts i) v (commands.map .command))
    (hrun : Run.run (step scripts) v (commands.map .command) = some w) : Survived v w := by
  have hsound := sound_kept h hv.store
  have hstart : Standing scripts i (KeptAt others v.store) i v :=
    ⟨hv.above, hv.below, hv.version, hv.store, fun _ _ _ _ => rfl⟩
  have hfitting : Run.Meets (step scripts) (Fitting (KeptAt others v.store)) v (commands.map .command) := by
    refine Run.meets_of_mem fun e he s store hwrite => ?_
    obtain ⟨c, -, rfl⟩ := List.mem_map.mp he
    cases hwrite
  obtain ⟨j, hw⟩ := hsound.standing_of_run hstart (habove.and hfitting) hrun
  refine ⟨hw.store.values, fun hversion => ?_⟩
  rw [hw.version, hv.version] at hversion
  obtain rfl := linear_scripts.versionAt_inj hw.below hv.below hversion
  exact hw.store.tables.trans hv.store.symm

/-- A database before the groups, with a device that is not active. -/
def groupless : Versioned Store :=
  { version := some "0005"
    store :=
      { schema := schemaAt 5 ++ [alembicVersion]
        rows := fun table =>
          if table = "devices" then
            [fun column =>
              if column = "ain" then some "09995 0000123"
              else if column = "is_active" then some "false"
              else none]
          else [] } }

theorem groupless_survives : ∃ w,
    Run.run (step scripts) groupless ([Revisions.Command.upgradeHead, .downgrade 3].map .command) = some w ∧
    Survived groupless w ∧ w.store.rows.values "devices" "ain" = [some "09995 0000123"] := by
  have hv : Standing scripts 5 (TablesAt [alembicVersion]) 5 groupless := ⟨Nat.le_refl 5, by decide, rfl, rfl⟩
  have habove : Run.Meets (step scripts) (Above scripts 5) groupless
      ([Revisions.Command.upgradeHead, .downgrade 3].map .command) := by
    refine ⟨fun i hi hversion => ?_, fun v hv => ⟨fun i hi hversion => ?_, fun _ _ => trivial⟩⟩
    · obtain rfl : 5 = i := linear_scripts.versionAt_inj (by decide) hi (Eq.trans rfl hversion)
      exact Nat.le_refl 5
    · have hhead : v.version = versionAt scripts 8 := by
        cases hv
        decide
      obtain rfl := linear_scripts.versionAt_inj (by decide) hi (hhead.symm.trans hversion)
      exact Nat.le_refl 5
  obtain ⟨w, hrun⟩ : ∃ w,
      Run.run (step scripts) groupless ([Revisions.Command.upgradeHead, .downgrade 3].map .command) = some w :=
    ⟨_, rfl⟩
  have hsurvived := values_survive_commands alembicVersion_foreign hv habove hrun
  exact ⟨w, hrun, hsurvived, hsurvived.values "devices" "ain" (by decide) (by decide)⟩

end SmartHome.Migrations
