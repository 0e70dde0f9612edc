import Mathlib.Data.List.Nodup
import Mathlib.Logic.Function.Basic

/-! # Statements that define tables

A schema is the list of its tables. A statement is refused where the database refuses it, and then nothing happens.
What statements about tables of one's own do to these, they do beside any other tables as well. -/

namespace SmartHome.Ddl

/-- The types of columns. -/
inductive SqlType where
  | uuid
  | string (length : ℕ)
  | boolean
  | integer
  | float
  | jsonb
  | timestamp
  deriving DecidableEq, Repr

/-- A foreign key. -/
structure Reference where
  table : String
  column : String
  onDelete : String
  deriving DecidableEq, Repr

/-- A column. -/
structure Column where
  name : String
  type : SqlType
  primaryKey : Bool := false
  unique : Bool := false
  nullable : Bool := true
  /-- `server_default`, as it is written. -/
  default : Option String := none
  references : Option Reference := none
  deriving DecidableEq, Repr

/-- An index. -/
structure Index where
  name : String
  columns : List String
  unique : Bool := false
  deriving DecidableEq, Repr

/-- A constraint over columns. -/
structure UniqueConstraint where
  name : String
  columns : List String
  deriving DecidableEq, Repr

/-- A table with what belongs to it. -/
structure Table where
  name : String
  columns : List Column
  constraints : List UniqueConstraint := []
  indexes : List Index := []
  deriving DecidableEq, Repr

/-- The tables of a database. -/
abbrev Schema := List Table

/-- The values of a row, as texts; `none` is `NULL`. -/
abbrev Row := String → Option String

/-- The rows of each table. -/
abbrev Rows := String → List Row

/-- The values of a column, row by row. -/
def Rows.values (rows : Rows) (table column : String) : List (Option String) := (rows table).map fun row => row column

namespace Table

/-- Tables, constraints and indexes share the space of names. -/
def relations (t : Table) : List String :=
  t.name :: (t.constraints.map UniqueConstraint.name ++ t.indexes.map Index.name)

/-- The table has such a column. -/
def hasColumn (t : Table) (column : String) : Bool := t.columns.any fun c => c.name == column

/-- What a foreign key may refer to. -/
def hasKey (t : Table) (column : String) : Bool :=
  t.columns.any fun c => c.name == column && (c.primaryKey || c.unique)

/-- A column of the table has such a reference. -/
def refersTo (t : Table) (p : Reference → Bool) : Bool := t.columns.any fun c => c.references.any p

/-- A column goes with the indexes and the constraints on it. -/
def dropColumn (t : Table) (column : String) : Table :=
  { t with
    columns := t.columns.filter fun c => c.name != column
    constraints := t.constraints.filter fun c => !c.columns.contains column
    indexes := t.indexes.filter fun i => !i.columns.contains column }

/-- The table without the index. -/
def dropIndex (t : Table) (index : String) : Table := { t with indexes := t.indexes.filter fun i => i.name != index }

end Table

namespace Schema

/-- There is such a table. -/
def hasTable (s : Schema) (name : String) : Bool := s.any fun t => t.name == name

/-- There is a table or an index of this name. -/
def hasRelation (s : Schema) (name : String) : Bool := s.any fun t => t.relations.contains name

/-- There is such a column. -/
def hasColumn (s : Schema) (table column : String) : Bool := s.any fun t => t.name == table && t.hasColumn column

/-- There is such an index. -/
def hasIndex (s : Schema) (name : String) : Bool := s.any fun t => t.indexes.any fun i => i.name == name

/-- The foreign keys of these columns refer to something. -/
def answers (s : Schema) (columns : List Column) : Bool :=
  columns.all fun c => c.references.all fun r => s.any fun t => t.name == r.table && t.hasKey r.column

/-- A foreign key of another table refers to the table, to what `p` says. -/
def isReferenced (s : Schema) (table : String) (p : Reference → Bool) : Bool :=
  s.any fun t => t.name != table && t.refersTo fun r => r.table == table && p r

theorem hasColumn_iff {s : Schema} {table column : String} :
    s.hasColumn table column = true ↔ ∃ t ∈ s, ∃ c ∈ t.columns, t.name = table ∧ c.name = column := by
  simp only [hasColumn, Table.hasColumn, List.any_eq_true, Bool.and_eq_true, beq_iff_eq]
  constructor
  · rintro ⟨t, ht, hname, c, hc, hcolumn⟩
    exact ⟨t, ht, c, hc, hname, hcolumn⟩
  · rintro ⟨t, ht, c, hc, hname, hcolumn⟩
    exact ⟨t, ht, hname, c, hc, hcolumn⟩

/-- `f` of the table with this name. -/
def alter (s : Schema) (name : String) (f : Table → Table) : Schema := s.map fun t => if t.name == name then f t else t

end Schema

/-- A statement of a migration. -/
inductive Statement where
  | createTable (name : String) (columns : List Column) (constraints : List UniqueConstraint)
  | dropTable (name : String)
  | createIndex (index : Index) (table : String)
  | dropIndex (name table : String)
  | addColumn (table : String) (column : Column)
  | dropColumn (table : String) (name : String)
  /-- `UPDATE table SET column = value WHERE condition`, sent if a row satisfies `counted`; both read the columns
      `reads`. -/
  | update (table : String) (reads : List String) (counted condition : Row → Bool) (column value : String)

/-- `NULL`s do not collide. -/
def distinct (keys : List (List (Option String))) : Bool := (keys.filter fun key => !key.contains none).Nodup

namespace Statement

/-- What a statement makes of the tables; `none` if the database refuses it. -/
def onSchema : Statement → Schema → Option Schema
  | createTable name columns constraints, s =>
    let created : Table := { name, columns, constraints }
    if created.relations.any s.hasRelation || !Schema.answers (created :: s) columns then none else some (created :: s)
  | dropTable name, s =>
    if !s.hasTable name || s.isReferenced name (fun _ => true) then none else some (s.filter fun t => t.name != name)
  | createIndex index table, s =>
    if s.hasRelation index.name || !index.columns.all (s.hasColumn table) then none
    else some (s.alter table fun t => { t with indexes := t.indexes ++ [index] })
  | dropIndex name _, s => if !s.hasIndex name then none else some (s.map fun t => t.dropIndex name)
  | addColumn table column, s =>
    if !s.hasTable table || s.hasColumn table column.name || !s.answers [column] then none
    else some (s.alter table fun t => { t with columns := t.columns ++ [column] })
  | dropColumn table name, s =>
    if !s.hasColumn table name || s.isReferenced table (fun r => r.column == name) then none
    else some (s.alter table fun t => t.dropColumn name)
  | update table reads _ _ column _, s => if !(column :: reads).all (s.hasColumn table) then none else some s

/-- The table that the statement names. -/
def table : Statement → String
  | createTable name _ _ | dropTable name | createIndex _ name | dropIndex _ name | addColumn name _ | dropColumn name _
  | update name _ _ _ _ _ => name

/-- What becomes of the rows of this table. Refused where rows collide, or lack a value. -/
def onTable : Statement → List Row → Option (List Row)
  | createTable _ _ _, _ | dropTable _, _ => some []
  | createIndex index _, rows =>
    if index.unique && !distinct (rows.map fun row => index.columns.map row) then none else some rows
  | dropIndex _ _, rows => some rows
  | addColumn _ column, rows =>
    if rows.any (fun _ => !column.nullable && column.default.isNone) ||
        column.unique && !distinct (rows.map fun _ => [column.default]) then none
    else some (rows.map fun row => Function.update row column.name column.default)
  | dropColumn _ name, rows => some (rows.map fun row => Function.update row name none)
  | update _ _ counted condition column value, rows =>
    if rows.any counted then
      some (rows.map fun row => if condition row then Function.update row column (some value) else row)
    else some rows

/-- What a statement makes of the rows of its table; `none` if they do not allow it. -/
def onRows (statement : Statement) (rows : Rows) : Option Rows :=
  (statement.onTable (rows statement.table)).map (Function.update rows statement.table)

end Statement

/-! ## Programs -/

/-- The tables and their rows. -/
structure Store where
  schema : Schema
  rows : Rows

/-- The statements one after the other, on the tables. -/
def onSchema : List Statement → Schema → Option Schema
  | [], s => some s
  | statement :: program, s => (statement.onSchema s).bind (onSchema program)

/-- The statements one after the other, on the rows. -/
def onRows : List Statement → Rows → Option Rows
  | [], rows => some rows
  | statement :: program, rows => (statement.onRows rows).bind (onRows program)

/-- A program in one transaction: where a statement is refused, all of them are. -/
def run (program : List Statement) (s : Store) : Option Store := do
  let schema ← onSchema program s.schema
  let rows ← onRows program s.rows
  some { schema, rows }

theorem run_eq_some {program : List Statement} {s t : Store} :
    run program s = some t ↔ onSchema program s.schema = some t.schema ∧ onRows program s.rows = some t.rows := by
  obtain ⟨schema, rows⟩ := t
  simp only [run, Option.bind_eq_bind, Option.bind_eq_some_iff, Option.some.injEq, Store.mk.injEq]
  constructor
  · rintro ⟨schema', hschema, rows', hrows, rfl, rfl⟩
    exact ⟨hschema, hrows⟩
  · rintro ⟨hschema, hrows⟩
    exact ⟨schema, hschema, rows, hrows, rfl, rfl⟩

/-! ## Beside other tables -/

/-- No other table has a name of these, for itself, an index or a constraint, and none refers to a table of these
    names. -/
structure Foreign (names : List String) (others : Schema) : Prop where
  relation : ∀ t ∈ others, ∀ name ∈ t.relations, name ∉ names
  reference : ∀ t ∈ others, ∀ c ∈ t.columns, ∀ r, c.references = some r → r.table ∉ names

/-- The references of the column go to relations of this list. -/
def Column.owned (names : List String) (c : Column) : Bool := c.references.all fun r => names.contains r.table

/-- The statement is about relations of these names. -/
def Statement.owned (names : List String) : Statement → Bool
  | createTable name columns constraints =>
    names.contains name && columns.all (Column.owned names) && constraints.all fun c => names.contains c.name
  | dropTable name | dropColumn name _ | update name _ _ _ _ _ => names.contains name
  | createIndex { name, .. } table | dropIndex name table => names.contains name && names.contains table
  | addColumn table column => names.contains table && column.owned names

theorem any_beside {own others : Schema} {p : Table → Bool} (h : ∀ t ∈ others, p t = false) :
    List.any (own ++ others) p = List.any own p := by
  have hothers : List.any others p = false := List.any_eq_false.mpr fun t ht => by rw [h t ht]; exact Bool.false_ne_true
  rw [List.any_append, hothers, Bool.or_false]

section Frame
variable {names : List String} {others : Schema} (h : Foreign names others) {own : Schema} {name : String}
include h

theorem Foreign.name_ne {t : Table} (ht : t ∈ others) (hname : name ∈ names) : (t.name == name) = false := by
  rw [beq_eq_false_iff_ne]
  rintro rfl
  exact h.relation t ht t.name List.mem_cons_self hname

theorem Foreign.hasTable (hname : name ∈ names) : Schema.hasTable (own ++ others) name = own.hasTable name :=
  any_beside fun _ ht => h.name_ne ht hname

theorem Foreign.hasRelation (hname : name ∈ names) : Schema.hasRelation (own ++ others) name = own.hasRelation name :=
  any_beside fun t ht => by
    rw [List.contains_eq_mem]
    exact decide_eq_false fun hmem => h.relation t ht name hmem hname

theorem Foreign.hasColumn (hname : name ∈ names) (column : String) :
    Schema.hasColumn (own ++ others) name column = own.hasColumn name column :=
  any_beside fun _ ht => by rw [h.name_ne ht hname, Bool.false_and]

theorem Foreign.hasIndex (hname : name ∈ names) : Schema.hasIndex (own ++ others) name = own.hasIndex name := by
  refine any_beside fun t ht => List.any_eq_false.mpr fun i hi hsame => ?_
  rw [beq_iff_eq] at hsame
  exact h.relation t ht name (List.mem_cons_of_mem _ (List.mem_append_right _ (List.mem_map.mpr ⟨i, hi, hsame⟩))) hname

theorem Foreign.answers {columns : List Column} (hcolumns : columns.all (Column.owned names) = true) :
    Schema.answers (own ++ others) columns = own.answers columns := by
  rw [Schema.answers, Schema.answers, Bool.eq_iff_iff, List.all_eq_true, List.all_eq_true]
  refine forall₂_congr fun c hc => ?_
  have howned := List.all_eq_true.mp hcolumns c hc
  rw [Column.owned] at howned
  cases hrefers : c.references with
  | none => exact Iff.rfl
  | some r =>
    rw [hrefers, Option.all_some, List.contains_iff_mem] at howned
    rw [Option.all_some, Option.all_some, any_beside fun t ht => by rw [h.name_ne ht howned, Bool.false_and]]

theorem Foreign.isReferenced (hname : name ∈ names) (p : Reference → Bool) :
    Schema.isReferenced (own ++ others) name p = own.isReferenced name p := by
  refine any_beside fun t ht => ?_
  have hrefers : (t.refersTo fun r => r.table == name && p r) = false := by
    refine List.any_eq_false.mpr fun c hc hany => ?_
    cases hr : c.references with
    | none => rw [hr] at hany; exact Bool.false_ne_true hany
    | some r =>
      rw [hr, Option.any_some, Bool.and_eq_true, beq_iff_eq] at hany
      exact h.reference t ht c hc r hr (hany.1 ▸ hname)
  rw [hrefers, Bool.and_false]

theorem Foreign.alter (hname : name ∈ names) (f : Table → Table) :
    Schema.alter (own ++ others) name f = own.alter name f ++ others := by
  have hothers : Schema.alter others name f = others := by
    refine (List.map_congr_left fun t ht => ?_).trans (List.map_id _)
    rw [h.name_ne ht hname]
    rfl
  rw [Schema.alter, List.map_append]
  exact congrArg _ hothers

theorem Foreign.filter (hname : name ∈ names) :
    (own ++ others).filter (fun t => t.name != name) = own.filter (fun t => t.name != name) ++ others := by
  have hothers : others.filter (fun t => t.name != name) = others :=
    List.filter_eq_self.mpr fun t ht => by rw [bne, h.name_ne ht hname]; rfl
  rw [List.filter_append, hothers]

theorem Foreign.dropIndex (hname : name ∈ names) :
    (own ++ others).map (fun t => t.dropIndex name) = own.map (fun t => t.dropIndex name) ++ others := by
  have hothers : others.map (fun t => t.dropIndex name) = others := by
    refine (List.map_congr_left fun t ht => ?_).trans (List.map_id _)
    have hkept : t.indexes.filter (fun i => i.name != name) = t.indexes := by
      refine List.filter_eq_self.mpr fun i hi => bne_iff_ne.mpr ?_
      rintro rfl
      exact h.relation t ht i.name (List.mem_cons_of_mem _ (List.mem_append_right _ (List.mem_map_of_mem hi))) hname
    rw [Table.dropIndex, hkept]
    rfl
  rw [List.map_append, hothers]

theorem Foreign.statement {statement : Statement} (howned : statement.owned names = true) :
    statement.onSchema (own ++ others) = (statement.onSchema own).map fun s => s ++ others := by
  cases statement with
  | createTable name columns constraints =>
    simp only [Statement.owned, Bool.and_eq_true, List.contains_iff_mem] at howned
    obtain ⟨⟨hname, hcolumns⟩, hconstraints⟩ := howned
    have hrelations : ∀ r ∈ ({ name, columns, constraints } : Table).relations, r ∈ names := by
      intro r hr
      rcases List.mem_cons.mp hr with rfl | hr
      · exact hname
      · rw [List.map_nil, List.append_nil] at hr
        obtain ⟨c, hc, rfl⟩ := List.mem_map.mp hr
        exact List.contains_iff_mem.mp (List.all_eq_true.mp hconstraints c hc)
    have htaken : ({ name, columns, constraints } : Table).relations.any (Schema.hasRelation (own ++ others)) =
        ({ name, columns, constraints } : Table).relations.any own.hasRelation := by
      rw [Bool.eq_iff_iff, List.any_eq_true, List.any_eq_true]
      exact exists_congr fun r => and_congr_right fun hr => by rw [h.hasRelation (hrelations r hr)]
    simp only [Statement.onSchema]
    rw [htaken, ← List.cons_append, h.answers hcolumns]
    split <;> rfl
  | dropTable name =>
    rw [Statement.owned, List.contains_iff_mem] at howned
    simp only [Statement.onSchema, h.hasTable howned, h.isReferenced howned, h.filter howned]
    split <;> rfl
  | createIndex index table =>
    simp only [Statement.owned, Bool.and_eq_true, List.contains_iff_mem] at howned
    have hcolumns : Schema.hasColumn (own ++ others) table = own.hasColumn table := funext (h.hasColumn howned.2)
    simp only [Statement.onSchema, h.hasRelation howned.1, hcolumns, h.alter howned.2]
    split <;> rfl
  | dropIndex name table =>
    simp only [Statement.owned, Bool.and_eq_true, List.contains_iff_mem] at howned
    simp only [Statement.onSchema, h.hasIndex howned.1, h.dropIndex howned.1]
    split <;> rfl
  | addColumn table column =>
    simp only [Statement.owned, Bool.and_eq_true, List.contains_iff_mem] at howned
    have hcolumn : [column].all (Column.owned names) = true := by rw [List.all_cons, howned.2]; rfl
    simp only [Statement.onSchema, h.hasTable howned.1, h.hasColumn howned.1, h.answers hcolumn, h.alter howned.1]
    split <;> rfl
  | dropColumn table name =>
    rw [Statement.owned, List.contains_iff_mem] at howned
    simp only [Statement.onSchema, h.hasColumn howned, h.isReferenced howned, h.alter howned]
    split <;> rfl
  | update table reads counted condition column value =>
    rw [Statement.owned, List.contains_iff_mem] at howned
    have hcolumns : Schema.hasColumn (own ++ others) table = own.hasColumn table := funext (h.hasColumn howned)
    simp only [Statement.onSchema, hcolumns]
    split <;> rfl

theorem Foreign.program {program : List Statement} (howned : program.all (Statement.owned names) = true) :
    onSchema program (own ++ others) = (onSchema program own).map fun s => s ++ others := by
  induction program generalizing own with
  | nil => rfl
  | cons statement program ih =>
    rw [List.all_cons, Bool.and_eq_true] at howned
    rw [onSchema, onSchema, h.statement howned.1]
    cases statement.onSchema own with
    | none => rfl
    | some between => exact ih howned.2

end Frame

/-! ## What happens to the rows -/

theorem onRows_cons {statement : Statement} {program : List Statement} {rows rows' : Rows} :
    onRows (statement :: program) rows = some rows' ↔
      ∃ between, statement.onRows rows = some between ∧ onRows program between = some rows' :=
  Option.bind_eq_some_iff

theorem Statement.onRows_eq_some {statement : Statement} {rows rows' : Rows} :
    statement.onRows rows = some rows' ↔
      ∃ written, statement.onTable (rows statement.table) = some written ∧
        Function.update rows statement.table written = rows' :=
  Option.map_eq_some_iff

theorem Statement.table_mem {statement : Statement} {names : List String} (howned : statement.owned names = true) :
    statement.table ∈ names := by
  cases statement <;> simp only [owned, Bool.and_eq_true, List.contains_iff_mem] at howned
  case createTable => exact howned.1.1
  case dropTable => exact howned
  case createIndex => exact howned.2
  case dropIndex => exact howned.2
  case addColumn => exact howned.1
  case dropColumn => exact howned
  case update => exact howned

/-- The rows of other tables stay as they are. -/
theorem onRows_foreign {program : List Statement} {names : List String} {rows rows' : Rows} {table : String}
    (howned : program.all (Statement.owned names) = true) (htable : table ∉ names)
    (hrun : onRows program rows = some rows') : rows' table = rows table := by
  induction program generalizing rows with
  | nil =>
    cases hrun
    rfl
  | cons statement program ih =>
    rw [List.all_cons, Bool.and_eq_true] at howned
    obtain ⟨between, hstatement, hrest⟩ := onRows_cons.mp hrun
    obtain ⟨written, -, rfl⟩ := Statement.onRows_eq_some.mp hstatement
    have hne : table ≠ statement.table := fun heq => htable (heq ▸ Statement.table_mem howned.1)
    rw [ih howned.2 hrest, Function.update_of_ne hne]

/-! ### Statements that no row can hinder -/

/-- Unique indexes, and columns that need a value or a value of their own, come only to `fresh` tables. -/
def Statement.free (fresh : List String) : Statement → Bool
  | createIndex index table => !index.unique || fresh.contains table
  | addColumn table column => (column.nullable || column.default.isSome) && !column.unique || fresh.contains table
  | _ => true

/-- The table that has no rows after the statement. -/
def Statement.emptied : Statement → List String
  | createTable name _ _ | dropTable name => [name]
  | _ => []

/-- No row can hinder a statement of the program. -/
def free : List String → List Statement → Bool
  | _, [] => true
  | fresh, statement :: program => statement.free fresh && free (statement.emptied ++ fresh) program

theorem Statement.onTable_of_free {statement : Statement} {fresh : List String} {rows : List Row}
    (hfree : statement.free fresh = true) (hempty : statement.table ∈ fresh → rows = []) :
    ∃ written, statement.onTable rows = some written := by
  cases statement with
  | createIndex index name =>
    rw [free, Bool.or_eq_true, List.contains_iff_mem, Bool.not_eq_true'] at hfree
    rw [onTable]
    rcases hfree with hunique | hfresh
    · rw [hunique]
      exact ⟨rows, rfl⟩
    · obtain rfl := hempty hfresh
      exact ⟨[], by rw [List.map_nil, show distinct [] = true from rfl, Bool.not_true, Bool.and_false]; rfl⟩
  | addColumn name column =>
    rw [free, Bool.or_eq_true, List.contains_iff_mem, Bool.and_eq_true, Bool.not_eq_true'] at hfree
    rw [onTable]
    rcases hfree with ⟨hvalue, hunique⟩ | hfresh
    · have hany : rows.any (fun _ => !column.nullable && column.default.isNone) = false := by
        refine List.any_eq_false.mpr fun _ _ => ?_
        cases hnull : column.nullable <;> cases hdefault : column.default <;> simp_all
      rw [hany, hunique]
      exact ⟨_, rfl⟩
    · obtain rfl := hempty hfresh
      exact ⟨[], by rw [List.map_nil, show distinct [] = true from rfl, Bool.not_true, Bool.and_false]; rfl⟩
  | update name reads counted condition column value =>
    rw [onTable]
    split <;> exact ⟨_, rfl⟩
  | _ => exact ⟨_, rfl⟩

theorem Statement.onTable_emptied {statement : Statement} {rows written : List Row}
    (hrun : statement.onTable rows = some written) (h : statement.table ∈ statement.emptied ∨ rows = []) :
    written = [] := by
  cases statement with
  | createTable => cases hrun; rfl
  | dropTable => cases hrun; rfl
  | createIndex =>
    obtain rfl := h.resolve_left List.not_mem_nil
    rw [onTable] at hrun
    split at hrun <;> cases hrun
    rfl
  | dropIndex =>
    obtain rfl := h.resolve_left List.not_mem_nil
    cases hrun; rfl
  | addColumn =>
    obtain rfl := h.resolve_left List.not_mem_nil
    rw [onTable] at hrun
    split at hrun <;> cases hrun
    rfl
  | dropColumn =>
    obtain rfl := h.resolve_left List.not_mem_nil
    cases hrun; rfl
  | update =>
    obtain rfl := h.resolve_left List.not_mem_nil
    cases hrun; rfl

/-- The database refuses no statement of such a program on account of the rows there are. -/
theorem onRows_of_free {program : List Statement} {fresh : List String} {rows : Rows}
    (hfree : free fresh program = true) (hempty : ∀ table ∈ fresh, rows table = []) :
    ∃ rows', onRows program rows = some rows' := by
  induction program generalizing fresh rows with
  | nil => exact ⟨rows, rfl⟩
  | cons statement program ih =>
    rw [free, Bool.and_eq_true] at hfree
    obtain ⟨written, hwritten⟩ := Statement.onTable_of_free hfree.1 (hempty statement.table)
    have hnext : ∀ table ∈ statement.emptied ++ fresh, Function.update rows statement.table written table = [] := by
      intro table htable
      by_cases heq : table = statement.table
      · subst heq
        rw [Function.update_self]
        exact Statement.onTable_emptied hwritten ((List.mem_append.mp htable).imp_right (hempty _))
      · rw [Function.update_of_ne heq]
        rcases List.mem_append.mp htable with hmem | hmem
        · cases statement <;> simp [Statement.emptied] at hmem <;> exact absurd hmem heq
        · exact hempty table hmem
    obtain ⟨rows', hrest⟩ := ih hfree.2 hnext
    exact ⟨rows', onRows_cons.mpr ⟨_, Statement.onRows_eq_some.mpr ⟨written, hwritten, rfl⟩, hrest⟩⟩

/-- Such a program does beside other tables what it does without them. -/
theorem Foreign.run {names : List String} {others before after : Schema} {program : List Statement} {s : Store}
    (h : Foreign names others) (howned : program.all (Statement.owned names) = true) (hfree : free [] program = true)
    (hprogram : onSchema program before = some after) (hs : s.schema = before ++ others) :
    ∃ t, Ddl.run program s = some t ∧ t.schema = after ++ others ∧ onRows program s.rows = some t.rows := by
  obtain ⟨rows, hrows⟩ := onRows_of_free hfree fun table htable => absurd htable List.not_mem_nil
  refine ⟨{ schema := after ++ others, rows }, run_eq_some.mpr ⟨?_, hrows⟩, rfl, hrows⟩
  rw [hs, h.program howned, hprogram, Option.map_some]

/-! ### Columns that a program leaves alone -/

/-- The statement keeps the values of the column. -/
def Statement.keeps (column : String) : Statement → Bool
  | createTable _ _ _ | dropTable _ => false
  | createIndex _ _ | dropIndex _ _ => true
  | addColumn _ c => c.name != column
  | dropColumn _ name | update _ _ _ _ name _ => name != column

/-- No statement touches this column of this table. -/
def spares (table column : String) (program : List Statement) : Bool :=
  program.all fun statement => statement.table != table || statement.keeps column

theorem map_update_of_ne {column name : String} (hne : (name != column) = true) (f : Row → Row) {rows : List Row}
    (hf : ∀ row, f row = row ∨ ∃ value, f row = Function.update row name value) :
    (rows.map f).map (fun row => row column) = rows.map fun row => row column := by
  rw [List.map_map]
  refine List.map_congr_left fun row _ => ?_
  rcases hf row with heq | ⟨value, heq⟩
  · exact congrFun heq column
  · exact (congrFun heq column).trans (Function.update_of_ne (bne_iff_ne.mp hne).symm _ _)

theorem Statement.onTable_values {statement : Statement} {column : String} {rows written : List Row}
    (hkeeps : statement.keeps column = true) (hrun : statement.onTable rows = some written) :
    written.map (fun row => row column) = rows.map fun row => row column := by
  cases statement with
  | createTable => cases hkeeps
  | dropTable => cases hkeeps
  | createIndex index name =>
    rw [onTable] at hrun
    split at hrun <;> cases hrun
    rfl
  | dropIndex => cases hrun; rfl
  | addColumn name c =>
    rw [onTable] at hrun
    split at hrun <;> cases hrun
    exact map_update_of_ne hkeeps _ fun row => Or.inr ⟨_, rfl⟩
  | dropColumn name c =>
    cases hrun
    exact map_update_of_ne hkeeps _ fun row => Or.inr ⟨_, rfl⟩
  | update name reads counted condition c value =>
    rw [onTable] at hrun
    split at hrun <;> cases hrun
    · refine map_update_of_ne hkeeps _ fun row => ?_
      split
      · exact Or.inr ⟨_, rfl⟩
      · exact Or.inl rfl
    · rfl

theorem values_of_spares {program : List Statement} {table column : String} {rows rows' : Rows}
    (hspares : spares table column program = true) (hrun : onRows program rows = some rows') :
    rows'.values table column = rows.values table column := by
  induction program generalizing rows with
  | nil =>
    cases hrun
    rfl
  | cons statement program ih =>
    rw [spares, List.all_cons, Bool.and_eq_true, Bool.or_eq_true, bne_iff_ne] at hspares
    obtain ⟨between, hstatement, hrest⟩ := onRows_cons.mp hrun
    obtain ⟨written, hwritten, rfl⟩ := Statement.onRows_eq_some.mp hstatement
    refine (ih hspares.2 hrest).trans ?_
    rw [Rows.values, Rows.values]
    by_cases heq : statement.table = table
    · subst heq
      rw [Function.update_self]
      exact Statement.onTable_values (hspares.1.resolve_left fun hne => hne rfl) hwritten
    · rw [Function.update_of_ne (Ne.symm heq)]

end SmartHome.Ddl
