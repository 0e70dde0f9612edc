import SmartHome.Migrations.Scripts

/-! # The mapped tables

What the classes of `app/*/models.py` declare. -/

namespace SmartHome.Migrations
open Ddl

/-- A class with `__tablename__ = table`; `index=True` stands for an index, and with `unique=True` for a unique one. -/
def mapped (table : String) (columns : List Column) (indexed : List (String × Bool))
    (constraints : List UniqueConstraint := []) : Table :=
  { name := table
    columns
    constraints
    indexes := indexed.map fun (column, unique) =>
      { name := "ix_" ++ table ++ "_" ++ column, columns := [column], unique } }

namespace Models

/-- `User`. -/
def user : Table :=
  mapped "users"
    [ id,
      createdAt,
      updatedAt,
      required "email" (.string 255),
      required "hashed_password" (.string 255),
      required "role" (.string 20),
      required "is_active" .boolean,
      optional "full_name" (.string 255) ]
    [("id", false), ("email", true), ("role", false)]

/-- `Device`. -/
def device : Table :=
  mapped "devices"
    [ id,
      createdAt,
      updatedAt,
      required "ain" (.string 64),
      required "name" (.string 255),
      required "device_type" (.string 32),
      required "capabilities" .jsonb,
      optional "location" (.string 255),
      required "is_active" .boolean,
      optional "last_seen" .timestamp,
      optional "firmware_version" (.string 32),
      required "is_favorite" .boolean (some "false"),
      required "display_order" .integer (some "0") ]
    [("id", false), ("ain", true)]

/-- `DeviceStateSnapshot`. -/
def deviceStateSnapshot : Table :=
  mapped "device_state_snapshots"
    [ id,
      required "device_id" .uuid,
      required "ain" (.string 64),
      required "recorded_at" .timestamp,
      optional "is_on" .boolean,
      optional "temperature_celsius" .float,
      optional "target_temperature" .float,
      optional "power_watts" .float,
      optional "energy_wh" .float,
      optional "brightness_level" .integer ]
    [("id", false), ("device_id", false), ("ain", false), ("recorded_at", false)]

/-- `Schedule`. -/
def schedule : Table :=
  mapped "schedules"
    [ id,
      createdAt,
      updatedAt,
      required "name" (.string 255),
      optional "description" (.string 1000),
      required "trigger_type" (.string 32),
      required "trigger_config" .jsonb,
      required "action_type" (.string 32),
      required "action_config" .jsonb,
      required "is_enabled" .boolean,
      optional "last_triggered" .timestamp,
      optional "created_by" .uuid ]
    [("id", false)]

/-- `AutomationRule`. -/
def automationRule : Table :=
  mapped "automation_rules"
    [ id,
      createdAt,
      updatedAt,
      required "name" (.string 255),
      optional "description" (.string 1000),
      required "trigger_type" (.string 32),
      required "trigger_config" .jsonb,
      optional "condition_config" .jsonb,
      required "action_type" (.string 32),
      required "action_config" .jsonb,
      required "is_enabled" .boolean,
      optional "last_triggered" .timestamp,
      optional "created_by" .uuid ]
    [("id", false)]

/-- `AuditEvent`. -/
def auditEvent : Table :=
  mapped "audit_events"
    [ id,
      required "timestamp" .timestamp,
      optional "actor_id" .uuid,
      required "action" (.string 64),
      optional "resource_type" (.string 32),
      optional "resource_id" (.string 255),
      optional "payload" .jsonb,
      optional "ip_address" (.string 45),
      optional "user_agent" (.string 512) ]
    [("id", false), ("timestamp", false), ("actor_id", false), ("action", false)]

/-- `WeatherCache`. -/
def weatherCache : Table :=
  mapped "weather_cache"
    [ id,
      required "location_key" (.string 64),
      required "lat" .float,
      required "lon" .float,
      required "fetched_at" .timestamp,
      required "expires_at" .timestamp,
      required "data" .jsonb,
      optional "temperature_celsius" .float,
      optional "feels_like_celsius" .float,
      optional "humidity_percent" .integer,
      optional "condition" (.string 64),
      optional "description" (.string 255),
      optional "wind_speed_ms" .float,
      optional "icon_code" (.string 16) ]
    [("id", false), ("location_key", true)]

/-- `DeviceGroup`. -/
def deviceGroup : Table :=
  mapped "device_groups"
    [ id,
      createdAt,
      updatedAt,
      required "name" (.string 255),
      optional "icon" (.string 64),
      optional "color" (.string 7),
      required "display_order" .integer (some "0"),
      optional "created_by" .uuid ]
    [("id", false)]

/-- `DeviceGroupMember`. -/
def deviceGroupMember : Table :=
  mapped "device_group_members"
    [ id,
      { name := "group_id", type := .uuid, nullable := false
        references := some { table := "device_groups", column := "id", onDelete := "CASCADE" } },
      { name := "device_id", type := .uuid, nullable := false
        references := some { table := "devices", column := "id", onDelete := "CASCADE" } },
      required "display_order" .integer (some "0") ]
    [("id", false), ("group_id", false), ("device_id", false)]
    [ { name := "uq_group_device", columns := ["group_id", "device_id"] } ]

end Models

/-- `Base.metadata`. -/
def metadata : List Table :=
  [ Models.user, Models.device, Models.deviceStateSnapshot, Models.schedule, Models.automationRule, Models.auditEvent,
    Models.weatherCache, Models.deviceGroup, Models.deviceGroupMember ]

/-! ## Tables for the classes -/

/-- A value that the one takes the other takes too. Defaults are for the rows that other programs insert. -/
def Serves.column (c declared : Column) : Bool :=
  c.name == declared.name && c.type == declared.type && c.primaryKey == declared.primaryKey &&
    c.nullable == declared.nullable && c.references == declared.references

/-- The lists of columns in which no two rows agree. -/
def uniques (t : Table) : List (List String) :=
  (t.columns.filter fun c => c.unique).map (fun c => [c.name]) ++ t.constraints.map UniqueConstraint.columns ++
    (t.indexes.filter fun i => i.unique).map Index.columns

/-- The table has the columns of the class and no others, and two rows differ where the class says so, and nowhere
    else. -/
structure Serves (t declared : Table) : Prop where
  has : ∀ d ∈ declared.columns, ∃ c ∈ t.columns, Serves.column c d = true
  only : ∀ c ∈ t.columns, ∃ d ∈ declared.columns, Serves.column c d = true
  unique : ∀ columns, columns ∈ uniques t ↔ columns ∈ uniques declared

/-- The schema has a table for every class. -/
def ServesAll (s : Schema) : Prop :=
  ∀ declared ∈ metadata, ∃ t, s.find? (fun t => t.name == declared.name) = some t ∧ Serves t declared

/-- The indexes of a class that are not unique serve the speed alone; some of them no script creates. -/
theorem servesAll_last (others : Schema) : ServesAll (schemaAt migrations.length ++ others) := by
  have hcolumns : ∀ declared ∈ metadata, ∃ t ∈ (schemaAt migrations.length).find? (fun t => t.name == declared.name),
      (∀ d ∈ declared.columns, ∃ c ∈ t.columns, Serves.column c d = true) ∧
      (∀ c ∈ t.columns, ∃ d ∈ declared.columns, Serves.column c d = true) ∧
      (∀ columns ∈ uniques t, columns ∈ uniques declared) ∧ ∀ columns ∈ uniques declared, columns ∈ uniques t := by
    decide
  intro declared hmem
  obtain ⟨t, ht, hhas, honly, hsound, hcomplete⟩ := hcolumns declared hmem
  refine ⟨t, ?_, hhas, honly, fun columns => ⟨hsound columns, hcomplete columns⟩⟩
  rw [List.find?_append, Option.mem_def.mp ht, Option.some_or]

end SmartHome.Migrations
