import SmartHome.Devices.Migrations
import SmartHome.Lib.Ddl
import SmartHome.Lib.Revisions

/-! # The migrations

The scripts of `migrations/versions`, statement by statement. -/

namespace SmartHome.Migrations
open Ddl

/-- `sa.Column(name, type, nullable=False, server_default=default)`. -/
def required (name : String) (type : SqlType) (default : Option String := none) : Column :=
  { name, type, default, nullable := false }

/-- `sa.Column(name, type, nullable=True)`. -/
def optional (name : String) (type : SqlType) : Column := { name, type }

/-- `sa.Column("id", UUID(as_uuid=True), primary_key=True)`. -/
def id : Column := { name := "id", type := .uuid, primaryKey := true, nullable := false }

/-- The time at which a row was added. -/
def createdAt : Column := required "created_at" .timestamp (some "now()")

/-- The time at which a row was last written. -/
def updatedAt : Column := required "updated_at" .timestamp (some "now()")

/-- `op.create_index(name, table, [column])`. -/
def createIndex (name table column : String) (unique : Bool := false) : Statement :=
  .createIndex { name, columns := [column], unique } table

namespace InitialSchema

/-- `0001_initial_schema.py`, upwards. -/
def upgrade : List Statement :=
  [ .createTable "users"
      [ id,
        required "email" (.string 255),
        required "hashed_password" (.string 255),
        required "role" (.string 20) (some "viewer"),
        required "is_active" .boolean (some "true"),
        optional "full_name" (.string 255),
        createdAt,
        updatedAt ] [],
    createIndex "ix_users_id" "users" "id",
    createIndex "ix_users_email" "users" "email" true,
    createIndex "ix_users_role" "users" "role" ]

/-- `0001_initial_schema.py`, downwards. -/
def downgrade : List Statement :=
  [ .dropIndex "ix_users_role" "users",
    .dropIndex "ix_users_email" "users",
    .dropIndex "ix_users_id" "users",
    .dropTable "users" ]

end InitialSchema

namespace Devices

/-- `0002_devices.py`, upwards. -/
def upgrade : List Statement :=
  [ .createTable "devices"
      [ id,
        required "ain" (.string 64),
        required "name" (.string 255),
        required "device_type" (.string 32),
        required "capabilities" .jsonb (some "[]"),
        optional "location" (.string 255),
        required "is_active" .boolean (some "true"),
        optional "last_seen" .timestamp,
        optional "firmware_version" (.string 32),
        createdAt,
        updatedAt ] [],
    createIndex "ix_devices_id" "devices" "id",
    createIndex "ix_devices_ain" "devices" "ain" true,
    .createTable "device_state_snapshots"
      [ id,
        required "device_id" .uuid,
        required "ain" (.string 64),
        required "recorded_at" .timestamp,
        optional "is_on" .boolean,
        optional "temperature_celsius" .float,
        optional "target_temperature" .float,
        optional "power_watts" .float,
        optional "energy_wh" .float,
        optional "brightness_level" .integer ] [],
    createIndex "ix_device_state_snapshots_id" "device_state_snapshots" "id",
    createIndex "ix_device_state_snapshots_device_id" "device_state_snapshots" "device_id",
    createIndex "ix_device_state_snapshots_ain" "device_state_snapshots" "ain",
    createIndex "ix_device_state_snapshots_recorded_at" "device_state_snapshots" "recorded_at" ]

/-- `0002_devices.py`, downwards. -/
def downgrade : List Statement :=
  [ .dropIndex "ix_device_state_snapshots_recorded_at" "device_state_snapshots",
    .dropIndex "ix_device_state_snapshots_ain" "device_state_snapshots",
    .dropIndex "ix_device_state_snapshots_device_id" "device_state_snapshots",
    .dropIndex "ix_device_state_snapshots_id" "device_state_snapshots",
    .dropTable "device_state_snapshots",
    .dropIndex "ix_devices_ain" "devices",
    .dropIndex "ix_devices_id" "devices",
    .dropTable "devices" ]

end Devices

namespace Schedules

/-- `0003_schedules.py`, upwards. -/
def upgrade : List Statement :=
  [ .createTable "schedules"
      [ id,
        required "name" (.string 255),
        optional "description" (.string 1000),
        required "trigger_type" (.string 32),
        required "trigger_config" .jsonb (some "\x7b\x7d"),
        required "action_type" (.string 32) (some "device_control"),
        required "action_config" .jsonb (some "\x7b\x7d"),
        required "is_enabled" .boolean (some "true"),
        optional "last_triggered" .timestamp,
        optional "created_by" .uuid,
        createdAt,
        updatedAt ] [],
    createIndex "ix_schedules_id" "schedules" "id",
    .createTable "automation_rules"
      [ id,
        required "name" (.string 255),
        optional "description" (.string 1000),
        required "trigger_type" (.string 32),
        required "trigger_config" .jsonb (some "\x7b\x7d"),
        optional "condition_config" .jsonb,
        required "action_type" (.string 32) (some "device_control"),
        required "action_config" .jsonb (some "\x7b\x7d"),
        required "is_enabled" .boolean (some "true"),
        optional "last_triggered" .timestamp,
        optional "created_by" .uuid,
        createdAt,
        updatedAt ] [],
    createIndex "ix_automation_rules_id" "automation_rules" "id" ]

/-- `0003_schedules.py`, downwards. -/
def downgrade : List Statement :=
  [ .dropIndex "ix_automation_rules_id" "automation_rules",
    .dropTable "automation_rules",
    .dropIndex "ix_schedules_id" "schedules",
    .dropTable "schedules" ]

end Schedules

namespace Audit

/-- `0004_audit.py`, upwards. -/
def upgrade : List Statement :=
  [ .createTable "audit_events"
      [ id,
        required "timestamp" .timestamp,
        optional "actor_id" .uuid,
        required "action" (.string 64),
        optional "resource_type" (.string 32),
        optional "resource_id" (.string 255),
        optional "payload" .jsonb,
        optional "ip_address" (.string 45),
        optional "user_agent" (.string 512) ] [],
    createIndex "ix_audit_events_id" "audit_events" "id",
    createIndex "ix_audit_events_timestamp" "audit_events" "timestamp",
    createIndex "ix_audit_events_actor_id" "audit_events" "actor_id",
    createIndex "ix_audit_events_action" "audit_events" "action" ]

/-- `0004_audit.py`, downwards. -/
def downgrade : List Statement :=
  [ .dropIndex "ix_audit_events_action" "audit_events",
    .dropIndex "ix_audit_events_actor_id" "audit_events",
    .dropIndex "ix_audit_events_timestamp" "audit_events",
    .dropIndex "ix_audit_events_id" "audit_events",
    .dropTable "audit_events" ]

end Audit

namespace Weather

/-- `0005_weather.py`, upwards. -/
def upgrade : List Statement :=
  [ .createTable "weather_cache"
      [ id,
        { name := "location_key", type := .string 64, nullable := false, unique := true },
        required "lat" .float,
        required "lon" .float,
        required "fetched_at" .timestamp,
        required "expires_at" .timestamp,
        required "data" .jsonb (some "\x7b\x7d"),
        optional "temperature_celsius" .float,
        optional "feels_like_celsius" .float,
        optional "humidity_percent" .integer,
        optional "condition" (.string 64),
        optional "description" (.string 255),
        optional "wind_speed_ms" .float,
        optional "icon_code" (.string 16) ] [],
    createIndex "ix_weather_cache_location_key" "weather_cache" "location_key" true ]

/-- `0005_weather.py`, downwards. -/
def downgrade : List Statement :=
  [ .dropIndex "ix_weather_cache_location_key" "weather_cache",
    .dropTable "weather_cache" ]

end Weather

namespace GroupsFavorites

/-- `0006_groups_favorites.py`, upwards. -/
def upgrade : List Statement :=
  [ .createTable "device_groups"
      [ id,
        required "name" (.string 255),
        optional "icon" (.string 64),
        optional "color" (.string 7),
        required "display_order" .integer (some "0"),
        optional "created_by" .uuid,
        createdAt,
        updatedAt ] [],
    .createTable "device_group_members"
      [ id,
        { name := "group_id", type := .uuid, nullable := false,
          references := some { table := "device_groups", column := "id", onDelete := "CASCADE" } },
        { name := "device_id", type := .uuid, nullable := false,
          references := some { table := "devices", column := "id", onDelete := "CASCADE" } },
        required "display_order" .integer (some "0") ]
      [ { name := "uq_group_device", columns := ["group_id", "device_id"] } ],
    createIndex "ix_device_group_members_group_id" "device_group_members" "group_id",
    createIndex "ix_device_group_members_device_id" "device_group_members" "device_id",
    .addColumn "devices" (required "is_favorite" .boolean (some "false")),
    .addColumn "devices" (required "display_order" .integer (some "0")) ]

/-- `0006_groups_favorites.py`, downwards. -/
def downgrade : List Statement :=
  [ .dropColumn "devices" "display_order",
    .dropColumn "devices" "is_favorite",
    .dropTable "device_group_members",
    .dropTable "device_groups" ]

end GroupsFavorites

/-- `lower(ain) LIKE 'grp%'`. -/
def likeGrp (row : Row) : Bool := (row "ain").any fun ain => Sql.like "grp%".toList (Devices.lowerAin ain)

/-- `lower(ain) NOT LIKE 'grp%'`. -/
def notLikeGrp (row : Row) : Bool := (row "ain").any fun ain => !Sql.like "grp%".toList (Devices.lowerAin ain)

namespace DeactivateVirtualGroupDevices

/-- `0007_deactivate_virtual_group_devices.py`, upwards. -/
def upgrade : List Statement :=
  [ .update "devices" ["ain", "is_active"] (fun row => likeGrp row && row "is_active" == some "true") likeGrp
      "is_active" "false" ]

/-- The groups are sought only when they are to be deactivated. -/
def downgrade : List Statement := [ .update "devices" ["ain"] (fun _ => true) likeGrp "is_active" "true" ]

end DeactivateVirtualGroupDevices

namespace ReactivateThirdPartyDevices

/-- `lower(ain) NOT LIKE 'grp%' AND ain != '' AND is_active = false`. -/
def wronglyDeactivated (row : Row) : Bool :=
  notLikeGrp row && (row "ain").any (fun ain => ain != "") && row "is_active" == some "false"

/-- `0008_reactivate_third_party_devices.py`, upwards. -/
def upgrade : List Statement :=
  [ .update "devices" ["ain", "is_active"] wronglyDeactivated wronglyDeactivated "is_active" "true" ]

/-- `0008_reactivate_third_party_devices.py`, downwards: nothing. -/
def downgrade : List Statement := []

end ReactivateThirdPartyDevices

/-- A script of `migrations/versions`. -/
structure Migration where
  revision : String
  downRevision : Option String
  upgrade : List Statement
  downgrade : List Statement

/-- The migrations in their order. -/
def migrations : List Migration :=
  [ { revision := "0001", downRevision := none
      upgrade := InitialSchema.upgrade, downgrade := InitialSchema.downgrade },
    { revision := "0002", downRevision := some "0001"
      upgrade := Devices.upgrade, downgrade := Devices.downgrade },
    { revision := "0003", downRevision := some "0002"
      upgrade := Schedules.upgrade, downgrade := Schedules.downgrade },
    { revision := "0004", downRevision := some "0003"
      upgrade := Audit.upgrade, downgrade := Audit.downgrade },
    { revision := "0005", downRevision := some "0004"
      upgrade := Weather.upgrade, downgrade := Weather.downgrade },
    { revision := "0006", downRevision := some "0005"
      upgrade := GroupsFavorites.upgrade, downgrade := GroupsFavorites.downgrade },
    { revision := "0007", downRevision := some "0006"
      upgrade := DeactivateVirtualGroupDevices.upgrade, downgrade := DeactivateVirtualGroupDevices.downgrade },
    { revision := "0008", downRevision := some "0007"
      upgrade := ReactivateThirdPartyDevices.upgrade, downgrade := ReactivateThirdPartyDevices.downgrade } ]

/-- The migration as a script over the store. -/
def Migration.script (m : Migration) : Revisions.Script Store :=
  { revision := m.revision
    downRevision := m.downRevision
    upgrade := run m.upgrade
    downgrade := run m.downgrade }

/-- The scripts in their order. -/
def scripts : List (Revisions.Script Store) := migrations.map Migration.script

/-- What the first `i` migrations create. -/
def schemaAt (i : ℕ) : Schema := (onSchema ((migrations.take i).flatMap Migration.upgrade) []).getD []

end SmartHome.Migrations
