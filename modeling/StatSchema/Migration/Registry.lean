import StatSchema.Migration.Install

/-!
# `StatSchema.Migration.Registry` — the migrations of each database

## Contents
- **Migrations.** `Content`, `Migration`, `Migration.up`, `Migration.down`.
- **Registries.** `Registry`, `Registry.primary`, `Registry.subscriber`.
-/

namespace StatSchema

/-! ## Migrations -/

/-- What a migration installs. -/
inductive Content where
  | objects (group : List SchemaObject)
  | publication

/-- A step of the schema's history. -/
structure Migration where
  name : String
  content : Content

namespace Migration

/-- Installs what the migration is for. -/
def up (env : Environment) (m : Migration) : Run (Except DbError Unit) :=
  match m.content with
  | .objects group => createObjects group
  | .publication => createPublication env

/-- Removes what the migration installed. -/
def down (m : Migration) : Run (Except DbError Unit) :=
  match m.content with
  | .objects group => dropObjects group
  | .publication => dropPublication

end Migration

/-! ## Registries -/

/-- The migrations of one database, in the order in which they are applied, and the table that records
    which have been. -/
structure Registry where
  table : String
  migrations : List Migration

namespace Registry

/-- The names of the migrations. -/
def names (r : Registry) : List String :=
  r.migrations.map (·.name)

/-- The names of the migrations that install the groups of `Statistics.groups`. -/
def groupNames : List String :=
  ["m20230705_000001_create_public_key_first_transaction",
   "m20230705_000002_create_statistic_functions",
   "m20230712_000001_create_statistic_counters",
   "m20230712_000002_create_statistic_time_series",
   "m20230712_000003_create_statistic_leaderboards",
   "m20230713_000001_create_dao_coin_limit_order_views",
   "m20230713_000002_create_statistic_profile_rollups",
   "m20230713_000003_create_statistic_portfolio_value",
   "m20230714_000001_create_statistic_dashboard",
   "m20231213_000001_create_pos_statistic_views"]

/-- The statistics schema on the explorer's database. -/
def primary : Registry :=
  { table := "seaql_migrations"
    migrations := List.zipWith (fun name group => ⟨name, .objects group⟩) groupNames Statistics.groups }

/-- The published statistics on a subscriber's database. -/
def subscriber : Registry :=
  { table := "statistic_fdw_migrations"
    migrations := [⟨"m20230727_000001_create_statistic_fdw", .publication⟩] }

end Registry

end StatSchema
