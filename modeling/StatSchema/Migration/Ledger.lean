import StatSchema.Migration.Registry

/-!
# `StatSchema.Migration.Ledger` — which migrations have been applied

A table of the database records the applied migrations. Applying and removing migrations takes one
transaction, so that a failure leaves both the objects and the record as they were.

## Contents
- **Statements.** The four statements about the table.
- **Rows.** `prepare`, `rows`, `unknownVersions`, `status`.
- **Steps.** `applyEach`, `removeEach`, limited by `limited`.
- **Operations.** `Registry.applied`, `Registry.pending`, `Registry.migrate`, `Registry.rollback`.
-/

namespace StatSchema.Registry

/-! ## Statements -/

/-- The table's name as an SQL identifier. -/
def quotedTable (r : Registry) : String :=
  "\"" ++ r.table ++ "\""

/-- Creates the table unless it is there. -/
def prepareStatement (r : Registry) : String :=
  "CREATE TABLE IF NOT EXISTS " ++ r.quotedTable
    ++ " ( \"version\" varchar NOT NULL PRIMARY KEY, \"applied_at\" bigint NOT NULL )"

/-- Reads the table. -/
def selectStatement (r : Registry) : String :=
  "SELECT \"version\", \"applied_at\" FROM " ++ r.quotedTable ++ " ORDER BY \"version\" ASC"

/-- Records a migration. -/
def insertStatement (r : Registry) : String :=
  "INSERT INTO " ++ r.quotedTable ++ " (\"version\", \"applied_at\") VALUES ($1, $2) RETURNING \"version\""

/-- Deletes the record of a migration. -/
def deleteStatement (r : Registry) : String :=
  "DELETE FROM " ++ r.quotedTable ++ " WHERE \"version\" = $1"

/-! ## Rows -/

/-- Sends statements that are not shown, up to the first that is refused. -/
def checkAll : List String → Run (Except DbError Unit)
  | [] => return .ok ()
  | sql :: rest => do
    match ← Run.check sql with
    | .error error => return .error error
    | .ok () => checkAll rest

/-- The rows of the table, which is made sure to exist three times over before it is read. -/
def rows (r : Registry) : Run (Except DbError (List String)) := do
  let prepare := r.prepareStatement
  match ← checkAll [prepare, prepare, prepare, r.selectStatement] with
  | .error error => return .error error
  | .ok () => return .ok (← Run.onServer fun server => (server.applied, server))

/-- The versions among the rows that name no migration of the registry, each once, in ascending order. -/
def unknownVersions (r : Registry) (rows : List String) : List String :=
  (rows.filter (· ∉ r.names)).eraseDups.mergeSort (· ≤ ·)

/-- The report of a version that names no migration. -/
def unknownMessage (version : String) : String :=
  "Migration file of version '" ++ version
    ++ "' is missing, this migration has been applied but its file is missing"

/-- The rows of the table, provided that all of them name migrations of the registry. -/
def knownRows (r : Registry) : Run (Except DbError (List String)) := do
  match ← r.rows with
  | .error error => return .error error
  | .ok rows =>
    match r.unknownVersions rows with
    | [] => return .ok rows
    | unknown => return .error (.custom ("\n".intercalate (unknown.map unknownMessage)))

/-- The migrations that have been applied, in the order of the registry. -/
def applied (r : Registry) : Run (Except DbError (List Migration)) := do
  return (← r.knownRows).map fun rows => r.migrations.filter (·.name ∈ rows)

/-- The migrations that have not been applied, in the order of the registry. -/
def pending (r : Registry) : Run (Except DbError (List Migration)) := do
  return (← r.knownRows).map fun rows => r.migrations.filter (·.name ∉ rows)

/-! ## Steps -/

/-- Records a migration as applied. -/
def record (r : Registry) (version : String) : Run (Except DbError Unit) := do
  let result ← Run.check r.insertStatement
  Run.report (.recorded r.table version (!result.isOk))
  if result.isOk then
    Run.onServer fun server => ((), { server with applied := server.applied ++ [version] })
  return result

/-- Deletes the record of a migration. -/
def erase (r : Registry) (version : String) : Run (Except DbError Unit) := do
  let result ← Run.check r.deleteStatement
  Run.report (.erased r.table version (!result.isOk))
  if result.isOk then
    Run.onServer fun server =>
      ((), { server with applied := server.applied.filter (· ≠ version) })
  return result

/-- Applies and records migrations in order, up to the first that fails. -/
def applyEach (r : Registry) (env : Environment) : List Migration → Run (Except DbError Unit)
  | [] => return .ok ()
  | m :: rest => do
    match ← m.up env with
    | .error error => return .error error
    | .ok () =>
    match ← r.record m.name with
    | .error error => return .error error
    | .ok () => r.applyEach env rest

/-- Removes migrations and their records in order, up to the first that fails. -/
def removeEach (r : Registry) : List Migration → Run (Except DbError Unit)
  | [] => return .ok ()
  | m :: rest => do
    match ← m.down with
    | .error error => return .error error
    | .ok () =>
    match ← r.erase m.name with
    | .error error => return .error error
    | .ok () => r.removeEach rest

/-- At most `steps` of the migrations; without a number, all. -/
def limited (steps : Option Nat) (migrations : List Migration) : List Migration :=
  match steps with
  | some n => migrations.take n
  | none => migrations

/-! ## Operations -/

/-- Applies the first `steps` pending migrations in one transaction. -/
def migrate (r : Registry) (env : Environment) (steps : Option Nat) : Run (Except DbError Unit) :=
  Run.transaction do
    match ← Run.check r.prepareStatement with
    | .error error => return .error error
    | .ok () =>
    match ← r.pending with
    | .error error => return .error error
    | .ok migrations => r.applyEach env (limited steps migrations)

/-- Removes the last `steps` applied migrations in one transaction, the last first. -/
def rollback (r : Registry) (steps : Option Nat) : Run (Except DbError Unit) :=
  Run.transaction do
    match ← Run.check r.prepareStatement with
    | .error error => return .error error
    | .ok () =>
    match ← r.applied with
    | .error error => return .error error
    | .ok migrations => r.removeEach (limited steps migrations.reverse)

end StatSchema.Registry
