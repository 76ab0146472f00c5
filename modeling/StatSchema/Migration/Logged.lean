import StatSchema.Migration.Ledger

/-!
# `StatSchema.Migration.Logged` — operations on migrations that log what they do

## Contents
- `migrateLogged`, `rollbackLogged`: the operations of a registry with a log of them.
- `reportStatus`: logs which migrations are applied and which are pending.
-/

namespace StatSchema.Registry

/-- Applies pending migrations and logs it. -/
def migrateLogged (r : Registry) (env : Environment) (steps : Option Nat) :
    Run (Except DbError Unit) := do
  Run.log (.found r.migrations.length)
  Run.logAll (r.names.map .foundFile)
  Run.log (.migrating steps)
  let result ← r.migrate env steps
  match result with
  | .ok () => Run.log .migrated
  | .error error =>
    Run.log (.migrationFailed error)
    Run.log (.migrationDetails error)
  return result

/-- Removes applied migrations and logs it. -/
def rollbackLogged (r : Registry) (steps : Option Nat) : Run (Except DbError Unit) := do
  Run.log (.rollingBack steps)
  let result ← r.rollback steps
  match result with
  | .ok () => Run.log .rolledBack
  | .error error => Run.log (.rollbackFailed error)
  return result

/-- Logs which migrations are applied and which are pending. -/
def reportStatus (r : Registry) : Run (Except DbError Unit) := do
  match ← r.applied with
  | .error error => return .error error
  | .ok applied =>
  match ← r.pending with
  | .error error => return .error error
  | .ok pending =>
    Run.log (.tally applied.length pending.length)
    Run.logAll (applied.map (.isApplied ·.name))
    Run.logAll (pending.map (.isPending ·.name))
    return .ok ()

end StatSchema.Registry
