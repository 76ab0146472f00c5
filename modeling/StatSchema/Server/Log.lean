import StatSchema.Catalog.Object
import StatSchema.Connection.Url

/-!
# `StatSchema.Server.Log` — the operational log

A log entry is kept as what happened; its level and wording are functions of that. So two runs log the
same exactly if the same things happened in them.

## Contents
- `Level`, `LogEntry`, `LogEntry.level`, `LogEntry.message`.
-/

namespace StatSchema

/-- How much a log entry matters. -/
inductive Level where
  | info | warning | error
  deriving DecidableEq, Repr

/-- Something that the operational log records. -/
inductive LogEntry where
  /-- A block was due before its next attempt could start. -/
  | overdue (label : String) (deadline : Duration) (query : String)
  /-- A block was cut off at its deadline, during an attempt. -/
  | cancelled (label : String) (deadline : Duration) (attempt allowed : Nat) (query : String)
  | attemptFailed (label : String) (attempt allowed : Nat) (error : SchemaError)
  | retrying (label : String) (delay : Duration)
  | succeededAfter (label : String) (retries : Nat)
  | exhausted (label : String) (attempts : Nat) (query : String)
  | creating (object : String)
  | dropping (count : Nat)
  | importing (count : Nat) (host : String) (port : Nat) (database : String)
  | skippingTopUp
  | toppingUp
  | refreshingAll (count : Nat) (cost : Cost)
  | refreshing (view : String)
  | refreshed
  | found (count : Nat)
  | foundFile (migration : String)
  | migrating (steps : Option Nat)
  | migrated
  | migrationFailed (error : DbError)
  | migrationDetails (error : DbError)
  | rollingBack (steps : Option Nat)
  | rolledBack
  | rollbackFailed (error : DbError)
  | tally (applied pending : Nat)
  | isApplied (migration : String)
  | isPending (migration : String)
  | badConnection (error : ConnectionError)
  deriving DecidableEq

namespace LogEntry

/-- How much the entry matters. -/
def level : LogEntry → Level
  | .attemptFailed .. | .skippingTopUp => .warning
  | .overdue .. | .cancelled .. | .exhausted .. => .error
  | .migrationFailed _ | .migrationDetails _ | .rollbackFailed _ | .badConnection _ => .error
  | _ => .info

/-- The wording of the entry. -/
def message : LogEntry → String
  | .overdue label deadline query =>
    label ++ " exceeded its deadline of " ++ deadline.text ++ ". Query: " ++ query
  | .cancelled label deadline attempt allowed query =>
    label ++ " cancelled at its deadline of " ++ deadline.text ++ " (attempt " ++ toString attempt
      ++ "/" ++ toString allowed ++ "). Query: " ++ query
  | .attemptFailed label attempt allowed error =>
    label ++ " failed (attempt " ++ toString attempt ++ "/" ++ toString allowed ++ "): "
      ++ error.message
  | .retrying label delay => "Retrying " ++ label ++ " in " ++ delay.text
  | .succeededAfter label retries =>
    label ++ " succeeded after " ++ toString retries ++ " retries"
  | .exhausted label attempts query =>
    label ++ " failed after " ++ toString attempts ++ " attempts. Query: " ++ query
  | .creating object => "Creating " ++ object
  | .dropping count => "Dropping " ++ toString count ++ " objects"
  | .importing count host port database =>
    "Importing " ++ toString count ++ " statistics from " ++ host ++ ":" ++ toString port ++ "/"
      ++ database
  | .skippingTopUp => "Skipping public_key_first_transaction top-up, wallet counters may lag"
  | .toppingUp => "Topping up public_key_first_transaction"
  | .refreshingAll count cost =>
    "Refreshing " ++ toString count ++ " materialized views up to " ++ cost.text ++ " cost"
  | .refreshing view => "Refreshing " ++ view
  | .refreshed => "Refresh complete"
  | .found count => "Found " ++ toString count ++ " migration files"
  | .foundFile migration => "Migration file: " ++ migration
  | .migrating none => "Running all pending migrations"
  | .migrating (some steps) => "Running " ++ toString steps ++ " migrations"
  | .migrated => "Migrations applied"
  | .migrationFailed error => "Failed to run migrations: " ++ error.message
  | .migrationDetails error => "Migration error details: " ++ error.detail
  | .rollingBack none => "Rolling back all applied migrations"
  | .rollingBack (some steps) => "Rolling back " ++ toString steps ++ " migrations"
  | .rolledBack => "Rollback complete"
  | .rollbackFailed error => "Failed to roll back migrations: " ++ error.message
  | .tally applied pending => toString applied ++ " applied, " ++ toString pending ++ " pending"
  | .isApplied migration => "Applied: " ++ migration
  | .isPending migration => "Pending: " ++ migration
  | .badConnection error => error.message

end LogEntry

end StatSchema
