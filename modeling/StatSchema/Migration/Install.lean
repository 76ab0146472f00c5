import StatSchema.Block.Statements
import StatSchema.Catalog.Problem
import StatSchema.Publication.Statements
import StatSchema.Statistics.Full

/-!
# `StatSchema.Migration.Install` — installing and removing objects

Objects are created one block each, so that a retry repeats little; they are dropped in a single block,
so that a failure leaves all of them.

## Contents
- **Objects.** `createEach`, `createChecked`, `createObjects`, `dropObjects`.
- **Publication.** `createPublication`, `dropPublication`.
-/

namespace StatSchema

/-- Runs statements as one block under the standard policy, with its error as the bookkeeping of
    migrations passes it on. -/
def runInstallation (label : String) (statements : List String) : Run (Except DbError Unit) := do
  return (← runStatements .standard label statements).mapError SchemaError.toDbError

/-! ## Objects -/

/-- Creates the objects in order, up to the first that cannot be created. -/
def createEach : List SchemaObject → Run (Except DbError Unit)
  | [] => return .ok ()
  | o :: rest => do
    Run.log (.creating o.name)
    match ← runInstallation o.name o.createStatements with
    | .error error => return .error error
    | .ok () => createEach rest

/-- Creates the objects in order, provided that the catalog keeps its rules. -/
def createChecked (c : Catalog) (objects : List SchemaObject) : Run (Except DbError Unit) :=
  match c.validate with
  | .error error => return .error error.toDbError
  | .ok () => createEach objects

/-- Creates objects of the schema in order, provided that the whole schema keeps the rules of a
    catalog. -/
def createObjects (objects : List SchemaObject) : Run (Except DbError Unit) :=
  createChecked .full objects

/-- The statements that drop the objects, the last first. -/
def dropStatementsOf (objects : List SchemaObject) : List String :=
  objects.reverse.map (·.dropStatement)

/-- Drops the objects, the last first, all or none. -/
def dropObjects (objects : List SchemaObject) : Run (Except DbError Unit) := do
  Run.log (.dropping objects.length)
  runInstallation "rollback" (dropStatementsOf objects)

/-! ## Publication -/

/-- Makes the published statistics available on a subscriber's database. -/
def createPublication (env : Environment) : Run (Except DbError Unit) := do
  match Publisher.ofEnvironment env with
  | .error error => return .error error.toDbError
  | .ok publisher =>
    Run.log (.importing Publication.publishedNames.length publisher.host publisher.port
      publisher.database)
    match Publication.createStatements publisher .full with
    | .error error => return .error error.toDbError
    | .ok statements => runInstallation "statistic_fdw" statements

/-- Removes the published statistics from a subscriber's database. -/
def dropPublication : Run (Except DbError Unit) :=
  runInstallation "statistic_fdw rollback" Publication.dropStatements

end StatSchema
