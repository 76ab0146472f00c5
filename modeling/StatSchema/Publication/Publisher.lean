import StatSchema.Environment
import StatSchema.Error
import StatSchema.Text.Decimal

/-!
# `StatSchema.Publication.Publisher` — where published statistics come from

A subscriber imports statistics from the database of a publisher, whose coordinates are read from five
variables. An empty value counts as unset.

## Contents
- `Publisher`: the coordinates.
- `Publisher.ofEnvironment`: reads them, the port first.
-/

namespace StatSchema

/-- The coordinates of the publisher's database. -/
structure Publisher where
  host : String
  port : Nat
  database : String
  user : String
  password : String
  deriving DecidableEq, Repr

namespace Publisher

/-- The value of a variable that has to be set and not empty. -/
def required (env : Environment) (key : String) : Except SchemaError String :=
  match (env key).filter (· ≠ "") with
  | some value => .ok value
  | none => .error (.configuration (key ++ " environment variable not set"))

/-- Reads a port number, which fits in sixteen bits. -/
def parsePort (text : String) : Except SchemaError Nat :=
  match Text.unsigned? 65535 text.toList with
  | some port => .ok port
  | none => .error (.configuration ("DB_PORT must be a port number, got '" ++ text ++ "'"))

/-- Reads the coordinates; of several faults the one met first is reported. -/
def ofEnvironment (env : Environment) : Except SchemaError Publisher := do
  let port ← parsePort (← required env "DB_PORT")
  let host ← required env "DB_HOST"
  let database ← required env "DB_NAME"
  let user ← required env "DB_USERNAME"
  let password ← required env "DB_PASSWORD"
  return { host, port, database, user, password }

end Publisher

end StatSchema
