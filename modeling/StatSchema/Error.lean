import StatSchema.Duration
import StatSchema.Text.Debug

/-!
# `StatSchema.Error` — what can go wrong

Two families of errors meet here. A `DbError` is what the database connection reports. A `SchemaError`
is what the library says about its own work: a block that could not be run, a catalog that is not
sound, a setting that is missing, or a database error sorted by its SQLSTATE.

## Contents
- **Database errors.** `RuntimeError`, `DbError`, their texts, `DbError.sqlstate?`.
- **Schema errors.** `ServerFault`, `SchemaError`, `SchemaError.message`.
- **Between the two.** `ServerFault.ofSqlstate`, `SchemaError.classify`, `SchemaError.toDbError`.
-/

namespace StatSchema

/-! ## Database errors -/

/-- What a connection reports about a statement or about itself. -/
inductive RuntimeError where
  | internal (text : String)
  | rowNotFound
  | poolTimedOut
  | poolClosed
  | workerCrashed
  | unexpectedData (text : String)
  /-- The server refused the statement, with the SQLSTATE that it gave, if any. -/
  | server (code : Option String) (text : String)
  deriving DecidableEq, Repr

/-- The report as a text. -/
def RuntimeError.message : RuntimeError → String
  | .internal text => text
  | .rowNotFound => "no rows returned by a query that expected to return at least one row"
  | .poolTimedOut => "pool timed out while waiting for an open connection"
  | .poolClosed => "attempted to acquire a connection on a closed pool"
  | .workerCrashed => "attempted to communicate with a crashed background worker"
  | .unexpectedData text => "encountered unexpected or invalid data: " ++ text
  | .server _ text => "error returned from database: " ++ text

/-- The report as a diagnostic shows it. -/
def RuntimeError.detail : RuntimeError → String
  | .internal text => "Internal(" ++ Text.debug text ++ ")"
  | .rowNotFound => "SqlxError(RowNotFound)"
  | .poolTimedOut => "SqlxError(PoolTimedOut)"
  | .poolClosed => "SqlxError(PoolClosed)"
  | .workerCrashed => "SqlxError(WorkerCrashed)"
  | .unexpectedData text => "SqlxError(Protocol(" ++ Text.debug text ++ "))"
  | .server _ text => "SqlxError(Database(" ++ Text.debug text ++ "))"

/-- An error of the database layer. -/
inductive DbError where
  | exec (report : RuntimeError)
  | query (report : RuntimeError)
  | connection (report : RuntimeError)
  | custom (text : String)
  | type (text : String)
  | json (text : String)
  | migration (text : String)
  | recordNotFound (text : String)
  | attributeNotSet (field : String)
  | recordNotInserted
  | recordNotUpdated
  | unpackInsertId
  | updateGetPrimaryKey
  deriving DecidableEq, Repr

namespace DbError

/-- The error as a text. -/
def message : DbError → String
  | .exec report => "Execution Error: " ++ report.message
  | .query report => "Query Error: " ++ report.message
  | .connection report => "Connection Error: " ++ report.message
  | .custom text => "Custom Error: " ++ text
  | .type text => "Type Error: " ++ text
  | .json text => "Json Error: " ++ text
  | .migration text => "Migration Error: " ++ text
  | .recordNotFound text => "RecordNotFound Error: " ++ text
  | .attributeNotSet field => "Attribute " ++ field ++ " is NotSet"
  | .recordNotInserted => "None of the records are inserted"
  | .recordNotUpdated => "None of the records are updated"
  | .unpackInsertId => "Failed to unpack last_insert_id"
  | .updateGetPrimaryKey => "Failed to get primary key from model"

/-- The error as a diagnostic shows it: its kind, and what it carries in parentheses. -/
def detail : DbError → String
  | .exec report => "Exec(" ++ report.detail ++ ")"
  | .query report => "Query(" ++ report.detail ++ ")"
  | .connection report => "Conn(" ++ report.detail ++ ")"
  | .custom text => "Custom(" ++ Text.debug text ++ ")"
  | .type text => "Type(" ++ Text.debug text ++ ")"
  | .json text => "Json(" ++ Text.debug text ++ ")"
  | .migration text => "Migration(" ++ Text.debug text ++ ")"
  | .recordNotFound text => "RecordNotFound(" ++ Text.debug text ++ ")"
  | .attributeNotSet field => "AttrNotSet(" ++ Text.debug field ++ ")"
  | .recordNotInserted => "RecordNotInserted"
  | .recordNotUpdated => "RecordNotUpdated"
  | .unpackInsertId => "UnpackInsertId"
  | .updateGetPrimaryKey => "UpdateGetPrimaryKey"

/-- The SQLSTATE that the server gave for the error: only an error about a statement or a connection can
    carry one. -/
def sqlstate? : DbError → Option String
  | .exec (.server code _) => code
  | .query (.server code _) => code
  | .connection (.server code _) => code
  | _ => none

end DbError

/-! ## Schema errors -/

/-- What an error of the server means for the schema. -/
inductive ServerFault where
  /-- A helper function rejected its argument. -/
  | invalidArgument
  /-- The submitted definition is malformed. -/
  | definition
  /-- The object is there already. -/
  | duplicateObject
  /-- A relation or function that the definition refers to is not there. -/
  | missingDependency
  /-- Anything else: timeouts of locks, deadlocks, lost connections. -/
  | transient
  deriving DecidableEq, Repr

/-- An error of the library's own work. -/
inductive SchemaError where
  /-- A block failed on every attempt that its policy allows. -/
  | retryExhausted (label : String) (attempts : Nat)
  /-- A block was not done at its deadline. -/
  | deadlineExceeded (label : String) (deadline : Duration)
  /-- The server reported an error. -/
  | server (fault : ServerFault) (text : String)
  /-- The catalog breaks one of its rules, or lacks an object. -/
  | catalog (text : String)
  /-- A setting is missing or malformed. -/
  | configuration (text : String)
  /-- A computation left the range of its numbers. -/
  | outOfRange (fault : OutOfRange)
  deriving DecidableEq

/-- What the text of a server fault begins with. -/
def ServerFault.heading : ServerFault → String
  | .invalidArgument => "Invalid argument: "
  | .definition => "DDL error: "
  | .duplicateObject => "Duplicate object: "
  | .missingDependency => "Missing dependency: "
  | .transient => "Transient database error: "

/-- The error as a text. -/
def SchemaError.message : SchemaError → String
  | .retryExhausted label attempts => label ++ " failed after " ++ toString attempts ++ " attempts"
  | .deadlineExceeded label deadline => label ++ " did not complete within " ++ deadline.text
  | .server fault text => fault.heading ++ text
  | .catalog text => "Catalog error: " ++ text
  | .configuration text => "Configuration error: " ++ text
  | .outOfRange fault => fault.message

/-! ## Between the two -/

/-- What an SQLSTATE means for the schema; an unknown one is taken to pass. -/
def ServerFault.ofSqlstate (code : String) : ServerFault :=
  if code = "22023" then .invalidArgument
  else if code ∈ ["42601", "42P16", "42P17", "42804", "42703", "42803"] then .definition
  else if code ∈ ["42P07", "42710", "42723", "42P06"] then .duplicateObject
  else if code ∈ ["42P01", "42883", "3F000", "42704"] then .missingDependency
  else .transient

/-- A database error, sorted by its SQLSTATE; one without a code is taken to pass. -/
def SchemaError.classify (error : DbError) : SchemaError :=
  match error.sqlstate? with
  | some code => .server (.ofSqlstate code) error.message
  | none => .server .transient error.message

/-- A schema error as the bookkeeping of migrations passes it on: as its text. -/
def SchemaError.toDbError (error : SchemaError) : DbError :=
  .migration error.message

end StatSchema
