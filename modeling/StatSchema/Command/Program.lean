import StatSchema.Catalog.Problem
import StatSchema.Command.Arguments
import StatSchema.Connection.Url
import StatSchema.Report.Catalog
import StatSchema.Statistics.Full

/-!
# `StatSchema.Command.Program` — the program from its words to its exit

The program reads its command line, then does what it is asked. It links no database driver, so every
command but the one that prints the catalog ends when it is about to connect.

## Contents
- `Exit`: the exit code and what is written.
- **Usage.** `usage`, `UsageError.exit`.
- **Commands.** `connect`, `printCatalog`, `Command.exit`.
- **Program.** `exitOf`.
-/

namespace StatSchema

/-- How the program ends. -/
structure Exit where
  code : Nat
  out : String := ""
  err : String := ""
  deriving DecidableEq, Repr

/-! ## Usage -/

/-- The commands and options of the program. -/
def usage : String :=
  "Usage: stat-schema <COMMAND>

Commands:
  migrate [-s, --steps <STEPS>]     Install pending statistics migrations
  rollback [-s, --steps <STEPS>]    Roll back applied statistics migrations
  reset                             Roll back every migration and apply them again
  status                            Show which migrations are applied
  subscriber migrate                Import published statistics from the publisher
  subscriber rollback               Drop the imported statistics
  subscriber status                 Show which subscriber migrations are applied
  refresh [--max-cost <MAX_COST>] [--skip-top-up]
                                    Refresh materialized views
  catalog                           Print the object catalog as JSON
  help                              Print this text

Options:
  -h, --help                        Print this text
  -V, --version                     Print the version
"

/-- The text that reports a usage error. -/
def UsageError.message : UsageError → String
  | .helpRequested | .versionRequested => ""
  | .missingCommand => "a command is required"
  | .unknownCommand => "there is no such command"
  | .unknownArgument => "there is no such option, or a word is left over"
  | .invalidValue => "the value of an option is not valid"
  | .missingValue => "an option lacks its value"
  | .repeatedOption => "an option is given twice"
  | .surplusValue => "an option takes no value"

/-- How the program ends when it is given no command: a request for help or the version is no failure. -/
def UsageError.exit : UsageError → Exit
  | .helpRequested => { code := 0, out := usage }
  | .versionRequested => { code := 0, out := "stat-schema 0.1.0\n" }
  | error => { code := 2, err := "error: " ++ error.message ++ "\n\n" ++ usage }

/-! ## Commands -/

/-- How the program ends when a command fails. -/
def failure (detail : String) : Exit :=
  { code := 1, err := "Error: " ++ detail ++ "\n" }

/-- How a command ends that has to connect to the database whose address `var` holds. -/
def connect (env : Environment) (var : String) : Exit :=
  match Connection.ofVariable env var with
  | .error error => failure error.detail
  | .ok connection =>
    let text := "The connection string '" ++ connection.url ++ "' has no supporting driver."
    failure (DbError.connection (.internal text)).detail

/-- Prints a catalog that keeps the rules. -/
def printCatalog (c : Catalog) : Exit :=
  match c.validate with
  | .error error => failure error.message
  | .ok () =>
    match Report.catalogDocument c with
    | .error fault => failure fault.message
    | .ok document => { code := 0, out := document.render ++ "\n" }

/-- How a command ends. -/
def Command.exit (env : Environment) : Command → Exit
  | .catalog => printCatalog .full
  | .subscriber _ => connect env Connection.subscriberVariable
  | .migrate _ | .rollback _ | .reset | .status | .refresh .. =>
    connect env Connection.explorerVariable

/-! ## Program -/

/-- How the program ends, given its words and its environment. -/
def exitOf (env : Environment) (words : List String) : Exit :=
  match Command.ofWords words with
  | .error error => error.exit
  | .ok command => command.exit env

end StatSchema
