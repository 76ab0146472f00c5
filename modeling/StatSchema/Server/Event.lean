import StatSchema.Server.Log

/-!
# `StatSchema.Server.Event` — what a run shows

## Contents
- `Instant`: a moment of a run; `secondsOfClock`, how far ahead the clock can name one.
- `Act`: what happens. `Event`: an act at a moment.
-/

namespace StatSchema

/-- A moment, in milliseconds since the run began: the clock advances by whole milliseconds. -/
abbrev Instant := Nat

/-- How many seconds ahead lies the first moment that the clock cannot name. It counts seconds below 2^63
    and may have counted a thousand of them when a run begins. -/
def secondsOfClock : Nat := 9223372036854774808

/-- Something that happens in a run. Transactions are numbered by their depth: 1 is a transaction of its
    own, 2 a savepoint in it. -/
inductive Act where
  | log (entry : LogEntry)
  | began (depth : Nat)
  | committed (depth : Nat)
  | rolledBack (depth : Nat)
  /-- A statement was sent, and the server may have refused it. -/
  | executed (sql : String) (failed : Bool)
  /-- The row that records a migration was written, or refused. -/
  | recorded (table version : String) (failed : Bool)
  /-- The row that records a migration was deleted, or the deletion refused. -/
  | erased (table version : String) (failed : Bool)
  /-- An operation was tried, with so much time left. -/
  | attempted (number : Nat) (left : Duration)
  /-- A connection was opened to an address, here without its password. -/
  | connected (address : String)
  deriving DecidableEq

/-- An act and when it happened. -/
structure Event where
  time : Instant
  act : Act
  deriving DecidableEq

end StatSchema
