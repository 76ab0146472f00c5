import StatSchema.Block.Retry

/-!
# `StatSchema.Block.Statements` — statements that take effect together

Each attempt at a block of statements opens a transaction of its own, a savepoint if one is open already.
So a failed attempt leaves nothing behind. The server is told how much time is left, and stops a
statement that runs longer by itself.

## Contents
- `timeoutStatement`: what tells the server how much time is left.
- `attemptStatements`: one attempt. `runStatements`: the whole block.
-/

namespace StatSchema

/-- Tells the server how many milliseconds a statement may take; never zero, which would mean any time. -/
def timeoutStatement (left : Duration) : String :=
  "SET LOCAL statement_timeout = " ++ toString (max left.toMillis 1)

/-- The work of one attempt, in a transaction that has been opened. -/
def finishStatements (left : Duration) (statements : List String) : Run (Except DbError Unit) := do
  Run.settle (← Run.executeAll (timeoutStatement left :: statements))

/-- One attempt: the server has to grant the transaction before the statements are sent. -/
def attemptStatements (statements : List String) (left : Duration) : Run (Attempt Unit) := do
  match ← Run.requestTransaction with
  | .unanswered => return .hangs (pure ())
  | .refused error => return .ends 0 (pure (.error error)) (pure ())
  | .granted =>
    Run.begin
    return .ends 0 (finishStatements left statements) Run.rollback
  | .delayed millis =>
    Run.begin
    return .ends (Run.pauseLength millis) (finishStatements left statements) Run.rollback

/-- Runs statements as one block under the name `label`; nothing is sent if there are none. -/
def runStatements (policy : Policy) (label : String) (statements : List String) :
    Run (Except SchemaError Unit) :=
  if statements.isEmpty then return .ok ()
  else
    let block : Block := ⟨policy, label, ";\n".intercalate statements⟩
    block.retry fun _ left => attemptStatements statements left

end StatSchema
