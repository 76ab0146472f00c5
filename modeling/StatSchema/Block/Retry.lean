import StatSchema.Block.Policy
import StatSchema.Server.Run

/-!
# `StatSchema.Block.Retry` — attempts within a deadline

A block is tried until an attempt succeeds, its policy allows no more, or its deadline has come. All
attempts share one deadline. The one that is under way then is cut off, at the first tick of the clock
that is not before the deadline; an attempt that ends at that tick has ended. After each failure but the
last a pause follows, and every failure is retried, whatever its kind: only the log tells them apart.

## Contents
- **Attempts.** `Attempt`: what is left of an attempt once it has begun. `Attempt.conduct` sees it to its
  end or cuts it off.
- **Blocks.** `Block`, `Block.retryFrom`, `Block.retry`.
-/

namespace StatSchema

variable {α : Type}

/-! ## Attempts -/

/-- An attempt that has begun. -/
inductive Attempt (α : Type) where
  /-- After `wait` milliseconds it does `finish` and ends; cut off before, it does `abandon`. -/
  | ends (wait : Nat) (finish : Run (Except DbError α)) (abandon : Run Unit)
  /-- It never ends by itself. -/
  | hangs (abandon : Run Unit)

namespace Attempt

/-- Cuts the attempt off at the tick `last`. -/
def cutOff (last : Instant) (abandon : Run Unit) : Run (Option (Except DbError α)) := do
  Run.waitUntil last
  abandon
  return none

/-- How the attempt ends, or nothing if it has not ended at the tick `last`. -/
def conduct (last : Instant) : Attempt α → Run (Option (Except DbError α))
  | .hangs abandon => cutOff last abandon
  | .ends wait finish abandon => do
    let now ← Run.now
    if now + wait ≤ last then
      Run.waitUntil (now + wait)
      return some (← finish)
    else cutOff last abandon

end Attempt

/-! ## Blocks -/

/-- Work that is retried as a whole. -/
structure Block where
  policy : Policy
  /-- What the log and the errors call it. -/
  label : String
  /-- What the log shows of it when it fails for good. -/
  query : String

namespace Block

/-- What a block that was not done in time yields. -/
def late (b : Block) : SchemaError :=
  .deadlineExceeded b.label b.policy.deadline

/-- Tries the block `remaining` times at most, after `attempt` failed attempts, until its deadline, which
    comes `due` nanoseconds after the run began. The operation is given the number of the attempt, from
    zero, and the time left. -/
def retryFrom (b : Block) (due : Nat) (operation : Nat → Duration → Run (Attempt α)) :
    (remaining attempt : Nat) → Run (Except SchemaError α)
  | 0, _ => do
    Run.log (.exhausted b.label b.policy.maxAttempts b.query)
    return .error (.retryExhausted b.label b.policy.maxAttempts)
  | remaining + 1, attempt => do
    let now ← Run.now
    if due ≤ now * nanosPerMilli then
      Run.log (.overdue b.label b.policy.deadline b.query)
      return .error b.late
    else
      let begun ← operation attempt (.ofNanos (due - now * nanosPerMilli))
      match ← begun.conduct (millisUp due) with
      | none =>
        Run.log (.cancelled b.label b.policy.deadline (attempt + 1) b.policy.maxAttempts b.query)
        return .error b.late
      | some (.ok value) =>
        if attempt > 0 then Run.log (.succeededAfter b.label attempt)
        return .ok value
      | some (.error error) =>
        Run.log (.attemptFailed b.label (attempt + 1) b.policy.maxAttempts (.classify error))
        if remaining = 0 then b.retryFrom due operation remaining (attempt + 1)
        else
          match b.policy.delay attempt with
          | .error fault => return .error (.outOfRange fault)
          | .ok delay =>
            Run.log (.retrying b.label delay)
            Run.sleep delay
            b.retryFrom due operation remaining (attempt + 1)

/-- Tries the block as its policy says; a deadline that the clock cannot name is a fault. -/
def retry (b : Block) (operation : Nat → Duration → Run (Attempt α)) :
    Run (Except SchemaError α) := do
  let start ← Run.now
  if b.policy.deadline.secs < secondsOfClock then
    b.retryFrom (start * nanosPerMilli + b.policy.deadline.toNanos) operation b.policy.maxAttempts 0
  else return .error (.outOfRange .momentTooLate)

end Block

end StatSchema
