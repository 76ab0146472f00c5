import StatSchema.Duration

/-!
# `StatSchema.Block.Policy` — how often and how long a block is tried

## Contents
- `Policy`, `Policy.standard`.
- `backoffFactor`, `Policy.delay`: the pause after each failed attempt, which doubles.
-/

namespace StatSchema

/-- How a block is retried. -/
structure Policy where
  maxAttempts : Nat
  /-- The pause after the first attempt. -/
  baseDelay : Duration
  /-- The time for all attempts together. -/
  deadline : Duration
  deriving DecidableEq

/-- Ten attempts within ninety minutes, with five seconds after the first. -/
def Policy.standard : Policy :=
  ⟨10, .ofSeconds 5, .ofSeconds 5400⟩

/-- How many times as long as the first pause the one after attempt `attempt` is, counted from zero: two
    to that power, or the largest number of thirty-two bits. -/
def backoffFactor (attempt : Nat) : Nat :=
  if attempt < 32 then Nat.pow 2 attempt else 4294967295

/-- The pause after attempt `attempt`, counted from zero. -/
def Policy.delay (p : Policy) (attempt : Nat) : Except OutOfRange Duration :=
  p.baseDelay.scale (backoffFactor attempt)

/-- A pause that is a duration is as long as the first one times its factor. -/
theorem Policy.toNanos_of_delay {p : Policy} {attempt : Nat} {pause : Duration}
    (h : p.delay attempt = .ok pause) :
    pause.toNanos = p.baseDelay.toNanos * backoffFactor attempt :=
  Duration.toNanos_of_scale h

end StatSchema
