import StatSchema.Text.Decimal

/-!
# `StatSchema.Duration` — spans of time

A duration is a count of seconds below 2^64 and a rest in nanoseconds. Retries scale a duration by a
power of two; a product that no longer fits is a fault, never a wrapped value.

## Contents
- **Faults.** `OutOfRange`: the computations that leave the range of their numbers.
- **Units.** `nanosPerSecond`, `nanosPerMilli`, `millisUp` with its laws, and `secondsLimit`, where
  seconds end.
- **Durations.** `Duration`, `ofParts`, `ofSeconds`, `ofNanos`, `toNanos`, `toMillis`.
- **Scaling.** `scale`: the exact product, or the fault.
- **Text.** `text`: the largest unit that is not zero, with an exact decimal fraction.
-/

namespace StatSchema

/-! ## Faults -/

/-- A computation that left the range of its numbers. -/
inductive OutOfRange where
  /-- A count would have gone below zero. -/
  | countBelowZero
  /-- The seconds of a scaled duration would have reached 2^64. -/
  | durationTooLong
  /-- A moment so far ahead that the clock cannot name it. -/
  | momentTooLate
  deriving DecidableEq, Repr

/-- The text that reports the fault. -/
def OutOfRange.message : OutOfRange → String
  | .countBelowZero => "attempt to subtract with overflow"
  | .durationTooLong => "overflow when multiplying duration by scalar"
  | .momentTooLate => "overflow when adding duration to instant"

/-! ## Units -/

/-- The nanoseconds of one second. -/
def nanosPerSecond : Nat := 1000000000

/-- The nanoseconds of one millisecond. -/
def nanosPerMilli : Nat := 1000000

/-- The least number of milliseconds that are not shorter than `nanos` nanoseconds. -/
def millisUp (nanos : Nat) : Nat :=
  (nanos + (nanosPerMilli - 1)) / nanosPerMilli

/-- Whole milliseconds stay what they are when the rest is rounded up. -/
theorem millisUp_add (millis nanos : Nat) :
    millisUp (millis * nanosPerMilli + nanos) = millis + millisUp nanos := by
  unfold millisUp nanosPerMilli
  omega

/-- Rounding up loses nothing. -/
theorem le_millisUp (nanos : Nat) : nanos ≤ millisUp nanos * nanosPerMilli := by
  unfold millisUp nanosPerMilli
  omega

/-- Rounding up keeps whole milliseconds. -/
theorem millisUp_mul {nanos : Nat} (whole : nanosPerMilli ∣ nanos) :
    millisUp nanos * nanosPerMilli = nanos := by
  obtain ⟨millis, rfl⟩ := whole
  unfold millisUp nanosPerMilli
  omega

/-- The number of seconds, 2^64, that no duration reaches. -/
def secondsLimit : Nat := 18446744073709551616

/-! ## Durations -/

/-- A span of time: whole seconds and the nanoseconds of the second begun. -/
structure Duration where
  secs : Nat
  nanos : Nat
  secs_lt : secs < secondsLimit
  nanos_lt : nanos < nanosPerSecond
  deriving DecidableEq

namespace Duration

/-- The duration of `secs` seconds and `nanos` nanoseconds, whose whole seconds are carried; at most the
    longest duration. -/
def ofParts (secs nanos : Nat) : Duration :=
  if h : secs + nanos / nanosPerSecond < secondsLimit then
    ⟨secs + nanos / nanosPerSecond, nanos % nanosPerSecond, h, Nat.mod_lt _ (by decide)⟩
  else ⟨secondsLimit - 1, nanosPerSecond - 1, by decide, by decide⟩

/-- The duration of `secs` seconds; at most the longest duration. -/
def ofSeconds (secs : Nat) : Duration :=
  ofParts secs 0

/-- The duration of `nanos` nanoseconds; at most the longest duration. -/
def ofNanos (nanos : Nat) : Duration :=
  ofParts 0 nanos

/-- The length in nanoseconds. -/
def toNanos (d : Duration) : Nat :=
  d.secs * nanosPerSecond + d.nanos

/-- The length in whole milliseconds, rounded down. -/
def toMillis (d : Duration) : Nat :=
  d.secs * 1000 + d.nanos / nanosPerMilli

theorem toNanos_lt (d : Duration) : d.toNanos < secondsLimit * nanosPerSecond := by
  have hs := d.secs_lt
  have hn := d.nanos_lt
  unfold toNanos secondsLimit nanosPerSecond at *
  omega

/-- A length that fits is kept. -/
theorem toNanos_ofNanos {nanos : Nat} (h : nanos < secondsLimit * nanosPerSecond) :
    (ofNanos nanos).toNanos = nanos := by
  have hs : 0 + nanos / nanosPerSecond < secondsLimit := by
    unfold secondsLimit nanosPerSecond at *
    omega
  unfold ofNanos ofParts
  rw [dif_pos hs]
  simp only [toNanos, Nat.zero_add]
  exact Nat.div_add_mod' nanos nanosPerSecond

/-- The whole milliseconds of a length. -/
theorem toMillis_eq (d : Duration) : d.toMillis = d.toNanos / nanosPerMilli := by
  unfold toMillis toNanos nanosPerSecond nanosPerMilli
  omega

/-! ## Scaling -/

/-- The duration `factor` times as long. The nanoseconds are scaled first, and what they yield in whole
    seconds is carried to the scaled seconds. -/
def scale (d : Duration) (factor : Nat) : Except OutOfRange Duration :=
  let nanos := d.nanos * factor
  let secs := d.secs * factor + nanos / nanosPerSecond
  if h : secs < secondsLimit then .ok ⟨secs, nanos % nanosPerSecond, h, Nat.mod_lt _ (by decide)⟩
  else .error .durationTooLong

/-- A scaled duration is exactly as long as its factor says. -/
theorem toNanos_of_scale {d e : Duration} {factor : Nat} (h : d.scale factor = .ok e) :
    e.toNanos = d.toNanos * factor := by
  simp only [scale] at h
  split at h
  · cases h
    simp only [toNanos]
    rw [Nat.add_mul, Nat.add_assoc, Nat.div_add_mod', Nat.add_mul, Nat.mul_right_comm]
  · cases h

/-! ## Text -/

/-- The length in the largest of s, ms, µs and ns that it fills, with the exact fraction. -/
def text (d : Duration) : String :=
  if d.secs > 0 then
    toString d.secs ++ Text.fraction 9 d.nanos ++ "s"
  else if d.nanos ≥ 1000000 then
    toString (d.nanos / 1000000) ++ Text.fraction 6 (d.nanos % 1000000) ++ "ms"
  else if d.nanos ≥ 1000 then
    toString (d.nanos / 1000) ++ Text.fraction 3 (d.nanos % 1000) ++ "µs"
  else toString d.nanos ++ "ns"

end Duration

end StatSchema
