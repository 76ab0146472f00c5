import StatSchema.Proofs.Block.Course

/-!
# `StatSchema.Proofs.Block.Schedule` — when each attempt starts and how a block ends

A block is a race of its attempts against a deadline. Which attempts start, when, and how the block ends
are settled by sums of times alone (`Race`); this file proves that the loop runs exactly that race
(`retry_decides`).

The times are those of a clock that ticks in whole milliseconds and on which no pause outlasts thirty
years (`Race.ticking`). With the times of the policy itself (`Race.exact`) the statement is false: a
pause of sixty years is over after thirty, and a deadline amid a millisecond comes at its end.

## Contents
- **Scripts.** `Trial`, `Block.scripted`: operations whose attempts follow a script.
- **Races.** `Race` with `startOf`, `Fails`, `Succeeds`, `Starts`; `Race.exact`, `Race.ticking`.
- **Ends.** `Race.Ends`: the four ways in which a race ends, and what each says of the attempts.
- **Blocks run their race.** `Race.Decides`, `retry_decides`.
-/

namespace StatSchema

variable {α : Type}

/-! ## Scripts -/

/-- What an attempt does by itself. -/
inductive Trial (α : Type) where
  /-- After so many milliseconds it ends with a result. -/
  | ends (after : Nat) (result : Except DbError α)
  /-- It never ends. -/
  | hangs

/-- The milliseconds that an attempt takes if it ends. -/
def Trial.length : Trial α → Nat
  | .ends after _ => after
  | .hangs => 0

/-- An attempt that ends takes the time after which it does. -/
theorem Trial.length_of_ends {trial : Trial α} {after : Nat} {result : Except DbError α}
    (h : trial = .ends after result) : trial.length = after := by
  rw [h]
  rfl

/-- The operation whose attempts follow a script; each shows its number and the time left as it
    starts. -/
def Block.scripted (script : Nat → Trial α) (attempt : Nat) (left : Duration) : Run (Attempt α) := do
  Run.report (.attempted (attempt + 1) left)
  match script attempt with
  | .ends after result => return .ends after (pure result) (pure ())
  | .hangs => return .hangs (pure ())

namespace Block

variable {script : Nat → Trial α} {due k : Nat} {s t : Session} {shown : List Event}

/-- What a scripted attempt shows when it starts. -/
def startShown (due k : Nat) (s : Session) : List Event :=
  [⟨s.clock, .attempted (k + 1) (.ofNanos (due - s.clock * nanosPerMilli))⟩]

/-- An attempt that ends by the last tick takes its own time. -/
theorem attemptOnce_of_ends {after : Nat} {result : Except DbError α}
    (h : script k = .ends after result) (intime : s.clock + after ≤ millisUp due) :
    attemptOnce due (scripted script) k s =
      ⟨some result, startShown due k s, { s with clock := s.clock + after }⟩ := by
  simp [attemptOnce, scripted, h, Attempt.conduct, intime, startShown]

/-- An attempt that has not ended at the last tick is cut off then. -/
theorem attemptOnce_of_cutOff
    (h : ∀ after result, script k = .ends after result → millisUp due < s.clock + after) :
    attemptOnce due (scripted script) k s =
      ⟨none, startShown due k s, { s with clock := millisUp due }⟩ := by
  cases hk : script k with
  | ends after result =>
    have late : ¬ s.clock + after ≤ millisUp due := Nat.not_le_of_lt (h after result hk)
    simp [attemptOnce, scripted, hk, Attempt.conduct, Attempt.cutOff, late, startShown]
  | hangs => simp [attemptOnce, scripted, hk, Attempt.conduct, Attempt.cutOff, startShown]

/-- A scripted attempt that ended did so after its own time, by the last tick. -/
theorem ends_of_attemptOnce {result : Except DbError α}
    (h : attemptOnce due (scripted script) k s = ⟨some result, shown, t⟩) :
    ∃ after, script k = .ends after result ∧ s.clock + after ≤ millisUp due ∧
      shown = startShown due k s ∧ t = { s with clock := s.clock + after } := by
  by_cases hc : ∃ after result, script k = .ends after result ∧ s.clock + after ≤ millisUp due
  · obtain ⟨after, result', hk, intime⟩ := hc
    rw [attemptOnce_of_ends hk intime] at h
    cases h
    exact ⟨after, hk, intime, rfl, rfl⟩
  · rw [attemptOnce_of_cutOff fun after result hk =>
      Nat.lt_of_not_le fun intime => hc ⟨after, result, hk, intime⟩] at h
    cases h

/-- A scripted attempt that was cut off would not have ended by the last tick. -/
theorem cutOff_of_attemptOnce
    (h : attemptOnce due (scripted script) k s = ⟨none, shown, t⟩) :
    (∀ after result, script k = .ends after result → millisUp due < s.clock + after) ∧
      shown = startShown due k s := by
  have late : ∀ after result, script k = .ends after result → millisUp due < s.clock + after := by
    intro after result hk
    apply Nat.lt_of_not_le
    intro intime
    rw [attemptOnce_of_ends hk intime] at h
    cases h
  rw [attemptOnce_of_cutOff late] at h
  cases h
  exact ⟨late, rfl⟩

end Block

/-! ## Races -/

/-- A script of attempts and the times it runs against, in nanoseconds since the block began. -/
structure Race (α : Type) where
  script : Nat → Trial α
  /-- How many attempts there may be. -/
  attempts : Nat
  /-- The time from the failure of each attempt to the next. -/
  pause : Nat → Nat
  /-- The moment from which on no attempt starts. -/
  deadline : Nat
  /-- The moment after which no attempt ends. -/
  cutoff : Nat

namespace Race

/-- The race with the times of the policy itself. -/
def exact (p : Policy) (script : Nat → Trial α) : Race α where
  script := script
  attempts := p.maxAttempts
  pause := fun k => p.baseDelay.toNanos * backoffFactor k
  deadline := p.deadline.toNanos
  cutoff := p.deadline.toNanos

/-- The race on a clock that ticks in whole milliseconds: a pause ends at the first tick that is not too
    early, and after thirty years at the latest; an attempt is cut off at the first tick from the
    deadline on. -/
def ticking (p : Policy) (script : Nat → Trial α) : Race α where
  script := script
  attempts := p.maxAttempts
  pause := fun k =>
    Run.pauseLength (millisUp (p.baseDelay.toNanos * backoffFactor k)) * nanosPerMilli
  deadline := p.deadline.toNanos
  cutoff := millisUp p.deadline.toNanos * nanosPerMilli

/-- A policy in whole milliseconds whose pauses last thirty years at most has one race. -/
theorem ticking_eq_exact (p : Policy) (script : Nat → Trial α)
    (wholeDelay : nanosPerMilli ∣ p.baseDelay.toNanos)
    (wholeDeadline : nanosPerMilli ∣ p.deadline.toNanos)
    (short : ∀ k, p.baseDelay.toNanos * backoffFactor k ≤ Run.longestPause * nanosPerMilli) :
    ticking p script = exact p script := by
  have hpause : (ticking p script).pause = (exact p script).pause := by
    funext k
    have hwhole := millisUp_mul (Nat.dvd_mul_right_of_dvd wholeDelay (backoffFactor k))
    have hshort : millisUp (p.baseDelay.toNanos * backoffFactor k) ≤ Run.longestPause := by
      apply Nat.le_of_mul_le_mul_right _ (show 0 < nanosPerMilli by decide)
      rw [hwhole]
      exact short k
    show Run.pauseLength _ * nanosPerMilli = _
    rw [Run.pauseLength_eq hshort, hwhole]
    rfl
  have hcutoff : (ticking p script).cutoff = (exact p script).cutoff := millisUp_mul wholeDeadline
  have hticking : ticking p script = ⟨script, p.maxAttempts, (ticking p script).pause,
      p.deadline.toNanos, (ticking p script).cutoff⟩ := rfl
  rw [hticking, hpause, hcutoff]
  rfl

variable (r : Race α)

/-- When attempt `k`, counted from zero, starts if it does. -/
def startOf : Nat → Nat
  | 0 => 0
  | k + 1 => startOf k + (r.script k).length * nanosPerMilli + r.pause k

/-- Attempt `k` fails in time. -/
def Fails (k : Nat) : Prop :=
  ∃ after error, r.script k = .ends after (.error error) ∧
    r.startOf k + after * nanosPerMilli ≤ r.cutoff

/-- Attempt `k` succeeds in time with a value. -/
def Succeeds (k : Nat) (value : α) : Prop :=
  ∃ after, r.script k = .ends after (.ok value) ∧ r.startOf k + after * nanosPerMilli ≤ r.cutoff

/-- Attempt `k` is started: it is allowed, all earlier ones failed in time, and the deadline has not
    come. -/
def Starts (k : Nat) : Prop :=
  k < r.attempts ∧ (∀ j < k, r.Fails j) ∧ r.startOf k < r.deadline

variable {r}

theorem startOf_le_startOf {j k : Nat} (h : j ≤ k) : r.startOf j ≤ r.startOf k := by
  induction h with
  | refl => exact Nat.le_refl _
  | step _ ih =>
    rw [startOf, Nat.add_assoc]
    exact Nat.le_add_right_of_le ih

theorem Starts.of_le {j k : Nat} (h : r.Starts k) (hj : j ≤ k) : r.Starts j := by
  obtain ⟨allowed, failed, intime⟩ := h
  refine ⟨Nat.lt_of_le_of_lt hj allowed, fun i hi => failed i (Nat.lt_of_lt_of_le hi hj), ?_⟩
  exact Nat.lt_of_le_of_lt (startOf_le_startOf hj) intime

theorem Fails.not_succeeds {k : Nat} (h : r.Fails k) (value : α) : ¬ r.Succeeds k value := by
  rintro ⟨_, hs, _⟩
  obtain ⟨_, _, hf, _⟩ := h
  rw [hs] at hf
  cases hf

theorem Succeeds.unique {k : Nat} {v w : α} (hv : r.Succeeds k v) (hw : r.Succeeds k w) : v = w := by
  obtain ⟨_, hv, _⟩ := hv
  obtain ⟨_, hw, _⟩ := hw
  rw [hv] at hw
  cases hw
  rfl

/-- After a success no attempt is started. -/
theorem Succeeds.last {k j : Nat} {value : α} (h : r.Succeeds k value) (hj : r.Starts j) : j ≤ k := by
  apply Nat.le_of_not_lt
  intro hlt
  exact (hj.2.1 k hlt).not_succeeds value h

/-! ## Ends -/

/-- **The four ways in which a race ends**, with the number of the attempts started and the result. -/
inductive Ends (r : Race α) (label : String) (limit : Duration) : Nat → Except SchemaError α → Prop where
  | succeeded {k : Nat} {value : α} (starts : r.Starts k) (ended : r.Succeeds k value) :
      Ends r label limit (k + 1) (.ok value)
  | exhausted (failed : ∀ k < r.attempts, r.Starts k ∧ r.Fails k) :
      Ends r label limit r.attempts (.error (.retryExhausted label r.attempts))
  | overdue {k : Nat} (allowed : k < r.attempts) (failed : ∀ j < k, r.Starts j ∧ r.Fails j)
      (late : r.deadline ≤ r.startOf k) :
      Ends r label limit k (.error (.deadlineExceeded label limit))
  | cancelled {k : Nat} (starts : r.Starts k) (noFailure : ¬ r.Fails k)
      (noSuccess : ∀ value, ¬ r.Succeeds k value) :
      Ends r label limit (k + 1) (.error (.deadlineExceeded label limit))

variable {label : String} {limit : Duration} {m : Nat} {result : Except SchemaError α}

/-- The attempts that a race starts are the first ones. -/
theorem Ends.starts_iff (h : r.Ends label limit m result) (j : Nat) : r.Starts j ↔ j < m := by
  cases h with
  | succeeded starts ended =>
    rw [Nat.lt_succ_iff]
    exact ⟨ended.last, starts.of_le⟩
  | exhausted failed => exact ⟨fun hj => hj.1, fun hj => (failed j hj).1⟩
  | @overdue k allowed failed late =>
    refine ⟨fun hj => Nat.lt_of_not_le fun hk => ?_, fun hj => (failed j hj).1⟩
    exact Nat.lt_irrefl _ (Nat.lt_of_le_of_lt (Nat.le_trans late (startOf_le_startOf hk)) hj.2.2)
  | @cancelled k starts noFailure noSuccess =>
    rw [Nat.lt_succ_iff]
    exact ⟨fun hj => Nat.le_of_not_lt fun hlt => noFailure (hj.2.1 k hlt), starts.of_le⟩

/-- A race that does not end in success has no successful attempt. -/
theorem Ends.not_succeeds {error : SchemaError} (h : r.Ends label limit m (.error error)) {k : Nat}
    (hk : r.Starts k) (value : α) : ¬ r.Succeeds k value := by
  have hlt := (h.starts_iff k).mp hk
  cases h with
  | exhausted failed => exact (failed k hlt).2.not_succeeds value
  | overdue allowed failed late => exact (failed k hlt).2.not_succeeds value
  | @cancelled j starts noFailure noSuccess =>
    rcases Nat.lt_succ_iff_lt_or_eq.mp hlt with hj | rfl
    · exact (starts.2.1 k hj).not_succeeds value
    · exact noSuccess value

theorem Ends.ok_iff (h : r.Ends label limit m result) (value : α) :
    result = .ok value ↔ ∃ k, r.Starts k ∧ r.Succeeds k value := by
  constructor
  · rintro rfl
    cases h with
    | succeeded starts ended => exact ⟨_, starts, ended⟩
  · rintro ⟨k, hk, hv⟩
    cases result with
    | ok w =>
      cases h with
      | @succeeded j _ starts ended =>
        obtain rfl : j = k := Nat.le_antisymm (hv.last starts) (ended.last hk)
        rw [ended.unique hv]
    | error error => exact absurd hv (h.not_succeeds hk value)

theorem Ends.exhausted_iff (h : r.Ends label limit m result) :
    result = .error (.retryExhausted label r.attempts) ↔
      ∀ k < r.attempts, r.Starts k ∧ r.Fails k := by
  constructor
  · rintro rfl
    cases h with
    | exhausted failed => exact failed
  · intro failed
    cases h with
    | @succeeded k value starts ended =>
      exact absurd ended ((failed k starts.1).2.not_succeeds value)
    | exhausted _ => rfl
    | overdue allowed _ late => exact absurd (failed _ allowed).1.2.2 (Nat.not_lt_of_le late)
    | @cancelled k starts noFailure _ => exact absurd (failed k starts.1).2 noFailure

/-- A race whose result is neither of the others ends at the deadline. -/
theorem Ends.late_iff (h : r.Ends label limit m result) :
    result = .error (.deadlineExceeded label limit) ↔
      (¬ ∃ k value, r.Starts k ∧ r.Succeeds k value) ∧
        ¬ ∀ k < r.attempts, r.Starts k ∧ r.Fails k := by
  rw [← h.exhausted_iff]
  constructor
  · rintro rfl
    refine ⟨?_, fun he => by cases he⟩
    rintro ⟨k, value, hk, hv⟩
    exact h.not_succeeds hk value hv
  · rintro ⟨noSuccess, notExhausted⟩
    cases h with
    | succeeded starts ended => exact absurd ⟨_, _, starts, ended⟩ noSuccess
    | exhausted _ => exact absurd rfl notExhausted
    | overdue => rfl
    | cancelled => rfl

/-! ## Blocks run their race -/

/-- The attempts that a run shows: when each starts, its number, and the time that it is given. -/
def shownAttempts (events : List Event) : List (Nat × Nat × Nat) :=
  events.filterMap fun e =>
    match e.act with
    | .attempted number left => some (e.time * nanosPerMilli, number, left.toNanos)
    | _ => none

/-- **A run decides a race** that begins at a moment `start`: it shows the attempts that the race
    starts, each at its time and with the time left, and yields the result of the race. -/
structure Decides (r : Race α) (label : String) (limit : Duration) (start : Instant)
    (o : Outcome (Except SchemaError α)) : Prop where
  /-- Exactly the attempts that start are shown, in order, each with the time until the deadline. -/
  starts : ∃ m, (∀ k, r.Starts k ↔ k < m) ∧
    shownAttempts o.events = (List.range m).map fun k =>
      (start * nanosPerMilli + r.startOf k, k + 1, r.deadline - r.startOf k)
  /-- The run yields the value of an attempt that started and succeeded in time. -/
  succeeds : ∀ value, o.value = .ok value ↔ ∃ k, r.Starts k ∧ r.Succeeds k value
  /-- No attempt is started after a success. -/
  last : ∀ k value, r.Starts k → r.Succeeds k value → ∀ j, r.Starts j → j ≤ k
  /-- The attempts are exhausted if all that are allowed were started and failed in time. -/
  exhausts : o.value = .error (.retryExhausted label r.attempts) ↔
    ∀ k < r.attempts, r.Starts k ∧ r.Fails k
  /-- In every other case the deadline is exceeded. -/
  exceeds : o.value = .error (.deadlineExceeded label limit) ↔
    (¬ ∃ k value, r.Starts k ∧ r.Succeeds k value) ∧
      ¬ ∀ k < r.attempts, r.Starts k ∧ r.Fails k

end Race

namespace Block

open Race

@[simp] theorem shownAttempts_log (time : Instant) (entry : LogEntry) (es : List Event) :
    shownAttempts (⟨time, .log entry⟩ :: es) = shownAttempts es := rfl

/-- The invariant of the loop: the clock stands where attempt `k` of the race starts, and the attempts
    before it were started and failed in time. -/
structure Reaches (r : Race α) (start : Instant) (k : Nat) (s : Session) : Prop where
  clock : s.clock * nanosPerMilli = start * nanosPerMilli + r.startOf k
  earlier : ∀ j < k, r.Starts j ∧ r.Fails j

section Ticking

variable {p : Policy} {script : Nat → Trial α} {start : Instant} {k : Nat} {s : Session}

/-- What an attempt of the race shows as it starts. -/
def entryOf (r : Race α) (start : Instant) (k : Nat) : Nat × Nat × Nat :=
  (start * nanosPerMilli + r.startOf k, k + 1, r.deadline - r.startOf k)

theorem Reaches.starts (h : Reaches (ticking p script) start k s) (allowed : k < p.maxAttempts)
    (intime : s.clock * nanosPerMilli < start * nanosPerMilli + p.deadline.toNanos) :
    (ticking p script).Starts k := by
  refine ⟨allowed, fun j hj => (h.earlier j hj).2, ?_⟩
  rw [h.clock] at intime
  exact Nat.lt_of_add_lt_add_left intime

/-- An attempt ends by the last tick of the clock exactly if the race lets it end. -/
theorem Reaches.intime_iff (h : Reaches (ticking p script) start k s) (after : Nat) :
    s.clock + after ≤ millisUp (start * nanosPerMilli + p.deadline.toNanos) ↔
      (ticking p script).startOf k + after * nanosPerMilli ≤ (ticking p script).cutoff := by
  have hscale : s.clock + after ≤ start + millisUp p.deadline.toNanos ↔
      (s.clock + after) * nanosPerMilli ≤ (start + millisUp p.deadline.toNanos) * nanosPerMilli :=
    (Nat.mul_le_mul_right_iff (by decide)).symm
  rw [millisUp_add, hscale, Nat.add_mul, Nat.add_mul, h.clock, Nat.add_assoc]
  exact Nat.add_le_add_iff_left

theorem Reaches.shown (h : Reaches (ticking p script) start k s) (es : List Event) :
    shownAttempts (startShown (start * nanosPerMilli + p.deadline.toNanos) k s ++ es) =
      entryOf (ticking p script) start k :: shownAttempts es := by
  have hleft : start * nanosPerMilli + p.deadline.toNanos - s.clock * nanosPerMilli =
      p.deadline.toNanos - (ticking p script).startOf k := by
    rw [h.clock, Nat.add_sub_add_left]
  have hfits : p.deadline.toNanos - (ticking p script).startOf k < secondsLimit * nanosPerSecond :=
    Nat.lt_of_le_of_lt (Nat.sub_le _ _) p.deadline.toNanos_lt
  rw [startShown, hleft, List.singleton_append, shownAttempts, List.filterMap_cons]
  simp only [Duration.toNanos_ofNanos hfits, h.clock]
  rfl

/-- After a failure in time and a pause, the next attempt is reached. -/
theorem Reaches.next (h : Reaches (ticking p script) start k s) {after : Nat} {error : DbError}
    (starts : (ticking p script).Starts k) (ended : script k = .ends after (.error error))
    (intime : s.clock + after ≤ millisUp (start * nanosPerMilli + p.deadline.toNanos))
    {delay : Duration} (pause : p.delay k = .ok delay) :
    Reaches (ticking p script) start (k + 1)
      { s with clock := s.clock + after + Run.pauseLength (millisUp delay.toNanos) } := by
  refine ⟨?_, fun j hj => ?_⟩
  · have hlength : ((ticking p script).script k).length = after := Trial.length_of_ends ended
    have hpause : (ticking p script).pause k =
        Run.pauseLength (millisUp delay.toNanos) * nanosPerMilli := by
      rw [Policy.toNanos_of_delay pause]
      rfl
    rw [startOf, hlength, hpause, Nat.add_mul, Nat.add_mul, h.clock]
    simp only [Nat.add_assoc]
  · rcases Nat.lt_succ_iff_lt_or_eq.mp hj with hj | rfl
    · exact h.earlier j hj
    · exact ⟨starts, after, error, ended, (h.intime_iff after).mp intime⟩

end Ticking

/-- **A course of a scripted block runs the race** from attempt `k` on. -/
theorem Course.ends {b : Block} {script : Nat → Trial α} {start : Instant} {n k : Nat} {s : Session}
    {o : Outcome (Except SchemaError α)}
    (h : Course b (start * nanosPerMilli + b.policy.deadline.toNanos) (scripted script) n k s o)
    (fits : ∀ k, k + 1 < b.policy.maxAttempts → (ticking b.policy script).Starts k →
      (ticking b.policy script).Fails k → ∃ delay, b.policy.delay k = .ok delay)
    (allowed : n + k = b.policy.maxAttempts) (reached : Reaches (ticking b.policy script) start k s) :
    ∃ m, k ≤ m ∧ (ticking b.policy script).Ends b.label b.policy.deadline m o.value ∧
      shownAttempts o.events =
        (List.range' k (m - k)).map (entryOf (ticking b.policy script) start) := by
  induction h with
  | @exhausted k s =>
    refine ⟨k, Nat.le_refl k, ?_, by rw [Nat.sub_self]; rfl⟩
    rw [Nat.zero_add] at allowed
    subst allowed
    exact .exhausted fun j hj => reached.earlier j hj
  | @overdue n k s late =>
    refine ⟨k, Nat.le_refl k, ?_, by rw [Nat.sub_self]; rfl⟩
    rw [reached.clock] at late
    have hk : k < b.policy.maxAttempts := by omega
    exact .overdue hk reached.earlier (Nat.le_of_add_le_add_left late)
  | @cancelled n k s t shown intime tried =>
    have starts := reached.starts (by omega) intime
    obtain ⟨late, rfl⟩ := cutOff_of_attemptOnce tried
    refine ⟨k + 1, Nat.le_succ k, .cancelled starts ?_ ?_, ?_⟩
    -- An attempt that ends in time ends by the last tick, and then it is not cut off.
    · rintro ⟨after, error, hk, hin⟩
      exact Nat.not_lt_of_le ((reached.intime_iff after).mpr hin) (late after _ hk)
    · rintro value ⟨after, hk, hin⟩
      exact Nat.not_lt_of_le ((reached.intime_iff after).mpr hin) (late after _ hk)
    · rw [reached.shown, Nat.add_sub_cancel_left]
      rfl
  | @succeeded n k s t shown value intime tried =>
    have starts := reached.starts (by omega) intime
    obtain ⟨after, hk, hin, rfl, rfl⟩ := ends_of_attemptOnce tried
    refine ⟨k + 1, Nat.le_succ k, .succeeded starts ⟨after, hk, (reached.intime_iff after).mp hin⟩, ?_⟩
    rw [reached.shown, Nat.add_sub_cancel_left]
    split <;> rfl
  | @failedLast k s t shown error intime tried =>
    have starts := reached.starts (by omega) intime
    obtain ⟨after, hk, hin, rfl, rfl⟩ := ends_of_attemptOnce tried
    refine ⟨k + 1, Nat.le_succ k, ?_, ?_⟩
    · rw [Nat.add_comm] at allowed
      rw [allowed]
      refine .exhausted fun j hj => ?_
      rcases Nat.lt_succ_iff_lt_or_eq.mp (allowed ▸ hj : j < k + 1) with hj | rfl
      · exact reached.earlier j hj
      · exact ⟨starts, after, error, hk, (reached.intime_iff after).mp hin⟩
    · rw [reached.shown, Nat.add_sub_cancel_left]
      rfl
  | @overflowed n k s t shown error fault intime tried pause =>
    have starts := reached.starts (by omega) intime
    obtain ⟨after, hk, hin, rfl, rfl⟩ := ends_of_attemptOnce tried
    obtain ⟨delay, hd⟩ :=
      fits k (by omega) starts ⟨after, error, hk, (reached.intime_iff after).mp hin⟩
    rw [pause] at hd
    cases hd
  | @retried n k s t shown error delay o intime tried pause rest ih =>
    have starts := reached.starts (by omega) intime
    obtain ⟨after, hk, hin, rfl, rfl⟩ := ends_of_attemptOnce tried
    obtain ⟨m, hm, hends, hshown⟩ := ih (by omega) (reached.next starts hk hin pause)
    refine ⟨m, by omega, hends, ?_⟩
    -- The rest shows the attempts from `k + 1` on.
    have hlen : m - k = m - (k + 1) + 1 := by omega
    rw [reached.shown, shownAttempts_log, shownAttempts_log, hshown, hlen, List.range'_succ]
    rfl

/-- **A block runs the race of its script** on the ticking clock, provided that the clock can name its
    deadline and that the pauses which the race takes are durations. -/
theorem retry_decides (b : Block) (script : Nat → Trial α) (s : Session)
    (nameable : b.policy.deadline.secs < secondsOfClock)
    (fits : ∀ k, k + 1 < b.policy.maxAttempts → (ticking b.policy script).Starts k →
      (ticking b.policy script).Fails k → ∃ delay, b.policy.delay k = .ok delay) :
    (ticking b.policy script).Decides b.label b.policy.deadline s.clock
      (b.retry (scripted script) s) := by
  have reached : Reaches (ticking b.policy script) s.clock 0 s :=
    ⟨by rw [startOf, Nat.add_zero], fun j hj => absurd hj (Nat.not_lt_zero j)⟩
  obtain ⟨m, -, hends, hshown⟩ :=
    (retry_course b (scripted script) s nameable).ends fits (Nat.add_zero _) reached
  refine ⟨⟨m, hends.starts_iff, ?_⟩, hends.ok_iff, ?_, hends.exhausted_iff, hends.late_iff⟩
  · rw [hshown, Nat.sub_zero, List.range_eq_range']
    rfl
  · exact fun k value _ hv j hj => hv.last hj

/-- An attempt that fails at once and one that succeeds after so many milliseconds. -/
def secondTry (after : Nat) : Nat → Trial Nat
  | 0 => .ends 0 (.error (.custom "deadlock"))
  | _ + 1 => .ends after (.ok 7)

/-- Two attempts, the second a second after the first, within ten seconds. -/
def twoTries : Block :=
  ⟨⟨2, .ofSeconds 1, .ofSeconds 10⟩, "block", "SELECT 1"⟩

theorem retry_decides_twoTries :
    twoTries.policy.deadline.secs < secondsOfClock ∧
      (∀ k, k + 1 < twoTries.policy.maxAttempts → (ticking twoTries.policy (secondTry 4)).Starts k →
        (ticking twoTries.policy (secondTry 4)).Fails k → ∃ delay, twoTries.policy.delay k = .ok delay) ∧
      (ticking twoTries.policy (secondTry 4)).Decides twoTries.label twoTries.policy.deadline 0
        (twoTries.retry (scripted (secondTry 4)) {}) := by
  have nameable : twoTries.policy.deadline.secs < secondsOfClock := by decide
  have fits : ∀ k, k + 1 < twoTries.policy.maxAttempts →
      (ticking twoTries.policy (secondTry 4)).Starts k →
      (ticking twoTries.policy (secondTry 4)).Fails k → ∃ delay, twoTries.policy.delay k = .ok delay := by
    intro k hk _ _
    obtain rfl : k = 0 := Nat.lt_one_iff.mp (Nat.lt_of_succ_lt_succ hk)
    exact ⟨_, rfl⟩
  exact ⟨nameable, fits, retry_decides twoTries (secondTry 4) {} nameable fits⟩

/-- A pause of sixty years within a deadline of thirty years and a second. -/
def longPause : Block :=
  ⟨⟨2, .ofSeconds 1892160000, .ofSeconds 946080001⟩, "block", "SELECT 1"⟩

/-- A pause of half a millisecond within a deadline of 0.6 milliseconds. -/
def finePause : Block :=
  ⟨⟨2, .ofNanos 500000, .ofNanos 600000⟩, "block", "SELECT 1"⟩

/-- A deadline of 1.5 milliseconds. -/
def fineDeadline : Block :=
  ⟨⟨2, .ofNanos 0, .ofNanos 1500000⟩, "block", "SELECT 1"⟩

/-- **Blocks do not run the race with the times of their policies.** A pause of sixty years ends before a
    deadline of thirty years and a second; a pause of half a millisecond ends after a deadline of 0.6;
    and an attempt of two milliseconds ends within a deadline of 1.5. -/
theorem exact_not_decided :
    ¬ (exact longPause.policy (secondTry 0)).Decides longPause.label longPause.policy.deadline 0
        (longPause.retry (scripted (secondTry 0)) {}) ∧
    ¬ (exact finePause.policy (secondTry 0)).Decides finePause.label finePause.policy.deadline 0
        (finePause.retry (scripted (secondTry 0)) {}) ∧
    ¬ (exact fineDeadline.policy (secondTry 2)).Decides fineDeadline.label
        fineDeadline.policy.deadline 0 (fineDeadline.retry (scripted (secondTry 2)) {}) := by
  refine ⟨fun h => ?_, fun h => ?_, fun h => ?_⟩
  · -- The block succeeds, but no attempt after the first starts before the deadline of the race.
    obtain ⟨k, starts, after, hk, -⟩ := (h.succeeds 7).mp (by rfl)
    cases k with
    | zero => cases hk
    | succ k =>
      have late : (exact longPause.policy (secondTry 0)).deadline ≤
          (exact longPause.policy (secondTry 0)).startOf 1 := by decide
      exact Nat.not_lt_of_le (Nat.le_trans late (startOf_le_startOf (Nat.le_add_left 1 k))) starts.2.2
  · -- The block is late, but the second attempt of the race starts in time and succeeds at once.
    refine (h.exceeds.mp (by rfl)).1 ⟨1, 7, ⟨by decide, fun j hj => ?_, by decide⟩, 0, rfl, by decide⟩
    obtain rfl : j = 0 := Nat.lt_one_iff.mp hj
    exact ⟨0, .custom "deadlock", rfl, by decide⟩
  · -- The block succeeds, but its second attempt lasts longer than the race.
    obtain ⟨k, -, after, hk, intime⟩ := (h.succeeds 7).mp (by rfl)
    cases k with
    | zero => cases hk
    | succ k =>
      cases hk
      have late : (exact fineDeadline.policy (secondTry 2)).cutoff < 2 * nanosPerMilli := by decide
      exact Nat.not_lt_of_le (Nat.le_trans (Nat.le_add_left _ _) intime) late

end Block

end StatSchema
