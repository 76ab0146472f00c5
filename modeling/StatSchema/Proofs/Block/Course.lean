import StatSchema.Block.Retry

/-!
# `StatSchema.Proofs.Block.Course` — the courses that a block can take

Everything that a block can do before its next attempt is one of seven steps. This file says once what
they are (`Course`) and that a block always takes one of these courses (`retryFrom_course`); every law
of blocks is then an induction on the course, and none of them opens the loop again.

## Contents
- **Attempts.** `attemptOnce`: one attempt, from its start to its end or to its cut-off;
  `conduct_of_intime`, `conduct_of_late`.
- **Courses.** `Course`, `retryFrom_course`, `retry_course`, `retry_of_unnameable`.
-/

namespace StatSchema.Block

variable {α : Type}

/-! ## Attempts -/

/-- One attempt at an operation, given the time until the deadline, which comes `due` nanoseconds after
    the run began: how it ends, or nothing if it is cut off. -/
def attemptOnce (due : Nat) (operation : Nat → Duration → Run (Attempt α)) (attempt : Nat) :
    Run (Option (Except DbError α)) := do
  let now ← Run.now
  let begun ← operation attempt (.ofNanos (due - now * nanosPerMilli))
  begun.conduct (millisUp due)

section Conduct

variable {wait : Nat} {last : Instant} {s : Session}

/-- An attempt that ends in time is waited for. -/
theorem conduct_of_intime (finish : Run (Except DbError α)) (abandon : Run Unit)
    (intime : s.clock + wait ≤ last) :
    Attempt.conduct last (.ends wait finish abandon) s = (do
      Run.waitUntil (s.clock + wait)
      return some (← finish)) s := by
  change ((if s.clock + wait ≤ last then _ else _ : Run (Option (Except DbError α))) s) = _
  rw [if_pos intime]
  rfl

/-- An attempt that does not end in time is cut off. -/
theorem conduct_of_late (finish : Run (Except DbError α)) (abandon : Run Unit)
    (late : ¬ s.clock + wait ≤ last) :
    Attempt.conduct last (.ends wait finish abandon) s = Attempt.cutOff last abandon s := by
  change ((if s.clock + wait ≤ last then _ else _ : Run (Option (Except DbError α))) s) = _
  rw [if_neg late]

end Conduct

/-! ## Courses -/

/-- **The courses of a block** that may be tried `remaining` times more after `attempt` failures: what
    it yields, shows and leaves behind when it starts in a given session. -/
inductive Course (b : Block) (due : Nat) (operation : Nat → Duration → Run (Attempt α)) :
    (remaining attempt : Nat) → Session → Outcome (Except SchemaError α) → Prop where
  /-- No attempt is left. -/
  | exhausted {k : Nat} {s : Session} :
      Course b due operation 0 k s
        ⟨.error (.retryExhausted b.label b.policy.maxAttempts),
         [⟨s.clock, .log (.exhausted b.label b.policy.maxAttempts b.query)⟩], s⟩
  /-- The deadline came before the attempt could start. -/
  | overdue {n k : Nat} {s : Session} (late : due ≤ s.clock * nanosPerMilli) :
      Course b due operation (n + 1) k s
        ⟨.error b.late, [⟨s.clock, .log (.overdue b.label b.policy.deadline b.query)⟩], s⟩
  /-- The deadline came during the attempt. -/
  | cancelled {n k : Nat} {s t : Session} {shown : List Event}
      (intime : s.clock * nanosPerMilli < due)
      (tried : attemptOnce due operation k s = ⟨none, shown, t⟩) :
      Course b due operation (n + 1) k s
        ⟨.error b.late,
         shown ++ [⟨t.clock, .log (.cancelled b.label b.policy.deadline (k + 1)
           b.policy.maxAttempts b.query)⟩], t⟩
  /-- The attempt succeeded. -/
  | succeeded {n k : Nat} {s t : Session} {shown : List Event} {value : α}
      (intime : s.clock * nanosPerMilli < due)
      (tried : attemptOnce due operation k s = ⟨some (.ok value), shown, t⟩) :
      Course b due operation (n + 1) k s
        ⟨.ok value,
         shown ++ (if k > 0 then [⟨t.clock, .log (.succeededAfter b.label k)⟩] else []), t⟩
  /-- The last attempt failed. -/
  | failedLast {k : Nat} {s t : Session} {shown : List Event} {error : DbError}
      (intime : s.clock * nanosPerMilli < due)
      (tried : attemptOnce due operation k s = ⟨some (.error error), shown, t⟩) :
      Course b due operation 1 k s
        ⟨.error (.retryExhausted b.label b.policy.maxAttempts),
         shown ++ [⟨t.clock, .log (.attemptFailed b.label (k + 1) b.policy.maxAttempts
             (.classify error))⟩,
           ⟨t.clock, .log (.exhausted b.label b.policy.maxAttempts b.query)⟩], t⟩
  /-- The attempt failed, and the pause after it leaves the range of durations. -/
  | overflowed {n k : Nat} {s t : Session} {shown : List Event} {error : DbError}
      {fault : OutOfRange} (intime : s.clock * nanosPerMilli < due)
      (tried : attemptOnce due operation k s = ⟨some (.error error), shown, t⟩)
      (pause : b.policy.delay k = .error fault) :
      Course b due operation (n + 2) k s
        ⟨.error (.outOfRange fault),
         shown ++ [⟨t.clock, .log (.attemptFailed b.label (k + 1) b.policy.maxAttempts
           (.classify error))⟩], t⟩
  /-- The attempt failed, and after a pause the block goes on. -/
  | retried {n k : Nat} {s t : Session} {shown : List Event} {error : DbError} {delay : Duration}
      {o : Outcome (Except SchemaError α)} (intime : s.clock * nanosPerMilli < due)
      (tried : attemptOnce due operation k s = ⟨some (.error error), shown, t⟩)
      (pause : b.policy.delay k = .ok delay)
      (rest : Course b due operation (n + 1) (k + 1)
        { t with clock := t.clock + Run.pauseLength (millisUp delay.toNanos) } o) :
      Course b due operation (n + 2) k s
        ⟨o.value,
         shown ++ ⟨t.clock, .log (.attemptFailed b.label (k + 1) b.policy.maxAttempts
             (.classify error))⟩
           :: ⟨t.clock, .log (.retrying b.label delay)⟩ :: o.events, o.session⟩

/-! ## The loop takes its courses -/

/-- What a block does once an attempt is over. -/
def afterAttempt (b : Block) (due : Nat) (operation : Nat → Duration → Run (Attempt α))
    (remaining attempt : Nat) : Option (Except DbError α) → Run (Except SchemaError α)
  | none => do
    Run.log (.cancelled b.label b.policy.deadline (attempt + 1) b.policy.maxAttempts b.query)
    return .error b.late
  | some (.ok value) => do
    if attempt > 0 then Run.log (.succeededAfter b.label attempt)
    return .ok value
  | some (.error error) => do
    Run.log (.attemptFailed b.label (attempt + 1) b.policy.maxAttempts (.classify error))
    if remaining = 0 then b.retryFrom due operation remaining (attempt + 1)
    else
      match b.policy.delay attempt with
      | .error fault => return .error (.outOfRange fault)
      | .ok delay =>
        Run.log (.retrying b.label delay)
        Run.sleep delay
        b.retryFrom due operation remaining (attempt + 1)

/-- The loop starts no attempt from its deadline on. -/
theorem retryFrom_of_late (b : Block) {due : Nat} (operation : Nat → Duration → Run (Attempt α))
    (n k : Nat) {s : Session} (late : due ≤ s.clock * nanosPerMilli) :
    b.retryFrom due operation (n + 1) k s =
      ⟨.error b.late, [⟨s.clock, .log (.overdue b.label b.policy.deadline b.query)⟩], s⟩ := by
  change ((if due ≤ s.clock * nanosPerMilli then _ else _ : Run (Except SchemaError α)) s) = _
  rw [if_pos late]
  rfl

/-- Before its deadline the loop makes an attempt and goes on from there. -/
theorem retryFrom_of_intime (b : Block) {due : Nat} (operation : Nat → Duration → Run (Attempt α))
    (n k : Nat) {s : Session} (intime : s.clock * nanosPerMilli < due) :
    b.retryFrom due operation (n + 1) k s =
      (attemptOnce due operation k >>= b.afterAttempt due operation n k) s := by
  have h : b.retryFrom due operation (n + 1) k s =
      (operation k (.ofNanos (due - s.clock * nanosPerMilli)) >>= fun begun =>
        begun.conduct (millisUp due) >>= b.afterAttempt due operation n k) s := by
    change ((if due ≤ s.clock * nanosPerMilli then _ else _ : Run (Except SchemaError α)) s) = _
    rw [if_neg (Nat.not_le_of_lt intime)]
    rfl
  rw [h, attemptOnce, bind_assoc]
  simp only [bind_assoc]
  rfl

/-- After a failure that is not the last, the block logs it, pauses and goes on. -/
theorem afterAttempt_of_pause (b : Block) (due : Nat) (operation : Nat → Duration → Run (Attempt α))
    (n : Nat) {k : Nat} (error : DbError) {delay : Duration} (pause : b.policy.delay k = .ok delay)
    (t : Session) :
    b.afterAttempt due operation (n + 1) k (some (.error error)) t =
      ((do
        Run.log (.attemptFailed b.label (k + 1) b.policy.maxAttempts (.classify error))
        Run.log (.retrying b.label delay)
        Run.sleep delay
        b.retryFrom due operation (n + 1) (k + 1)) : Run (Except SchemaError α)) t := by
  rw [afterAttempt, pause]
  rfl

/-- **A block takes one of the courses.** Induction on the attempts that are left; the cases are the
    branches of the loop. -/
theorem retryFrom_course (b : Block) (due : Nat) (operation : Nat → Duration → Run (Attempt α))
    (remaining attempt : Nat) (s : Session) :
    Course b due operation remaining attempt s (b.retryFrom due operation remaining attempt s) := by
  induction remaining generalizing attempt s with
  | zero => exact .exhausted
  | succ n ih =>
    rcases Nat.lt_or_ge (s.clock * nanosPerMilli) due with intime | late
    · rw [retryFrom_of_intime b operation n attempt intime, Run.bind_apply]
      obtain ⟨⟨ended, shown, t⟩, tried⟩ : ∃ o, attemptOnce due operation attempt s = o := ⟨_, rfl⟩
      rw [tried]
      match ended, n with
      | none, _ => exact .cancelled intime tried
      | some (.ok value), _ =>
        cases attempt with
        | zero => exact .succeeded intime tried
        | succ k => exact .succeeded intime tried
      | some (.error error), 0 => exact .failedLast intime tried
      | some (.error error), n + 1 =>
        cases pause : b.policy.delay attempt with
        | error fault =>
          rw [afterAttempt, pause]
          exact .overflowed intime tried pause
        | ok delay =>
          rw [afterAttempt_of_pause b due operation n error pause]
          rw [Run.bind_apply, Run.log_apply, Run.bind_apply, Run.log_apply, Run.bind_apply,
            Run.sleep_apply]
          exact .retried intime tried pause (ih (attempt + 1) _)
    · rw [retryFrom_of_late b operation n attempt late]
      exact .overdue late

/-- A block that is tried as its policy says takes a course, unless the clock cannot name its deadline. -/
theorem retry_course (b : Block) (operation : Nat → Duration → Run (Attempt α)) (s : Session)
    (nameable : b.policy.deadline.secs < secondsOfClock) :
    Course b (s.clock * nanosPerMilli + b.policy.deadline.toNanos) operation b.policy.maxAttempts 0 s
      (b.retry operation s) := by
  have h : b.retry operation s =
      b.retryFrom (s.clock * nanosPerMilli + b.policy.deadline.toNanos) operation
        b.policy.maxAttempts 0 s := by
    change ((if b.policy.deadline.secs < secondsOfClock then _ else _ :
      Run (Except SchemaError α)) s) = _
    rw [if_pos nameable]
    rfl
  rw [h]
  exact retryFrom_course b _ operation _ 0 s

/-- A deadline that the clock cannot name stops the block before its first attempt. -/
theorem retry_of_unnameable (b : Block) (operation : Nat → Duration → Run (Attempt α)) (s : Session)
    (unnameable : ¬ b.policy.deadline.secs < secondsOfClock) :
    b.retry operation s = ⟨.error (.outOfRange .momentTooLate), [], s⟩ := by
  change ((if b.policy.deadline.secs < secondsOfClock then _ else _ :
    Run (Except SchemaError α)) s) = _
  rw [if_neg unnameable]
  rfl

end StatSchema.Block
