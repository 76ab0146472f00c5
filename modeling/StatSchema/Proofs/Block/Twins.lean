import StatSchema.Block.Statements
import StatSchema.Proofs.Block.Course
import StatSchema.Proofs.Server.Twins

/-!
# `StatSchema.Proofs.Block.Twins` — two runs of a block side by side

A block only looks at whether its statements are accepted. So two blocks whose statements are answered
alike take the same course: their attempts begin, fail and are cut off at the same moments, and the log
of the one is that of the other, up to the errors of the attempts and, when a block fails for good, up
to the query that the log shows then.

## Contents
- **Attempts.** `Twinning.Twins.conduct`, `Twinning.Twins.attemptOnce`.
- **Blocks.** `Twinning.Reports`: what the log may show of two blocks; `Twinning.Ending.retryFrom`,
  `Twinning.Ending.retry`, `Twinning.Ending.runStatements`.
-/

namespace StatSchema.Twinning

variable {T : Twinning} {α : Type}

/-! ## Attempts -/

/-- The results of attempts are alike, or both attempts have been cut off. -/
abbrev AttemptsEnd (T : Twinning) :
    Option (Except DbError α) → Option (Except DbError α) → Prop :=
  Option.Rel (Ends T.error)

theorem Twins.cutOff (last : Instant) {abandon : Run Unit} (habandon : T.Twins Eq abandon abandon) :
    T.Twins (T.AttemptsEnd (α := α)) (Attempt.cutOff last abandon) (Attempt.cutOff last abandon) :=
  (Twins.waitUntil last).after fun _ => habandon.after fun _ => .pure .none

/-- Attempts that take as long end alike or are both cut off. -/
theorem Twins.conduct (wait : Nat) (last : Instant) {finish finish' : Run (Except DbError α)}
    {abandon : Run Unit} (hfinish : T.Twins (Ends T.error) finish finish')
    (habandon : T.Twins Eq abandon abandon) :
    T.Twins T.AttemptsEnd (Attempt.conduct last (.ends wait finish abandon))
      (Attempt.conduct last (.ends wait finish' abandon)) := by
  refine Twins.now.after fun now => ?_
  by_cases intime : now + wait ≤ last
  · rw [if_pos intime, if_pos intime]
    refine (Twins.waitUntil _).after fun _ => hfinish.bind fun _ _ h => .pure (.some h)
  · rw [if_neg intime, if_neg intime]
    exact .cutOff last habandon

/-- **One attempt.** -/
theorem Twins.attemptOnce (due k : Nat) {xs ys : List String} (h : List.Forall₂ T.SendsAlike xs ys) :
    T.Twins T.AttemptsEnd
      (Block.attemptOnce due (fun _ left => attemptStatements xs left) k)
      (Block.attemptOnce due (fun _ left => attemptStatements ys left) k) := by
  refine Twins.now.after fun now => ?_
  obtain ⟨left, hleft⟩ : ∃ left, Duration.ofNanos (due - now * nanosPerMilli) = left := ⟨_, rfl⟩
  have hfinish : T.Twins (Ends T.error) (finishStatements left xs) (finishStatements left ys) :=
    (Twins.executeAll (.cons (.refl _) h)).bind fun _ _ hresult => .settle hresult
  rw [hleft]
  unfold attemptStatements
  rw [bind_assoc, bind_assoc]
  refine Twins.requestTransaction.after fun admission => ?_
  cases admission with
  | granted =>
    simp only [bind_assoc, pure_bind]
    exact Twins.begin.after fun _ => .conduct _ _ hfinish .rollback
  | delayed millis =>
    simp only [bind_assoc, pure_bind]
    exact Twins.begin.after fun _ => .conduct _ _ hfinish .rollback
  | refused error =>
    simp only [pure_bind]
    exact .conduct _ _ (.pure (.error (T.sameError error))) (.pure rfl)
  | unanswered =>
    simp only [pure_bind]
    exact .cutOff _ (.pure rfl)

/-! ## Blocks -/

/-- **What the log may show of two blocks:** their failed attempts, also with other errors, and the one
    query or the other, if both fail. -/
structure Reports (T : Twinning) (query query' : String) : Prop where
  attemptFailed : ∀ (label : String) (attempt allowed : Nat) (e e' : DbError), T.error e e' →
    T.act (.log (.attemptFailed label attempt allowed (.classify e)))
      (.log (.attemptFailed label attempt allowed (.classify e')))
  query : ∀ entry : LogEntry, entry.query? = some query →
    T.lost (.log entry) (.log (entry.withQuery query'))

namespace Ending

variable {operation operation' : Nat → Duration → Run (Attempt α)} {b : Block} {query' : String}

/-- **The loop takes the same course.** Induction on the attempts that are left. -/
theorem retryFrom (due : Nat) (reports : T.Reports b.query query')
    (attempts : ∀ k, T.Twins T.AttemptsEnd (Block.attemptOnce due operation k)
      (Block.attemptOnce due operation' k)) (n k : Nat) :
    T.Ending Eq (b.retryFrom due operation n k)
      ({ b with query := query' }.retryFrom due operation' n k) := by
  induction n generalizing k with
  | zero => exact .lost (reports.query _ rfl) rfl
  | succ n ih =>
    have hafter : ∀ ended ended', T.AttemptsEnd ended ended' →
        T.Ending Eq (b.afterAttempt due operation n k ended)
          ({ b with query := query' }.afterAttempt due operation' n k ended') := by
      intro ended ended' h
      cases h with
      | none => exact .lost (reports.query _ rfl) rfl
      | some h =>
        cases h with
        | ok value =>
          cases k with
          | zero => exact Twins.ending (.pure (.ok value))
          | succ k => exact Twins.ending ((Twins.log rfl).after fun _ => .pure (.ok value))
        | error herror =>
          refine .after (.report (reports.attemptFailed _ _ _ _ _ herror)) fun _ _ _ => ?_
          by_cases hlast : n = 0
          · rw [if_pos hlast, if_pos hlast]
            exact ih (k + 1)
          · -- How long the pause is depends on the number of the attempt alone, not on its error.
            rw [if_neg hlast, if_neg hlast]
            cases b.policy.delay k with
            | error fault => exact Twins.ending (.pure (.error rfl))
            | ok delay =>
              exact .after (.log rfl) fun _ _ _ => .after (.sleep delay) fun _ _ _ => ih (k + 1)
    intro s s' sessions
    -- Whether there is time for an attempt is decided by the clock, which is the same in both.
    have hclock := sessions.clock
    rcases Nat.lt_or_ge (s.clock * nanosPerMilli) due with intime | late
    · rw [Block.retryFrom_of_intime b operation n k intime,
        Block.retryFrom_of_intime _ operation' n k (hclock ▸ intime)]
      exact Ending.after (attempts k) hafter s s' sessions
    · rw [Block.retryFrom_of_late b operation n k late,
        Block.retryFrom_of_late _ operation' n k (hclock ▸ late), hclock]
      exact ⟨.error rfl, .cons ⟨rfl, .inr ⟨rfl, reports.query _ rfl⟩⟩ .nil, sessions⟩

theorem retry (reports : T.Reports b.query query')
    (attempts : ∀ due k, T.Twins T.AttemptsEnd (Block.attemptOnce due operation k)
      (Block.attemptOnce due operation' k)) :
    T.Ending Eq (b.retry operation) ({ b with query := query' }.retry operation') := by
  refine .after .now fun start _ hstart => ?_
  subst hstart
  by_cases nameable : b.policy.deadline.secs < secondsOfClock
  · rw [if_pos nameable, if_pos nameable]
    exact retryFrom _ reports (attempts _) _ _
  · rw [if_neg nameable, if_neg nameable]
    exact Twins.ending (.pure (.error rfl))

/-- **Blocks of statements that are sent alike end alike.** -/
theorem runStatements (policy : Policy) (label : String) {xs ys : List String}
    (h : List.Forall₂ T.SendsAlike xs ys)
    (reports : T.Reports (";\n".intercalate xs) (";\n".intercalate ys)) :
    T.Ending Eq (StatSchema.runStatements policy label xs)
      (StatSchema.runStatements policy label ys) := by
  unfold StatSchema.runStatements
  cases h with
  | nil => exact Twins.ending (.pure (.ok ()))
  | cons hsql hrest => exact retry reports fun due k => .attemptOnce due k (.cons hsql hrest)

end Ending

end StatSchema.Twinning
