import StatSchema.Block.Statements
import StatSchema.Proofs.Block.Course
import StatSchema.Proofs.Server.Nesting

/-!
# `StatSchema.Proofs.Block.Nesting` — a block closes what it opens

The transaction of an attempt is committed, rolled back, or rolled back because the attempt is cut off;
it is never left open. So a block closes every transaction that it opens, however often it is tried and
whatever the server answers to its requests.

## Contents
- **Attempts.** `closing_conduct`, `closing_begin_conduct`, `closing_attemptOnce`.
- **Blocks.** `Course.closes`, `closing_retry`, `closing_runStatements`.
-/

namespace StatSchema

/-! ## Attempts -/

section Attempts

variable {α : Type}

theorem closing_cutOff {abandon : Run Unit} (closing : abandon.Closing) (last : Instant) :
    Run.Closing (Attempt.cutOff last abandon : Run (Option (Except DbError α))) :=
  (Run.closing_waitUntil last).bind fun _ => closing.bind fun _ => Run.closing_pure none

/-- An attempt without a transaction of its own. -/
theorem closing_conduct {finish : Run (Except DbError α)} {abandon : Run Unit}
    (finishes : finish.Closing) (abandons : abandon.Closing) (wait : Nat) (last : Instant) :
    (Attempt.conduct last (.ends wait finish abandon)).Closing := by
  intro s
  by_cases intime : s.clock + wait ≤ last
  · rw [Block.conduct_of_intime finish abandon intime]
    exact ((Run.closing_waitUntil _).bind fun _ => finishes.bind fun _ => Run.closing_pure _) s
  · rw [Block.conduct_of_late finish abandon intime]
    exact closing_cutOff abandons last s

/-- **The transaction of an attempt is closed** when the attempt ends and also when it is cut off. -/
theorem closing_begin_conduct {work : Run (Except DbError α)} (closing : work.Closing) (wait : Nat)
    (last : Instant) :
    Run.Closing (do
      Run.begin
      (Attempt.ends wait (do Run.settle (← work)) Run.rollback).conduct last) := by
  intro s
  rw [Run.bind_of (Run.begin_apply s)]
  by_cases intime : s.clock + wait ≤ last
  · rw [Block.conduct_of_intime (s := { s with server := s.server.begin }) _ _ intime]
    -- The attempt waits within its transaction.
    have hwork := ((Run.closing_waitUntil (s.clock + wait)).bind fun _ => closing).transaction
    exact hwork.map some s
  · rw [Block.conduct_of_late (s := { s with server := s.server.begin }) _ _ intime]
    -- Cut off, it has done nothing in its transaction.
    have hcut : Closes { s with server := s.server.begin } []
        { clock := last, server := s.server.begin } := .idle rfl
    exact (Restores.rolledBack hcut).closes

/-- **An attempt at a block of statements closes what it opens,** whatever the server answers. -/
theorem closing_attemptOnce (due : Nat) (statements : List String) (k : Nat) :
    (Block.attemptOnce due (fun _ left => attemptStatements statements left) k).Closing := by
  have hnow : Run.Closing Run.now := fun _ => .idle rfl
  have hrequest : Run.Closing Run.requestTransaction := by
    refine Run.closing_onServer fun server => ?_
    unfold Server.nextAdmission
    split <;> rfl
  refine hnow.bind fun now => ?_
  obtain ⟨left, hleft⟩ : ∃ left, Duration.ofNanos (due - now * nanosPerMilli) = left := ⟨_, rfl⟩
  have hwork := Run.closing_executeAll (timeoutStatement left :: statements)
  rw [hleft]
  unfold attemptStatements
  rw [bind_assoc]
  refine hrequest.bind fun admission => ?_
  -- Only an attempt that is granted a transaction has one to close.
  cases admission with
  | granted =>
    simp only [bind_assoc, pure_bind]
    exact closing_begin_conduct hwork 0 (millisUp due)
  | delayed millis =>
    simp only [bind_assoc, pure_bind]
    exact closing_begin_conduct hwork (Run.pauseLength millis) (millisUp due)
  | refused error =>
    rw [pure_bind]
    exact closing_conduct (Run.closing_pure _) (Run.closing_pure _) 0 (millisUp due)
  | unanswered =>
    rw [pure_bind]
    exact closing_cutOff (Run.closing_pure _) (millisUp due)

end Attempts

/-! ## Blocks -/

namespace Block

variable {α : Type} {b : Block} {due : Nat} {operation : Nat → Duration → Run (Attempt α)}

/-- **A block whose attempts close what they open does so itself.** Induction on the course. -/
theorem Course.closes {n k : Nat} {s : Session} {o : Outcome (Except SchemaError α)}
    (h : Course b due operation n k s o) (closing : ∀ k, (attemptOnce due operation k).Closing) :
    Closes s o.events o.session := by
  have hattempt {k : Nat} {s t : Session} {ended : Option (Except DbError α)} {shown : List Event}
      (tried : attemptOnce due operation k s = ⟨ended, shown, t⟩) : Closes s shown t := by
    have hcloses := closing k s
    rw [tried] at hcloses
    exact hcloses
  induction h with
  | exhausted => exact .plain rfl
  | overdue late => exact .plain rfl
  | cancelled intime tried => exact (hattempt tried).append (.plain rfl)
  | @succeeded n k s t shown value intime tried =>
    refine (hattempt tried).append ?_
    split
    · exact .plain rfl
    · exact .idle rfl
  | failedLast intime tried =>
    exact (hattempt tried).append ((Closes.plain rfl).append (.plain rfl))
  | overflowed intime tried pause => exact (hattempt tried).append (.plain rfl)
  | @retried n k s t shown error delay o intime tried pause rest ih =>
    -- The pause before the next attempt only moves the clock.
    have hpause : Closes t [] { t with clock := t.clock + Run.pauseLength (millisUp delay.toNanos) } :=
      .idle rfl
    exact (hattempt tried).append ((Closes.plain rfl).append ((Closes.plain rfl).append
      (hpause.append ih)))

theorem closing_retry (b : Block) (closing : ∀ due k, (attemptOnce due operation k).Closing) :
    (b.retry operation).Closing := by
  intro s
  by_cases nameable : b.policy.deadline.secs < secondsOfClock
  · exact (retry_course b operation s nameable).closes (closing _)
  · rw [retry_of_unnameable b operation s nameable]
    exact .idle rfl

end Block

theorem closing_runStatements (policy : Policy) (label : String) (statements : List String) :
    (runStatements policy label statements).Closing := by
  unfold runStatements
  split
  · exact Run.closing_pure _
  · exact Block.closing_retry _ fun due k => closing_attemptOnce due statements k

end StatSchema
