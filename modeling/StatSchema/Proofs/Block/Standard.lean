import StatSchema.Proofs.Block.Atomicity

/-!
# `StatSchema.Proofs.Block.Standard` — a block of statements under the standard policy

The pauses between ten attempts take less than half of the deadline, and statements take no time. So
under the standard policy the deadline never matters: a block is tried ten times unless it succeeds
before, each attempt starts at a moment that is known beforehand, and each tells the server the time that
is then left. `Attempted` says this of the attempts from any number on, and `BlockTrace` is what the
server sees of one whole block.

## Contents
- **Pauses.** `pausesBefore`, `delay_standard`; `standardAttempt`, `dueStatements_standard`.
- **Attempts.** `Undone.IsAttempt`, `Attempted` and its laws, `attemptEvents`.
- **Blocks.** `BlockTrace` with its `events`, `finish` and `value`; `Course.attempted`.
- **Main result.** `runStatements_trace`.
-/

namespace StatSchema

/-! ## Pauses -/

/-- The milliseconds of all pauses before attempt `k` of a standard block, counted from zero. -/
def pausesBefore (k : Nat) : Nat := 5000 * (Nat.pow 2 k - 1)

/-- The milliseconds that a standard block may take. -/
def standardDeadline : Nat := 5400000

theorem toNanos_standard : Policy.standard.deadline.toNanos = standardDeadline * nanosPerMilli := by
  decide

/-- Before every attempt more than half of the time is left. -/
theorem pausesBefore_le {k : Nat} (hk : k < 10) : pausesBefore k ≤ 2555000 := by
  have hpow : Nat.pow 2 k ≤ 512 := Nat.pow_le_pow_right (by decide) (by omega : k ≤ 9)
  unfold pausesBefore
  omega

/-- The pause after attempt `k` is twice as long as the one before it. -/
theorem delay_standard {k : Nat} (hk : k < 10) :
    ∃ delay, Policy.standard.delay k = .ok delay ∧
      pausesBefore k + Run.pauseLength (millisUp delay.toNanos) = pausesBefore (k + 1) := by
  have hpow : Nat.pow 2 k ≤ 512 := Nat.pow_le_pow_right (by decide) (by omega : k ≤ 9)
  have hpos : 0 < Nat.pow 2 k := Nat.two_pow_pos k
  have hsucc : Nat.pow 2 (k + 1) = Nat.pow 2 k * 2 := rfl
  have hfactor : backoffFactor k = Nat.pow 2 k := if_pos (by omega)
  cases hdelay : Policy.standard.delay k with
  | error fault =>
    rw [Policy.delay, hfactor] at hdelay
    simp only [Duration.scale] at hdelay
    split at hdelay
    · cases hdelay
    · next hlong =>
      exfalso
      apply hlong
      show 5 * Nat.pow 2 k + 0 * Nat.pow 2 k / nanosPerSecond < secondsLimit
      rw [Nat.zero_mul, Nat.zero_div]
      unfold secondsLimit
      omega
  | ok delay =>
    refine ⟨delay, rfl, ?_⟩
    have hnanos : delay.toNanos = (5000 * Nat.pow 2 k) * nanosPerMilli + 0 := by
      rw [Policy.toNanos_of_delay hdelay, hfactor]
      show 5 * nanosPerSecond * Nat.pow 2 k = _
      unfold nanosPerSecond nanosPerMilli
      omega
    have hmillis : millisUp delay.toNanos = 5000 * Nat.pow 2 k := by
      rw [hnanos, millisUp_add]
      rfl
    rw [hmillis, Run.pauseLength_eq (by unfold Run.longestPause; omega)]
    unfold pausesBefore
    omega

/-- The statements of attempt `k` of a standard block. -/
def standardAttempt (k : Nat) (statements : List String) : List String :=
  setTimeout (standardDeadline - pausesBefore k) :: statements

/-- An attempt that starts after the pauses before it is told what they leave of the deadline. -/
theorem dueStatements_standard (start : Instant) {k : Nat} (hk : k < 10) (statements : List String) :
    dueStatements (start * nanosPerMilli + Policy.standard.deadline.toNanos)
      (start + pausesBefore k) statements = standardAttempt k statements := by
  have hpauses := pausesBefore_le hk
  have hleft : max ((start * nanosPerMilli + Policy.standard.deadline.toNanos -
      (start + pausesBefore k) * nanosPerMilli) / nanosPerMilli) 1 =
      standardDeadline - pausesBefore k := by
    rw [toNanos_standard, ← Nat.add_mul, ← Nat.sub_mul, Nat.mul_div_cancel _ (by decide),
      Nat.add_sub_add_left]
    apply Nat.max_eq_left
    unfold standardDeadline
    omega
  rw [dueStatements, hleft, standardAttempt]

/-! ## Attempts -/

/-- Attempt `k` at the statements of a standard block that starts at a moment. -/
def Undone.IsAttempt (u : Undone) (start : Instant) (statements : List String) (k : Nat) : Prop :=
  u.moment = start + pausesBefore k ∧
    ∃ rest, standardAttempt k statements = u.accepted ++ u.refused :: rest

/-- **The attempts of a standard block from attempt `k` on:** they follow each other, and there are ten in
    all unless one is done before. -/
structure Attempted (start : Instant) (statements : List String) (k : Nat) (undone : List Undone)
    (done : Bool) : Prop where
  refused : ∀ (i : Nat) (u : Undone), undone[i]? = some u → u.IsAttempt start statements (k + i)
  number : if done then k + undone.length < 10 else k + undone.length = 10

namespace Attempted

variable {start : Instant} {statements : List String} {k : Nat} {undone : List Undone} {done : Bool}

/-- An attempt that is done is the last. -/
protected theorem done (start : Instant) (statements : List String) (hk : k < 10) :
    Attempted start statements k [] true :=
  ⟨fun _ _ h => (by cases h), hk⟩

/-- The tenth attempt is the last. -/
protected theorem exhausted {u : Undone} (hu : u.IsAttempt start statements 9) :
    Attempted start statements 9 [u] false := by
  refine ⟨fun i v hv => ?_, rfl⟩
  obtain ⟨hi, rfl⟩ := List.getElem?_eq_some_iff.mp hv
  cases i with
  | zero => exact hu
  | succ i => exact absurd hi (by simp)

/-- After an attempt that is undone come those from the next number on. -/
protected theorem cons {u : Undone} (hu : u.IsAttempt start statements k)
    (h : Attempted start statements (k + 1) undone done) :
    Attempted start statements k (u :: undone) done := by
  refine ⟨fun i v hv => ?_, ?_⟩
  · cases i with
    | zero =>
      cases hv
      exact hu
    | succ i =>
      have hrefused := h.refused i v hv
      rwa [Nat.add_right_comm] at hrefused
  · have hnumber := h.number
    rwa [Nat.add_right_comm] at hnumber

end Attempted

/-- What the server sees of the attempts from attempt `k` on. -/
def attemptEvents (depth : Nat) (start : Instant) (statements : List String) (k : Nat)
    (undone : List Undone) (done : Bool) : List Event :=
  undone.flatMap (·.events depth) ++
    if done then doneEvents depth (start + pausesBefore (k + undone.length))
      (standardAttempt (k + undone.length) statements)
    else []

theorem attemptEvents_cons (depth : Nat) (start : Instant) (statements : List String) (k : Nat)
    (u : Undone) (undone : List Undone) (done : Bool) :
    attemptEvents depth start statements k (u :: undone) done =
      u.events depth ++ attemptEvents depth start statements (k + 1) undone done := by
  have hlength : k + (u :: undone).length = k + 1 + undone.length := by
    rw [List.length_cons]
    omega
  rw [attemptEvents, hlength, List.flatMap_cons, List.append_assoc, attemptEvents]

/-! ## Blocks -/

/-- **What the server sees of a block under the standard policy** that starts at a moment. -/
structure BlockTrace where
  label : String
  statements : List String
  start : Instant
  undone : List Undone
  /-- Whether an attempt is done after those that are undone. -/
  done : Bool
  attempted : Attempted start statements 0 undone done

namespace BlockTrace

/-- The events of the attempts. -/
def events (depth : Nat) (b : BlockTrace) : List Event :=
  attemptEvents depth b.start b.statements 0 b.undone b.done

/-- The moment at which the last attempt ends. -/
def finish (b : BlockTrace) : Instant :=
  b.start + pausesBefore (if b.done then b.undone.length else 9)

/-- What the block yields. -/
def value (b : BlockTrace) : Except SchemaError Unit :=
  if b.done then .ok () else .error (.retryExhausted b.label 10)

end BlockTrace

/-! ## Main result -/

namespace Block

/-- An attempt that starts after the pauses before it, in time: it is done, or undone at a statement that
    is refused. -/
theorem attemptOnce_standard {statements : List String} {start : Instant} {k : Nat} {s : Session}
    {a : Outcome (Option (Except DbError Unit))}
    (tried : attemptOnce (start * nanosPerMilli + Policy.standard.deadline.toNanos)
      (fun _ left => attemptStatements statements left) k s = a)
    (hk : k < 10) (granted : s.server.admissions = []) (now : s.clock = start + pausesBefore k) :
    (∃ faults, a = ⟨some (.ok ()),
        doneEvents (s.server.depth + 1) (start + pausesBefore k) (standardAttempt k statements),
        s.refault faults⟩) ∨
      ∃ (u : Undone) (error : DbError) (faults : List Fault), u.IsAttempt start statements k ∧
        a = ⟨some (.error error), u.events (s.server.depth + 1), s.refault faults⟩ := by
  have hintime : s.clock * nanosPerMilli <
      start * nanosPerMilli + Policy.standard.deadline.toNanos := by
    have hpauses := pausesBefore_le hk
    rw [now, toNanos_standard, ← Nat.add_mul]
    apply Nat.mul_lt_mul_of_pos_right _ (by decide)
    unfold standardDeadline
    omega
  have hfits : start * nanosPerMilli + Policy.standard.deadline.toNanos - s.clock * nanosPerMilli <
      secondsLimit * nanosPerSecond := by
    apply Nat.lt_of_le_of_lt _ Policy.standard.deadline.toNanos_lt
    rw [now, Nat.add_mul]
    omega
  cases attemptOnce_tried tried granted hintime hfits with
  | done faults =>
    rw [now, dueStatements_standard start hk]
    exact .inl ⟨faults, rfl⟩
  | undone u error faults hnow started =>
    obtain ⟨-, rest, hrest⟩ := started
    rw [hnow, now, dueStatements_standard start hk] at hrest
    exact .inr ⟨u, error, faults, ⟨hnow.trans now, rest, hrest⟩, rfl⟩

/-- **The course of a standard block** from attempt `k` on. Induction on the course; the invariant is that
    the clock shows the start and the pauses since. -/
theorem Course.attempted {label query : String} {statements : List String} {start : Instant}
    {n k : Nat} {s : Session} {o : Outcome (Except SchemaError Unit)}
    (h : Course ⟨.standard, label, query⟩
      (start * nanosPerMilli + Policy.standard.deadline.toNanos)
      (fun _ left => attemptStatements statements left) n k s o)
    (left : n + k = 10) (some : 0 < n) (granted : s.server.admissions = [])
    (now : s.clock = start + pausesBefore k) :
    ∃ undone done, Attempted start statements k undone done ∧
      serverEvents o.events =
        attemptEvents (s.server.depth + 1) start statements k undone done ∧
      o.value = (if done then .ok () else .error (.retryExhausted label 10)) ∧
      s.Drifts o.session ∧
      o.session.clock = start + pausesBefore (if done then k + undone.length else 9) := by
  induction h with
  | exhausted => exact absurd some (Nat.lt_irrefl 0)
  | @overdue n k s late =>
    -- All pauses together are shorter than the deadline.
    have hpauses := pausesBefore_le (show k < 10 by omega)
    rw [now, toNanos_standard, ← Nat.add_mul] at late
    have := Nat.le_of_mul_le_mul_right late (by decide)
    unfold standardDeadline at this
    omega
  | @cancelled n k s t shown intime tried =>
    -- Transactions are granted at once and statements take no time, so no attempt is cut off.
    rcases attemptOnce_standard tried (by omega) granted now with ⟨faults, h⟩ | ⟨u, e, faults, hu, h⟩
    · cases h
    · cases h
  | @succeeded n k s t shown value intime tried =>
    rcases attemptOnce_standard tried (by omega) granted now with ⟨faults, h⟩ | ⟨u, e, faults, hu, h⟩
    · cases h
      refine ⟨[], true, .done start statements (by omega), ?_, rfl, s.drifts_refault faults, now⟩
      rw [serverEvents_append, serverEvents_done]
      have hlogged : serverEvents (if k > 0 then
          [⟨(s.refault faults).clock, .log (.succeededAfter label k)⟩] else []) = [] := by
        split <;> rfl
      rw [hlogged, List.append_nil]
      rfl
    · cases h
  | @failedLast k s t shown error intime tried =>
    rcases attemptOnce_standard tried (by omega) granted now with ⟨faults, h⟩ | ⟨u, e, faults, hu, h⟩
    · cases h
    · cases h
      obtain rfl : k = 9 := by omega
      refine ⟨[u], false, .exhausted hu, ?_, rfl, s.drifts_refault faults, now⟩
      rw [serverEvents_append, serverEvents_undone, attemptEvents_cons]
      rfl
  | @overflowed n k s t shown error fault intime tried pause =>
    -- The pauses after ten attempts can all be computed.
    obtain ⟨delay, hdelay, -⟩ := delay_standard (show k < 10 by omega)
    rw [hdelay] at pause
    cases pause
  | @retried n k s t shown error delay o intime tried pause rest ih =>
    obtain ⟨delay', hdelay, hpauses⟩ := delay_standard (show k < 10 by omega)
    obtain rfl : delay' = delay := Except.ok.inj (hdelay.symm.trans pause)
    rcases attemptOnce_standard tried (by omega) granted now with ⟨faults, h⟩ | ⟨u, e, faults, hu, h⟩
    · cases h
    · cases h
      have hnow : s.clock + Run.pauseLength (millisUp delay'.toNanos) =
          start + pausesBefore (k + 1) := by
        rw [now, Nat.add_assoc, hpauses]
      obtain ⟨undone, done, hattempted, hevents, hvalue, hdrifts, hclock⟩ :=
        ih (by omega) (by omega) granted hnow
      refine ⟨u :: undone, done, hattempted.cons hu, ?_, hvalue, ?_, ?_⟩
      · rw [serverEvents_append, serverEvents_undone, attemptEvents_cons]
        exact congrArg (u.events (s.server.depth + 1) ++ ·) hevents
      · exact Session.Drifts.trans ⟨_, faults, rfl⟩ hdrifts
      · rw [hclock, List.length_cons, Nat.add_right_comm]
        rfl

end Block

/-- **A block of statements under the standard policy:** what the server sees of it is a block trace that
    starts now. -/
theorem runStatements_trace (label : String) {statements : List String} (some : statements ≠ [])
    {s : Session} (granted : s.server.admissions = []) :
    ∃ b : BlockTrace, b.label = label ∧ b.statements = statements ∧ b.start = s.clock ∧
      serverEvents (runStatements .standard label statements s).events =
        b.events (s.server.depth + 1) ∧
      (runStatements .standard label statements s).value = b.value ∧
      s.Drifts (runStatements .standard label statements s).session ∧
      (runStatements .standard label statements s).session.clock = b.finish := by
  have hcourse := Block.retry_course ⟨.standard, label, ";\n".intercalate statements⟩
    (fun _ left => attemptStatements statements left) s
    (show Policy.standard.deadline.secs < secondsOfClock by decide)
  rw [← runStatements_of_ne_nil .standard label some] at hcourse
  have hnow : s.clock = s.clock + pausesBefore 0 := rfl
  obtain ⟨undone, done, hattempted, hevents, hvalue, hdrifts, hclock⟩ :=
    hcourse.attempted rfl (show 0 < 10 by decide) granted hnow
  refine ⟨⟨label, statements, s.clock, undone, done, hattempted⟩, rfl, rfl, rfl, hevents, hvalue,
    hdrifts, ?_⟩
  rw [hclock, Nat.zero_add]
  rfl

end StatSchema
