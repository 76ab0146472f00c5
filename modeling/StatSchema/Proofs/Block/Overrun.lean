import StatSchema.Proofs.Block.Schedule

/-!
# `StatSchema.Proofs.Block.Overrun` — when a block is over

An attempt that is under way at the deadline is cut off. A pause is not: once begun it is slept to its
end, and only then does the block look at the clock. So a block is over by its deadline unless the
deadline comes during a pause; in that case it is over when the pause is, however long that takes, and
reports that it is late (`retry_finishes`).

Like the schedule of the attempts this is a statement about sums of times, those of the race that the
block runs on the ticking clock.

## Contents
- **Races.** `Race.Overruns`: a pause that runs past the cut-off; `Race.Overruns.le`,
  `Race.none_overruns`.
- **Courses.** `Race.Over`, `Course.of_late`, `Course.over`.
- **Main result.** `Race.Finishes`, `retry_finishes`.
-/

namespace StatSchema

variable {α : Type}

/-! ## Races -/

namespace Race

variable {r : Race α} {j k : Nat}

/-- The pause after attempt `k` runs past the cut-off. -/
structure Overruns (r : Race α) (k : Nat) : Prop where
  /-- The attempt is not the last, so that a pause follows. -/
  another : k + 1 < r.attempts
  starts : r.Starts k
  fails : r.Fails k
  late : r.cutoff < r.startOf (k + 1)

/-- A pause begins by the cut-off, so it runs past it by no more than its own length. -/
theorem Overruns.le (h : r.Overruns k) : r.startOf (k + 1) ≤ r.cutoff + r.pause k := by
  obtain ⟨after, error, hk, intime⟩ := h.fails
  rw [startOf, Trial.length_of_ends hk]
  exact Nat.add_le_add_right intime (r.pause k)

/-- No pause runs past the cut-off if an attempt is reached in time after which none follows: because it
    does not start, because it does not fail, or because it is the last. -/
theorem none_overruns (ontime : r.startOf k ≤ r.cutoff)
    (stops : r.Starts k → r.Fails k → ¬ k + 1 < r.attempts) : ∀ j, ¬ r.Overruns j := by
  intro j h
  rcases Nat.lt_or_ge j k with hlt | hge
  · exact Nat.not_lt_of_le (Nat.le_trans (startOf_le_startOf hlt) ontime) h.late
  · have fails : r.Fails k := by
      rcases Nat.lt_or_eq_of_le hge with hgt | rfl
      · exact h.starts.2.1 k hgt
      · exact h.fails
    have another := h.another
    exact stops (h.starts.of_le hge) fails (by omega)

/-- At most one pause runs past the cut-off: after it no attempt starts. -/
theorem Overruns.unique (ordered : r.deadline ≤ r.cutoff) (hj : r.Overruns j) (hk : r.Overruns k) :
    j = k := by
  have last {i i' : Nat} (h : r.Overruns i) (h' : r.Overruns i') : i' ≤ i := by
    apply Nat.le_of_not_lt
    intro hlt
    have started : r.startOf (i + 1) ≤ r.startOf i' := startOf_le_startOf hlt
    have hlate := h.late
    have hstarts := h'.starts.2.2
    omega
  exact Nat.le_antisymm (last hk hj) (last hj hk)

theorem deadline_le_cutoff (p : Policy) (script : Nat → Trial α) :
    (ticking p script).deadline ≤ (ticking p script).cutoff :=
  le_millisUp p.deadline.toNanos

/-! ## Courses -/

/-- **When a race is over**, in nanoseconds since its start, and with which result: by the cut-off, if no
    pause runs past it; otherwise at the end of the pause that does, and late. -/
def Over (r : Race α) (label : String) (limit : Duration) (moment : Nat)
    (result : Except SchemaError α) : Prop :=
  (moment ≤ r.cutoff ∧ ∀ k, ¬ r.Overruns k) ∨
    ∃ k, r.Overruns k ∧ moment = r.startOf (k + 1) ∧
      result = .error (.deadlineExceeded label limit)

end Race

namespace Block

open Race

/-- From the deadline on a block takes no other course than to give up. -/
theorem Course.of_late {b : Block} {due n k : Nat} {operation : Nat → Duration → Run (Attempt α)}
    {s : Session} {o : Outcome (Except SchemaError α)} (h : Course b due operation (n + 1) k s o)
    (late : due ≤ s.clock * nanosPerMilli) : o.value = .error b.late ∧ o.session = s := by
  cases h with
  | overdue => exact ⟨rfl, rfl⟩
  | cancelled intime | succeeded intime | failedLast intime | overflowed intime | retried intime =>
    exact absurd intime (Nat.not_lt_of_le late)

section Ticking

variable {p : Policy} {script : Nat → Trial α} {start : Instant} {k : Nat} {s t : Session}
  {shown : List Event}

/-- The moment of a session, as the race counts it. -/
def MomentOf (start : Instant) (s : Session) (moment : Nat) : Prop :=
  s.clock * nanosPerMilli = start * nanosPerMilli + moment

/-- An attempt that ended did so after its own time. -/
theorem Reaches.ended (h : Reaches (ticking p script) start k s) (after : Nat) :
    MomentOf start { s with clock := s.clock + after }
      ((ticking p script).startOf k + after * nanosPerMilli) := by
  unfold MomentOf
  rw [Nat.add_mul, h.clock, Nat.add_assoc]

/-- An attempt that is cut off ends at the cut-off. -/
theorem momentOf_cutOff
    (tried : attemptOnce (start * nanosPerMilli + p.deadline.toNanos) (scripted script) k s =
      ⟨none, shown, t⟩) : MomentOf start t (ticking p script).cutoff := by
  rw [attemptOnce_of_cutOff (cutOff_of_attemptOnce tried).1] at tried
  cases tried
  show millisUp _ * nanosPerMilli = _
  rw [millisUp_add, Nat.add_mul]
  rfl

end Ticking

/-- **When a course of a scripted block is over.** Induction on the course; the invariant is that the
    attempts so far were reached in time. -/
theorem Course.over {b : Block} {script : Nat → Trial α} {start : Instant} {n k : Nat} {s : Session}
    {o : Outcome (Except SchemaError α)}
    (h : Course b (start * nanosPerMilli + b.policy.deadline.toNanos) (scripted script) n k s o)
    (fits : ∀ k, k + 1 < b.policy.maxAttempts → (ticking b.policy script).Starts k →
      (ticking b.policy script).Fails k → ∃ delay, b.policy.delay k = .ok delay)
    (allowed : n + k = b.policy.maxAttempts) (reached : Reaches (ticking b.policy script) start k s)
    (ontime : (ticking b.policy script).startOf k ≤ (ticking b.policy script).cutoff) :
    ∃ moment, MomentOf start o.session moment ∧
      (ticking b.policy script).Over b.label b.policy.deadline moment o.value := by
  induction h with
  | @exhausted k s =>
    refine ⟨_, reached.clock, .inl ⟨ontime, none_overruns ontime fun starts _ => ?_⟩⟩
    have hlimit : k < b.policy.maxAttempts := starts.1
    omega
  | @overdue n k s late =>
    refine ⟨_, reached.clock, .inl ⟨ontime, none_overruns ontime fun starts _ => ?_⟩⟩
    rw [reached.clock] at late
    exact absurd starts.2.2 (Nat.not_lt_of_le (Nat.le_of_add_le_add_left late))
  | @cancelled n k s t shown intime tried =>
    refine ⟨_, momentOf_cutOff tried, .inl ⟨Nat.le_refl _, none_overruns ontime fun _ fails => ?_⟩⟩
    obtain ⟨after, error, hk, hin⟩ := fails
    obtain ⟨late, -⟩ := cutOff_of_attemptOnce tried
    exact absurd (late after _ hk) (Nat.not_lt_of_le ((reached.intime_iff after).mpr hin))
  | @succeeded n k s t shown value intime tried =>
    obtain ⟨after, hk, hin, rfl, rfl⟩ := ends_of_attemptOnce tried
    have hended := (reached.intime_iff after).mp hin
    refine ⟨_, reached.ended after, .inl ⟨hended, none_overruns ontime fun _ fails => ?_⟩⟩
    exact absurd ⟨after, hk, hended⟩ (fails.not_succeeds value)
  | @failedLast k s t shown error intime tried =>
    obtain ⟨after, hk, hin, rfl, rfl⟩ := ends_of_attemptOnce tried
    have hended := (reached.intime_iff after).mp hin
    refine ⟨_, reached.ended after, .inl ⟨hended, none_overruns ontime fun _ _ => ?_⟩⟩
    show ¬ k + 1 < b.policy.maxAttempts
    omega
  | @overflowed n k s t shown error fault intime tried pause =>
    have starts := reached.starts (by omega) intime
    obtain ⟨after, hk, hin, rfl, rfl⟩ := ends_of_attemptOnce tried
    obtain ⟨delay, hdelay⟩ :=
      fits k (by omega) starts ⟨after, error, hk, (reached.intime_iff after).mp hin⟩
    rw [pause] at hdelay
    cases hdelay
  | @retried n k s t shown error delay o intime tried pause rest ih =>
    have starts := reached.starts (by omega) intime
    obtain ⟨after, hk, hin, rfl, rfl⟩ := ends_of_attemptOnce tried
    have hnext := reached.next starts hk hin pause
    by_cases ontime' : (ticking b.policy script).startOf (k + 1) ≤ (ticking b.policy script).cutoff
    · exact ih (by omega) hnext ontime'
    · -- The pause has run past the cut-off, so the block gives up as soon as it is over.
      have fails : (ticking b.policy script).Fails k :=
        ⟨after, error, hk, (reached.intime_iff after).mp hin⟩
      have overruns : (ticking b.policy script).Overruns k :=
        ⟨show k + 1 < b.policy.maxAttempts by omega, starts, fails, Nat.lt_of_not_le ontime'⟩
      have late : start * nanosPerMilli + b.policy.deadline.toNanos ≤
          (s.clock + after + Run.pauseLength (millisUp delay.toNanos)) * nanosPerMilli :=
        calc start * nanosPerMilli + b.policy.deadline.toNanos
          _ ≤ start * nanosPerMilli + (ticking b.policy script).cutoff :=
            Nat.add_le_add_left (deadline_le_cutoff b.policy script) _
          _ ≤ start * nanosPerMilli + (ticking b.policy script).startOf (k + 1) :=
            Nat.add_le_add_left (Nat.le_of_not_le ontime') _
          _ = _ := hnext.clock.symm
      obtain ⟨hvalue, hsession⟩ := rest.of_late late
      refine ⟨_, ?_, .inr ⟨k, overruns, rfl, hvalue⟩⟩
      rw [hsession]
      exact hnext.clock

end Block

/-! ## Main result -/

/-- **A run finishes a race** that begins at a moment `start`: it is over by the cut-off exactly if no
    pause runs past it, and otherwise at the end of that pause. -/
structure Race.Finishes (r : Race α) (label : String) (limit : Duration) (start : Instant)
    (o : Outcome (Except SchemaError α)) : Prop where
  /-- The run is over by the cut-off exactly if no pause runs past it. -/
  intime : o.session.clock * nanosPerMilli ≤ start * nanosPerMilli + r.cutoff ↔ ∀ k, ¬ r.Overruns k
  /-- If one does, the run is over when that pause is, at most the pause late, and reports that it is. -/
  overrun : ∀ k, r.Overruns k →
    o.session.clock * nanosPerMilli = start * nanosPerMilli + r.startOf (k + 1) ∧
      r.startOf (k + 1) ≤ r.cutoff + r.pause k ∧
      o.value = .error (.deadlineExceeded label limit)

namespace Block

open Race

/-- **A block is over by its deadline**, at the first tick of the clock from then on, **unless the deadline
    comes during a pause**, which is slept to its end. -/
theorem retry_finishes (b : Block) (script : Nat → Trial α) (s : Session)
    (nameable : b.policy.deadline.secs < secondsOfClock)
    (fits : ∀ k, k + 1 < b.policy.maxAttempts → (ticking b.policy script).Starts k →
      (ticking b.policy script).Fails k → ∃ delay, b.policy.delay k = .ok delay) :
    (ticking b.policy script).Finishes b.label b.policy.deadline s.clock
      (b.retry (scripted script) s) := by
  have reached : Reaches (ticking b.policy script) s.clock 0 s :=
    ⟨by rw [startOf, Nat.add_zero], fun j hj => absurd hj (Nat.not_lt_zero j)⟩
  obtain ⟨moment, hmoment, hover⟩ :=
    (retry_course b (scripted script) s nameable).over fits (Nat.add_zero _) reached (Nat.zero_le _)
  unfold MomentOf at hmoment
  rcases hover with ⟨within, none⟩ | ⟨k, overruns, rfl, hvalue⟩
  · refine ⟨⟨fun _ => none, fun _ => ?_⟩, fun k hk => absurd hk (none k)⟩
    rw [hmoment]
    exact Nat.add_le_add_left within _
  · refine ⟨⟨fun hle => ?_, fun none => absurd overruns (none k)⟩, fun j hj => ?_⟩
    · rw [hmoment] at hle
      exact absurd overruns.late (Nat.not_lt_of_le (Nat.le_of_add_le_add_left hle))
    · obtain rfl := hj.unique (deadline_le_cutoff b.policy script) overruns
      exact ⟨hmoment, hj.le, hvalue⟩

/-- Every attempt fails at once. -/
def failing : Nat → Trial Nat := fun _ => .ends 0 (.error (.custom "deadlock detected"))

/-- Ten attempts within a minute, with five seconds after the first. -/
def withinMinute : Block :=
  ⟨⟨10, .ofSeconds 5, .ofSeconds 60⟩, "block", "SELECT 1"⟩

/-- The pause of forty seconds after the fourth attempt begins at 35 seconds, and a block that has a minute
    is over after 75 seconds. -/
theorem retry_finishes_withinMinute :
    withinMinute.policy.deadline.secs < secondsOfClock ∧
      (∀ k, k + 1 < withinMinute.policy.maxAttempts →
        (ticking withinMinute.policy failing).Starts k → (ticking withinMinute.policy failing).Fails k →
        ∃ delay, withinMinute.policy.delay k = .ok delay) ∧
      (ticking withinMinute.policy failing).Overruns 3 ∧
      (withinMinute.retry (scripted failing) {}).session.clock = 75000 ∧
      (withinMinute.retry (scripted failing) {}).value =
        .error (.deadlineExceeded "block" (.ofSeconds 60)) := by
  have nameable : withinMinute.policy.deadline.secs < secondsOfClock := by decide
  have computed : ∀ k < 10, (withinMinute.policy.delay k).isOk = true := by decide
  have fits : ∀ k, k + 1 < withinMinute.policy.maxAttempts →
      (ticking withinMinute.policy failing).Starts k → (ticking withinMinute.policy failing).Fails k →
      ∃ delay, withinMinute.policy.delay k = .ok delay := by
    intro k hk _ _
    have hok := computed k (Nat.lt_of_succ_lt hk)
    cases hdelay : withinMinute.policy.delay k with
    | error fault =>
      rw [hdelay] at hok
      cases hok
    | ok delay => exact ⟨delay, rfl⟩
  have fails : ∀ k ≤ 3, (ticking withinMinute.policy failing).Fails k := by
    intro k hk
    have hstart : (ticking withinMinute.policy failing).startOf k ≤
        (ticking withinMinute.policy failing).startOf 3 := startOf_le_startOf hk
    exact ⟨0, .custom "deadlock detected", rfl, Nat.le_trans hstart (by decide)⟩
  have overruns : (ticking withinMinute.policy failing).Overruns 3 :=
    ⟨by decide, ⟨by decide, fun j hj => fails j (Nat.le_of_lt hj), by decide⟩, fails 3 (Nat.le_refl 3),
      by decide⟩
  obtain ⟨hclock, -, hvalue⟩ := (retry_finishes withinMinute failing {} nameable fits).overrun 3 overruns
  have hstart : (ticking withinMinute.policy failing).startOf 4 = 75000 * nanosPerMilli := by decide
  refine ⟨nameable, fits, overruns, ?_, hvalue⟩
  rw [hstart, ← Nat.add_mul] at hclock
  exact Nat.eq_of_mul_eq_mul_right (by decide) hclock

end Block

end StatSchema
