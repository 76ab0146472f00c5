import StatSchema.Proofs.Block.Overrun

/-!
# `StatSchema.Proofs.Block.Account` — the log accounts for every attempt

What the attempts before the last one failed with is told by the log alone. For each attempt that failed
in time it has a warning, with the number of the attempt and its error, and then the pause that follows;
at the end it says after how many retries the block succeeded, or shows the query of a block that failed.
Nothing else is in it (`retry_accounts`).

In time means by the last tick of the clock, and a pause lasts as the clock lets it. With the times of the
policy itself the statement is false: an attempt that fails after two milliseconds is warned of though the
deadline of 1.5 has passed (`exact_not_accounted`).

## Contents
- **Failures.** `Race.FailsWith`, `Race.Failures`: the errors of the attempts that failed in time.
- **Reports.** `timed`, `entriesAt`; `Block.report` and `Block.reports` of failed attempts, `Block.Concludes`
  of the end. Their entries, and what follows each warning: `Block.entriesAt_reports`,
  `Block.reports_followed`.
- **Courses.** `Course.reports`.
- **Main result.** `Race.Accounts`, `retry_accounts`; `exact_not_accounted`.
-/

namespace StatSchema

variable {α : Type}

/-! ## Failures -/

namespace Race

variable {r : Race α} {j k : Nat} {error error' : DbError} {errors : List DbError}

/-- Attempt `k` fails in time with an error. -/
def FailsWith (r : Race α) (k : Nat) (error : DbError) : Prop :=
  ∃ after, r.script k = .ends after (.error error) ∧ r.startOf k + after * nanosPerMilli ≤ r.cutoff

theorem fails_iff : r.Fails k ↔ ∃ error, r.FailsWith k error :=
  exists_comm

theorem FailsWith.fails (h : r.FailsWith k error) : r.Fails k :=
  fails_iff.mpr ⟨error, h⟩

theorem FailsWith.unique (h : r.FailsWith k error) (h' : r.FailsWith k error') : error = error' := by
  obtain ⟨after, hk, -⟩ := h
  obtain ⟨after', hk', -⟩ := h'
  rw [hk] at hk'
  cases hk'
  rfl

/-- From attempt `k` on, these are the errors of the attempts that fail in time, in order. -/
def Failures (r : Race α) (k : Nat) (errors : List DbError) : Prop :=
  ∀ j error, errors[j]? = some error ↔ r.Starts (k + j) ∧ r.FailsWith (k + j) error

/-- There are no failures after an attempt that does not start or does not fail. -/
theorem failures_nil (stops : r.Starts k → ¬ r.Fails k) : r.Failures k [] := by
  intro j error
  simp only [List.getElem?_nil, reduceCtorEq, false_iff]
  rintro ⟨starts, failed⟩
  refine stops (starts.of_le (Nat.le_add_right k j)) ?_
  cases j with
  | zero => exact failed.fails
  | succ j => exact starts.2.1 k (Nat.lt_add_of_pos_right (Nat.succ_pos j))

theorem failures_cons (starts : r.Starts k) (failed : r.FailsWith k error)
    (h : r.Failures (k + 1) errors) : r.Failures k (error :: errors) := by
  intro j error'
  cases j with
  | zero =>
    rw [List.getElem?_cons_zero, Option.some.injEq]
    constructor
    · rintro rfl
      exact ⟨starts, failed⟩
    · rintro ⟨-, failed'⟩
      exact failed.unique failed'
  | succ j =>
    have hnext : k + (j + 1) = k + 1 + j := by omega
    rw [List.getElem?_cons_succ, hnext]
    exact h j error'

/-- There are as many errors as attempts that fail in time. -/
theorem Failures.lt_iff (h : r.Failures k errors) (j : Nat) :
    j < errors.length ↔ r.Starts (k + j) ∧ r.Fails (k + j) := by
  rw [fails_iff]
  constructor
  · intro hj
    obtain ⟨starts, failed⟩ := (h j errors[j]).mp (List.getElem?_eq_getElem hj)
    exact ⟨starts, _, failed⟩
  · rintro ⟨starts, error, failed⟩
    obtain ⟨hj, -⟩ := List.getElem?_eq_some_iff.mp ((h j error).mpr ⟨starts, failed⟩)
    exact hj

/-- When attempt `k` ends if it does. -/
def endOf (r : Race α) (k : Nat) : Nat :=
  r.startOf k + (r.script k).length * nanosPerMilli

end Race

/-! ## Reports -/

/-- What a run shows, each act with its moment in nanoseconds. -/
def timed (events : List Event) : List (Nat × Act) :=
  events.map fun e => (e.time * nanosPerMilli, e.act)

/-- The entries of the log among what is shown. -/
def logOf (acts : List (Nat × Act)) : List LogEntry :=
  acts.filterMap fun a =>
    match a.2 with
    | .log entry => some entry
    | _ => none

/-- The entries of a level. -/
def entriesAt (level : Level) (acts : List (Nat × Act)) : List LogEntry :=
  (logOf acts).filter (·.level = level)

@[simp] theorem timed_nil : timed [] = [] := rfl

@[simp] theorem timed_cons (e : Event) (es : List Event) :
    timed (e :: es) = (e.time * nanosPerMilli, e.act) :: timed es := rfl

@[simp] theorem timed_append (es fs : List Event) : timed (es ++ fs) = timed es ++ timed fs :=
  List.map_append

@[simp] theorem logOf_append (as bs : List (Nat × Act)) : logOf (as ++ bs) = logOf as ++ logOf bs :=
  List.filterMap_append

@[simp] theorem entriesAt_append (level : Level) (as bs : List (Nat × Act)) :
    entriesAt level (as ++ bs) = entriesAt level as ++ entriesAt level bs := by
  unfold entriesAt
  rw [logOf_append, List.filter_append]

namespace Block

section Reports

variable (b : Block) (r : Race α) (start : Instant)

/-- The start of attempt `k`, with the time left. -/
def opening (k : Nat) : List (Nat × Act) :=
  [(start * nanosPerMilli + r.startOf k, .attempted (k + 1) (.ofNanos (r.deadline - r.startOf k)))]

/-- The warning that attempt `k` failed: its number among those allowed, and its error as the log sorts
    it. -/
def warning (k : Nat) (error : DbError) : LogEntry :=
  .attemptFailed b.label (k + 1) b.policy.maxAttempts (.classify error)

/-- The announcement of the pause after attempt `k`, unless that is the last one allowed. -/
def announcement (k : Nat) : List LogEntry :=
  if k + 1 < b.policy.maxAttempts then
    match b.policy.delay k with
    | .ok pause => [.retrying b.label pause]
    | .error _ => []
  else []

/-- What is shown of attempt `k`, which failed. -/
def report (k : Nat) (error : DbError) : List (Nat × Act) :=
  opening r start k ++ (b.warning k error :: b.announcement k).map fun entry =>
    (start * nanosPerMilli + r.endOf k, .log entry)

/-- What is shown of the attempts from `k` on, which failed with these errors. -/
def reports : (k : Nat) → List DbError → List (Nat × Act)
  | _, [] => []
  | k, error :: errors => b.report r start k error ++ reports (k + 1) errors

/-- **What is shown after `m` failed attempts** by a block that ends without another failure. -/
inductive Concludes (m : Nat) : Except SchemaError α → List (Nat × Act) → Prop where
  | succeeded (allowed : m < b.policy.maxAttempts) (value : α) :
      Concludes m (.ok value) (opening r start m ++
        if m > 0 then [(start * nanosPerMilli + r.endOf m, .log (.succeededAfter b.label m))] else [])
  | exhausted (all : m = b.policy.maxAttempts) (moment : Nat) :
      Concludes m (.error (.retryExhausted b.label b.policy.maxAttempts))
        [(moment, .log (.exhausted b.label b.policy.maxAttempts b.query))]
  /-- The pause after the last failure is slept to its end, and then the block is late. -/
  | overdue (allowed : m < b.policy.maxAttempts) :
      Concludes m (.error b.late)
        [(start * nanosPerMilli + r.startOf m, .log (.overdue b.label b.policy.deadline b.query))]
  | cancelled (allowed : m < b.policy.maxAttempts) :
      Concludes m (.error b.late) (opening r start m ++
        [(start * nanosPerMilli + r.cutoff,
          .log (.cancelled b.label b.policy.deadline (m + 1) b.policy.maxAttempts b.query))])

end Reports

variable {b : Block} {r : Race α} {start : Instant} {k m : Nat} {errors : List DbError}
  {ending : List (Nat × Act)}

@[simp] theorem reports_nil : b.reports r start k [] = [] := rfl

@[simp] theorem reports_cons (error : DbError) :
    b.reports r start k (error :: errors) =
      b.report r start k error ++ b.reports r start (k + 1) errors := rfl

theorem logOf_log (moment : Nat) (entries : List LogEntry) :
    logOf (entries.map fun entry => (moment, .log entry)) = entries := by
  unfold logOf
  rw [List.filterMap_map]
  exact List.filterMap_some

theorem logOf_report (b : Block) (r : Race α) (start : Instant) (k : Nat) (error : DbError) :
    logOf (b.report r start k error) = b.warning k error :: b.announcement k := by
  unfold report
  rw [logOf_append, logOf_log]
  rfl

theorem level_announcement {entry : LogEntry} (h : entry ∈ b.announcement k) : entry.level = .info := by
  unfold announcement at h
  by_cases another : k + 1 < b.policy.maxAttempts
  · rw [if_pos another] at h
    cases hpause : b.policy.delay k with
    | ok pause =>
      rw [hpause] at h
      obtain rfl := List.mem_singleton.mp h
      rfl
    | error fault =>
      rw [hpause] at h
      cases h
  · rw [if_neg another] at h
    cases h

/-- Among what is shown of a failed attempt only its warning is more than information. -/
theorem entriesAt_report (b : Block) (r : Race α) (start : Instant) (k : Nat) (error : DbError)
    {level : Level} (serious : level ≠ .info) :
    entriesAt level (b.report r start k error) =
      if level = .warning then [b.warning k error] else [] := by
  have hannouncement : (b.announcement k).filter (·.level = level) = [] := by
    rw [List.filter_eq_nil_iff]
    intro entry hentry
    rw [level_announcement hentry, decide_eq_true_eq]
    exact serious.symm
  unfold entriesAt
  rw [logOf_report, List.filter_cons, hannouncement]
  cases level with
  | info => exact absurd rfl serious
  | warning => rfl
  | error => rfl

/-- **There is one warning for each failed attempt**, in order, and nothing more serious. -/
theorem entriesAt_reports (b : Block) (r : Race α) (start : Instant) (k : Nat) (errors : List DbError)
    {level : Level} (serious : level ≠ .info) :
    entriesAt level (b.reports r start k errors) =
      if level = .warning then errors.mapIdx fun j error => b.warning (k + j) error else [] := by
  induction errors generalizing k with
  | nil => cases level <;> rfl
  | cons error errors ih =>
    rw [reports_cons, entriesAt_append, entriesAt_report b r start k error serious, ih]
    by_cases hlevel : level = .warning
    · rw [if_pos hlevel, if_pos hlevel, if_pos hlevel, List.mapIdx_cons, List.singleton_append]
      simp only [Nat.add_zero, Nat.add_assoc, Nat.add_comm 1]
    · rw [if_neg hlevel, if_neg hlevel, if_neg hlevel, List.append_nil]

/-- The end of a block is no warning. -/
theorem Concludes.no_warning {value : Except SchemaError α} (h : b.Concludes r start m value ending) :
    entriesAt .warning ending = [] := by
  cases h with
  | succeeded => split <;> rfl
  | exhausted | overdue | cancelled => rfl

/-- A block that succeeds ends without an error, and tells of its retries if there were any. -/
theorem Concludes.of_ok {value : α} (h : b.Concludes r start m (.ok value) ending) :
    entriesAt .error ending = [] ∧
      logOf ending = if m > 0 then [.succeededAfter b.label m] else [] := by
  cases h with
  | succeeded =>
    by_cases retried : m > 0
    · rw [if_pos retried, if_pos retried]
      exact ⟨rfl, rfl⟩
    · rw [if_neg retried, if_neg retried]
      exact ⟨rfl, rfl⟩

/-- A block that fails ends with one error, which shows its query. -/
theorem Concludes.of_error {error : SchemaError} (h : b.Concludes r start m (.error error) ending) :
    ∃ earlier moment entry, ending = earlier ++ [(moment, .log entry)] ∧
      entriesAt .error ending = [entry] ∧ ∃ heading, entry.message = heading ++ b.query := by
  cases h with
  | exhausted all moment => exact ⟨[], moment, _, rfl, rfl, _, rfl⟩
  | overdue => exact ⟨[], _, _, rfl, rfl, _, rfl⟩
  | cancelled => exact ⟨opening r start m, _, _, rfl, rfl, _, rfl⟩

/-- **What follows the warning that attempt `k` failed:** if another attempt is allowed, directly the
    announcement of the pause, and then nothing until it has been slept; otherwise only the error that the
    attempts are exhausted. -/
def Followed (b : Block) (r : Race α) (start : Instant) (k : Nat) (next : List (Nat × Act)) : Prop :=
  if k + 1 < b.policy.maxAttempts then
    ∃ delay act later, b.policy.delay k = .ok delay ∧
      next = (start * nanosPerMilli + r.endOf k, .log (.retrying b.label delay)) ::
        (start * nanosPerMilli + r.endOf k + r.pause k, act) :: later
  else ∃ moment, next = [(moment, .log (.exhausted b.label b.policy.maxAttempts b.query))]

/-- Before the attempts are exhausted, the next act comes when the next attempt would start. -/
theorem Concludes.first {value : Except SchemaError α} (h : b.Concludes r start m value ending)
    (another : m < b.policy.maxAttempts) :
    ∃ act later, ending = (start * nanosPerMilli + r.startOf m, act) :: later := by
  cases h with
  | succeeded | overdue | cancelled => exact ⟨_, _, rfl⟩
  | exhausted all => exact absurd all (Nat.ne_of_lt another)

/-- There are no more failures than attempts, and after as many nothing is shown but that. -/
theorem Concludes.last {value : Except SchemaError α} (h : b.Concludes r start m value ending)
    (all : b.policy.maxAttempts ≤ m) : m = b.policy.maxAttempts ∧
      ∃ moment, ending = [(moment, .log (.exhausted b.label b.policy.maxAttempts b.query))] := by
  cases h with
  | succeeded allowed | overdue allowed | cancelled allowed =>
    exact absurd allowed (Nat.not_lt_of_le all)
  | exhausted all moment => exact ⟨all, moment, rfl⟩

/-- The reports of further failures, or the end, begin when the next attempt would start. -/
theorem reports_first {value : Except SchemaError α}
    (h : b.Concludes r start (k + errors.length) value ending) (another : k < b.policy.maxAttempts) :
    ∃ act later, b.reports r start k errors ++ ending =
      (start * nanosPerMilli + r.startOf k, act) :: later := by
  cases errors with
  | nil => exact h.first another
  | cons error errors => exact ⟨_, _, rfl⟩

/-- What follows the first warning: the announcement of its pause, then the reports of the other failures
    and the end. -/
theorem announcement_followed {value : Except SchemaError α}
    (h : b.Concludes r start (k + 1 + errors.length) value ending)
    (pause : k + 1 < b.policy.maxAttempts → ∃ delay, b.policy.delay k = .ok delay) :
    b.Followed r start k
      ((b.announcement k).map (fun entry => (start * nanosPerMilli + r.endOf k, .log entry)) ++
        (b.reports r start (k + 1) errors ++ ending)) := by
  unfold Followed announcement
  by_cases another : k + 1 < b.policy.maxAttempts
  · obtain ⟨delay, hdelay⟩ := pause another
    obtain ⟨act, later, hnext⟩ := reports_first h another
    rw [if_pos another, if_pos another, hdelay, hnext]
    refine ⟨delay, act, later, rfl, ?_⟩
    rw [Nat.add_assoc]
    rfl
  · -- The failure was that of the last attempt, so there are no others.
    obtain ⟨hlimit, moment, rfl⟩ := h.last (Nat.le_add_right_of_le (Nat.le_of_not_lt another))
    have none : errors = [] := List.eq_nil_of_length_eq_zero (by omega)
    rw [if_neg another, if_neg another, none]
    exact ⟨moment, rfl⟩

/-- **Every warning is followed as it should be.** Induction on the failures, with the number of the first
    one: the warning is that of the first, or it is in the reports of the others. -/
theorem reports_followed {value : Except SchemaError α}
    (h : b.Concludes r start (k + errors.length) value ending)
    (pauses : ∀ i < errors.length, k + i + 1 < b.policy.maxAttempts →
      ∃ delay, b.policy.delay (k + i) = .ok delay)
    {i : Nat} {error : DbError} (hi : errors[i]? = some error) :
    ∃ earlier next, b.reports r start k errors ++ ending =
        earlier ++ (start * nanosPerMilli + r.endOf (k + i), .log (b.warning (k + i) error)) :: next ∧
      b.Followed r start (k + i) next := by
  induction errors generalizing k i with
  | nil => cases hi
  | cons first errors ih =>
    have hlength : k + (first :: errors).length = k + 1 + errors.length := by
      rw [List.length_cons, Nat.add_comm errors.length, Nat.add_assoc]
    rw [hlength] at h
    cases i with
    | zero =>
      obtain rfl : first = error := Option.some.inj hi
      refine ⟨opening r start k, _, ?_, announcement_followed h (pauses 0 (Nat.succ_pos _))⟩
      rw [reports_cons, report, List.map_cons, List.append_assoc, List.append_assoc]
      rfl
    | succ i =>
      have hindex (i : Nat) : k + (i + 1) = k + 1 + i := by omega
      have pauses' : ∀ i < errors.length, k + 1 + i + 1 < b.policy.maxAttempts →
          ∃ delay, b.policy.delay (k + 1 + i) = .ok delay := by
        intro i hi
        rw [← hindex i]
        exact pauses (i + 1) (Nat.succ_lt_succ hi)
      obtain ⟨earlier, next, hshown, hnext⟩ := ih h pauses' hi
      rw [hindex i]
      refine ⟨b.report r start k first ++ earlier, next, ?_, hnext⟩
      rw [reports_cons, List.append_assoc, hshown, List.append_assoc]

/-! ## Courses -/

open Race

section Ticking

variable {p : Policy} {script : Nat → Trial α} {s : Session}

/-- What a scripted attempt shows when it starts is its opening. -/
theorem Reaches.opening (h : Reaches (ticking p script) start k s) :
    timed (startShown (start * nanosPerMilli + p.deadline.toNanos) k s) =
      Block.opening (ticking p script) start k := by
  unfold timed startShown Block.opening
  rw [List.map_singleton, h.clock, Nat.add_sub_add_left]
  rfl

/-- An attempt that ended did so after its own time. -/
theorem Reaches.endOf (h : Reaches (ticking p script) start k s) {after : Nat}
    {result : Except DbError α} (ended : script k = .ends after result) :
    (s.clock + after) * nanosPerMilli = start * nanosPerMilli + (ticking p script).endOf k := by
  have hlength : ((ticking p script).script k).length = after := Trial.length_of_ends ended
  have hmoment := h.ended after
  unfold MomentOf at hmoment
  rw [hmoment, Race.endOf, hlength]

end Ticking

/-- **What a course of a scripted block shows:** a report of each failed attempt, and its end. Induction
    on the course; the invariant is that attempt `k` is reached. -/
theorem Course.reports {b : Block} {script : Nat → Trial α} {start : Instant} {n k : Nat} {s : Session}
    {o : Outcome (Except SchemaError α)}
    (h : Course b (start * nanosPerMilli + b.policy.deadline.toNanos) (scripted script) n k s o)
    (fits : ∀ k, k + 1 < b.policy.maxAttempts → (ticking b.policy script).Starts k →
      (ticking b.policy script).Fails k → ∃ delay, b.policy.delay k = .ok delay)
    (allowed : n + k = b.policy.maxAttempts) (reached : Reaches (ticking b.policy script) start k s) :
    ∃ errors ending, (ticking b.policy script).Failures k errors ∧
      b.Concludes (ticking b.policy script) start (k + errors.length) o.value ending ∧
      timed o.events = b.reports (ticking b.policy script) start k errors ++ ending := by
  induction h with
  | @exhausted k s =>
    refine ⟨[], _, failures_nil fun starts => ?_, .exhausted ?_ (s.clock * nanosPerMilli), ?_⟩
    · have hlimit : k < b.policy.maxAttempts := starts.1
      omega
    · rw [← allowed, List.length_nil, Nat.add_zero, Nat.zero_add]
    · rw [timed_cons, timed_nil, reports_nil, List.nil_append]
  | @overdue n k s late =>
    have hk : k < b.policy.maxAttempts := by omega
    rw [reached.clock] at late
    refine ⟨[], _, failures_nil fun starts => ?_, .overdue hk, ?_⟩
    · exact absurd starts.2.2 (Nat.not_lt_of_le (Nat.le_of_add_le_add_left late))
    · rw [timed_cons, timed_nil, reached.clock, reports_nil, List.nil_append]
      rfl
  | @cancelled n k s t shown intime tried =>
    have hk : k < b.policy.maxAttempts := by omega
    have hcutoff := momentOf_cutOff tried
    obtain ⟨late, rfl⟩ := cutOff_of_attemptOnce tried
    refine ⟨[], _, failures_nil fun _ => ?_, .cancelled hk, ?_⟩
    · rintro ⟨after, error, hends, hin⟩
      exact Nat.not_lt_of_le ((reached.intime_iff after).mpr hin) (late after _ hends)
    · unfold MomentOf at hcutoff
      rw [timed_append, reached.opening, timed_cons, timed_nil, hcutoff, reports_nil, List.nil_append]
      rfl
  | @succeeded n k s t shown value intime tried =>
    have hk : k < b.policy.maxAttempts := by omega
    obtain ⟨after, hends, hin, rfl, rfl⟩ := ends_of_attemptOnce tried
    refine ⟨[], _, failures_nil fun _ fails => ?_, .succeeded hk value, ?_⟩
    · exact fails.not_succeeds value ⟨after, hends, (reached.intime_iff after).mp hin⟩
    · rw [timed_append, reached.opening, reports_nil, List.nil_append]
      by_cases retried : k > 0
      · rw [if_pos retried, if_pos retried, timed_cons, timed_nil, reached.endOf hends]
      · rw [if_neg retried, if_neg retried, timed_nil]
  | @failedLast k s t shown error intime tried =>
    have starts := reached.starts (by omega) intime
    obtain ⟨after, hk, hin, rfl, rfl⟩ := ends_of_attemptOnce tried
    have failed : (ticking b.policy script).FailsWith k error :=
      ⟨after, hk, (reached.intime_iff after).mp hin⟩
    have last : ¬ k + 1 < b.policy.maxAttempts := by omega
    refine ⟨[error], _, failures_cons starts failed (failures_nil fun starts => ?_),
      .exhausted ?_ ((s.clock + after) * nanosPerMilli), ?_⟩
    · exact absurd starts.1 last
    · rw [← allowed, List.length_singleton, Nat.add_comm]
    · rw [timed_append, reached.opening, timed_cons, timed_cons, timed_nil, reports_cons, reports_nil,
        List.append_nil, report, announcement, if_neg last, reached.endOf hk, List.append_assoc]
      rfl
  | @overflowed n k s t shown error fault intime tried pause =>
    have starts := reached.starts (by omega) intime
    obtain ⟨after, hk, hin, rfl, rfl⟩ := ends_of_attemptOnce tried
    obtain ⟨delay, hdelay⟩ :=
      fits k (by omega) starts ⟨after, error, hk, (reached.intime_iff after).mp hin⟩
    rw [pause] at hdelay
    cases hdelay
  | @retried n k s t shown error delay o intime tried pause rest ih =>
    have starts := reached.starts (by omega) intime
    obtain ⟨after, hk, hin, rfl, rfl⟩ := ends_of_attemptOnce tried
    have failed : (ticking b.policy script).FailsWith k error :=
      ⟨after, hk, (reached.intime_iff after).mp hin⟩
    have another : k + 1 < b.policy.maxAttempts := by omega
    obtain ⟨errors, ending, hfailures, hconcludes, hshown⟩ :=
      ih (by omega) (reached.next starts hk hin pause)
    refine ⟨error :: errors, ending, failures_cons starts failed hfailures, ?_, ?_⟩
    · rw [List.length_cons, Nat.add_comm errors.length, ← Nat.add_assoc]
      exact hconcludes
    · rw [timed_append, reached.opening, timed_cons, timed_cons, hshown, reports_cons, report,
        announcement, if_pos another, pause, reached.endOf hk]
      simp only [List.append_assoc]
      rfl

end Block

/-! ## Main result -/

/-- **A run accounts for the attempts of a race** that begins at a moment `start` and in which the
    attempts that failed in time did so with these errors. -/
structure Race.Accounts (r : Race α) (b : Block) (start : Instant) (errors : List DbError)
    (o : Outcome (Except SchemaError α)) : Prop where
  /-- These are the errors of the attempts that failed in time, in order. -/
  failures : r.Failures 0 errors
  /-- There is one warning for each of them, in order, with its number and its error. -/
  warned : entriesAt .warning (timed o.events) = errors.mapIdx b.warning
  /-- It comes when the attempt ends, and what follows it is the pause, if another attempt is allowed. -/
  followed : ∀ k error, errors[k]? = some error →
    ∃ earlier next, timed o.events =
        earlier ++ (start * nanosPerMilli + r.endOf k, .log (b.warning k error)) :: next ∧
      b.Followed r start k next
  /-- A run that succeeds logs no error, and at the end after how many retries it did, if there were
      any. -/
  succeeded : ∀ value, o.value = .ok value →
    entriesAt .error (timed o.events) = [] ∧
      (logOf (timed o.events)).getLast? =
        if errors.length > 0 then some (.succeededAfter b.label errors.length) else none
  /-- A run that fails logs one error, after everything else, and it shows the query. -/
  failed : ∀ error, o.value = .error error → ∃ earlier moment entry,
    timed o.events = earlier ++ [(moment, .log entry)] ∧
      entriesAt .error (timed o.events) = [entry] ∧ ∃ heading, entry.message = heading ++ b.query
  /-- Nothing else is shown but reports of the failures and how the run ends. -/
  shown : ∃ ending, b.Concludes r start errors.length o.value ending ∧
    timed o.events = b.reports r start 0 errors ++ ending

/-- There are as many warnings as attempts that failed in time. -/
theorem Race.Accounts.warned_iff {r : Race α} {b : Block} {start : Instant} {errors : List DbError}
    {o : Outcome (Except SchemaError α)} (h : r.Accounts b start errors o) (k : Nat) :
    k < (entriesAt .warning (timed o.events)).length ↔ r.Starts k ∧ r.Fails k := by
  rw [h.warned, List.length_mapIdx, h.failures.lt_iff, Nat.zero_add]

namespace Block

open Race

/-- A run that shows a report of each failure and then its end accounts for its attempts. -/
theorem accounts_of_shown {b : Block} {r : Race α} {start : Instant} {errors : List DbError}
    {ending : List (Nat × Act)} {o : Outcome (Except SchemaError α)}
    (hfailures : r.Failures 0 errors)
    (pauses : ∀ k < errors.length, k + 1 < b.policy.maxAttempts →
      ∃ delay, b.policy.delay k = .ok delay)
    (hconcludes : b.Concludes r start errors.length o.value ending)
    (hshown : timed o.events = b.reports r start 0 errors ++ ending) :
    r.Accounts b start errors o := by
  refine ⟨hfailures, ?_, ?_, ?_, ?_, ending, hconcludes, hshown⟩
  · rw [hshown, entriesAt_append, entriesAt_reports b r start 0 errors (by decide), if_pos rfl,
      hconcludes.no_warning, List.append_nil]
    simp only [Nat.zero_add]
  · intro k error hk
    have pauses' : ∀ i < errors.length, 0 + i + 1 < b.policy.maxAttempts →
        ∃ delay, b.policy.delay (0 + i) = .ok delay := by
      intro i
      rw [Nat.zero_add]
      exact pauses i
    rw [← Nat.zero_add errors.length] at hconcludes
    have hfollowed := reports_followed hconcludes pauses' hk
    rw [Nat.zero_add, ← hshown] at hfollowed
    exact hfollowed
  · intro value hvalue
    rw [hvalue] at hconcludes
    obtain ⟨herror, hlog⟩ := hconcludes.of_ok
    rw [hshown, entriesAt_append, entriesAt_reports b r start 0 errors (by decide), herror,
      logOf_append, hlog]
    refine ⟨rfl, ?_⟩
    by_cases retried : errors.length > 0
    · rw [if_pos retried, if_pos retried, List.getLast?_concat]
    · obtain rfl : errors = [] := List.eq_nil_of_length_eq_zero (Nat.eq_zero_of_not_pos retried)
      rfl
  · intro error hvalue
    rw [hvalue] at hconcludes
    obtain ⟨earlier, moment, entry, hending, herror, hquery⟩ := hconcludes.of_error
    refine ⟨b.reports r start 0 errors ++ earlier, moment, entry, ?_, ?_, hquery⟩
    · rw [hshown, hending, List.append_assoc]
    · rw [hshown, entriesAt_append, entriesAt_reports b r start 0 errors (by decide), herror]
      rfl

/-- **The log of a block accounts for its attempts**, as the ticking clock has them: for each one that
    failed in time it has a warning with its number and its error, then the pause that follows; and at the
    end after how many retries the block succeeded, or an error with its query. A block whose deadline the
    clock cannot name shows nothing. -/
theorem retry_accounts (b : Block) (script : Nat → Trial α) (s : Session)
    (fits : ∀ k, k + 1 < b.policy.maxAttempts → (ticking b.policy script).Starts k →
      (ticking b.policy script).Fails k → ∃ delay, b.policy.delay k = .ok delay) :
    (b.policy.deadline.secs < secondsOfClock → ∃ errors,
        (ticking b.policy script).Accounts b s.clock errors (b.retry (scripted script) s)) ∧
      (secondsOfClock ≤ b.policy.deadline.secs →
        b.retry (scripted script) s = ⟨.error (.outOfRange .momentTooLate), [], s⟩) := by
  constructor
  · intro nameable
    have reached : Reaches (ticking b.policy script) s.clock 0 s :=
      ⟨by rw [startOf, Nat.add_zero], fun j hj => absurd hj (Nat.not_lt_zero j)⟩
    obtain ⟨errors, ending, hfailures, hconcludes, hshown⟩ :=
      (retry_course b (scripted script) s nameable).reports fits (Nat.add_zero _) reached
    have pauses : ∀ k < errors.length, k + 1 < b.policy.maxAttempts →
        ∃ delay, b.policy.delay k = .ok delay := by
      intro k hk another
      obtain ⟨starts, fails⟩ := (hfailures.lt_iff k).mp hk
      rw [Nat.zero_add] at starts fails
      exact fits k another starts fails
    rw [Nat.zero_add] at hconcludes
    exact ⟨errors, accounts_of_shown hfailures pauses hconcludes hshown⟩
  · intro unnameable
    exact retry_of_unnameable b (scripted script) s (Nat.not_lt_of_le unnameable)

/-- The second of two attempts succeeds, and the log accounts for both. -/
theorem retry_accounts_twoTries :
    (∀ k, k + 1 < twoTries.policy.maxAttempts → (ticking twoTries.policy (secondTry 4)).Starts k →
        (ticking twoTries.policy (secondTry 4)).Fails k → ∃ delay, twoTries.policy.delay k = .ok delay) ∧
      twoTries.policy.deadline.secs < secondsOfClock ∧
      ∃ errors, (ticking twoTries.policy (secondTry 4)).Accounts twoTries 0 errors
        (twoTries.retry (scripted (secondTry 4)) {}) := by
  have fits : ∀ k, k + 1 < twoTries.policy.maxAttempts →
      (ticking twoTries.policy (secondTry 4)).Starts k →
      (ticking twoTries.policy (secondTry 4)).Fails k → ∃ delay, twoTries.policy.delay k = .ok delay := by
    intro k hk _ _
    obtain rfl : k = 0 := Nat.lt_one_iff.mp (Nat.lt_of_succ_lt_succ hk)
    exact ⟨_, rfl⟩
  have nameable : twoTries.policy.deadline.secs < secondsOfClock := by decide
  exact ⟨fits, nameable, (retry_accounts twoTries (secondTry 4) {} fits).1 nameable⟩

/-- Every attempt fails after so many milliseconds. -/
def failingAfter (after : Nat) : Nat → Trial Nat :=
  fun _ => .ends after (.error (.custom "deadlock detected"))

/-- **The log does not account for the attempts as they are by the times of the policy.** One that fails
    after two milliseconds is warned of though the deadline of 1.5 has passed; one that is due after half
    a millisecond, before a deadline of 0.6, is not made; and one that is due after sixty years is made
    after thirty, before the deadline. -/
theorem exact_not_accounted :
    (¬ ∃ errors, (exact fineDeadline.policy (failingAfter 2)).Accounts fineDeadline 0 errors
        (fineDeadline.retry (scripted (failingAfter 2)) {})) ∧
    (¬ ∃ errors, (exact finePause.policy (failingAfter 0)).Accounts finePause 0 errors
        (finePause.retry (scripted (failingAfter 0)) {})) ∧
    ¬ ∃ errors, (exact longPause.policy (failingAfter 0)).Accounts longPause 0 errors
        (longPause.retry (scripted (failingAfter 0)) {}) := by
  refine ⟨?_, ?_, ?_⟩
  · rintro ⟨errors, h⟩
    obtain ⟨-, after, error, hends, intime⟩ := (h.warned_iff 0).mp (by decide)
    cases hends
    exact absurd intime (by decide)
  · rintro ⟨errors, h⟩
    have starts : (exact finePause.policy (failingAfter 0)).Starts 1 := by
      refine ⟨by decide, fun j hj => ?_, by decide⟩
      obtain rfl : j = 0 := Nat.lt_one_iff.mp hj
      exact ⟨0, .custom "deadlock detected", rfl, by decide⟩
    have fails : (exact finePause.policy (failingAfter 0)).Fails 1 :=
      ⟨0, .custom "deadlock detected", rfl, by decide⟩
    exact absurd ((h.warned_iff 1).mpr ⟨starts, fails⟩) (by decide)
  · rintro ⟨errors, h⟩
    obtain ⟨starts, -⟩ := (h.warned_iff 1).mp (by decide)
    exact absurd starts.2.2 (by decide)

end Block

end StatSchema
