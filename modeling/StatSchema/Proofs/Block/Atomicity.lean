import StatSchema.Block.Statements
import StatSchema.Proofs.Block.Course
import StatSchema.Proofs.Server.Journal

/-!
# `StatSchema.Proofs.Block.Atomicity` — a block takes effect once or not at all

Each attempt at a block of statements is a transaction. An attempt whose statements are all accepted is
committed and is the last; one that is refused a statement sends nothing more and is rolled back. So a
block keeps its statements exactly once if it succeeds, and none of them otherwise, whatever the server
refuses and however often the block is tried.

## Contents
- **Attempts.** `setTimeout`, `dueStatements`, `Undone`, `doneEvents`; `Tried`, `attemptOnce_tried`.
- **Blocks.** `serverEvents`, `commits`, `Course.transcript`.
- **Main results.** `ExactlyOnce`, `runStatements_exactlyOnce`; for callers `runStatements_keeps` and
  `runStatements_always`.
-/

namespace StatSchema

/-! ## Attempts -/

/-- The statement that allows every statement after it so many milliseconds. -/
def setTimeout (millis : Nat) : String :=
  "SET LOCAL statement_timeout = " ++ toString millis

/-- The statements of an attempt that starts at a moment: the server is told how many whole milliseconds
    are left until `due`, at least one. -/
def dueStatements (due : Nat) (moment : Instant) (statements : List String) : List String :=
  setTimeout (max ((due - moment * nanosPerMilli) / nanosPerMilli) 1) :: statements

/-- An attempt that was refused a statement. -/
structure Undone where
  moment : Instant
  /-- What was accepted before. -/
  accepted : List String
  refused : String

/-- What the server sees of an attempt that is undone. -/
def Undone.events (depth : Nat) (u : Undone) : List Event :=
  ⟨u.moment, .began depth⟩ ::
    ((u.accepted.map fun sql => ⟨u.moment, .executed sql false⟩) ++
      [⟨u.moment, .executed u.refused true⟩]) ++
    [⟨u.moment, .rolledBack depth⟩]

/-- What the server sees of an attempt whose statements are all accepted. -/
def doneEvents (depth : Nat) (moment : Instant) (statements : List String) : List Event :=
  ⟨moment, .began depth⟩ ::
    (statements.map fun sql => ⟨moment, .executed sql false⟩) ++
    [⟨moment, .committed depth⟩]

/-- The attempt is one at `statements` that started in time. -/
def Undone.Of (u : Undone) (due : Nat) (statements : List String) : Prop :=
  u.moment * nanosPerMilli < due ∧
    ∃ rest, dueStatements due u.moment statements = u.accepted ++ u.refused :: rest

namespace Block

/-- How an attempt ends that is granted its transaction. Only the faults of the server change. -/
inductive Tried (due : Nat) (statements : List String) (s : Session) :
    Outcome (Option (Except DbError Unit)) → Prop where
  | done (faults : List Fault) :
      Tried due statements s
        ⟨some (.ok ()),
         doneEvents (s.server.depth + 1) s.clock (dueStatements due s.clock statements),
         s.refault faults⟩
  | undone (u : Undone) (error : DbError) (faults : List Fault) (now : u.moment = s.clock)
      (started : u.Of due statements) :
      Tried due statements s
        ⟨some (.error error), u.events (s.server.depth + 1), s.refault faults⟩

variable {due : Nat} {statements : List String} {s : Session}

/-- The time left as the server is told it. -/
theorem timeoutStatement_ofNanos {nanos : Nat} (fits : nanos < secondsLimit * nanosPerSecond) :
    timeoutStatement (.ofNanos nanos) = setTimeout (max (nanos / nanosPerMilli) 1) := by
  have h : (Duration.ofNanos nanos).toMillis = nanos / nanosPerMilli := by
    rw [Duration.toMillis_eq, Duration.toNanos_ofNanos fits]
  unfold timeoutStatement setTimeout
  rw [h]

/-- An attempt that ends at once takes no time. -/
theorem conduct_of_ends_zero {α : Type} {last : Instant} (finish : Run (Except DbError α))
    (abandon : Run Unit) (t : Session) (intime : t.clock ≤ last) :
    Attempt.conduct last (.ends 0 finish abandon) t = (some <$> finish) t := by
  rw [conduct_of_intime finish abandon (show t.clock + 0 ≤ last from intime)]
  rfl

/-- An attempt that is granted its transaction is that transaction. -/
theorem attemptOnce_of_granted (k : Nat) (granted : s.server.admissions = [])
    (intime : s.clock * nanosPerMilli < due)
    (fits : due - s.clock * nanosPerMilli < secondsLimit * nanosPerSecond) :
    attemptOnce due (fun _ left => attemptStatements statements left) k s =
      (some <$> Run.transaction (Run.executeAll (dueStatements due s.clock statements))) s := by
  have hrequest : Run.requestTransaction s = ⟨.granted, [], s⟩ := by
    rw [Run.requestTransaction, Run.onServer_apply, Server.nextAdmission, granted]
  have hattempt (left : Duration) : attemptStatements statements left s =
      ⟨.ends 0 (finishStatements left statements) Run.rollback,
       [⟨s.clock, .began (s.server.depth + 1)⟩], { s with server := s.server.begin }⟩ := by
    rw [attemptStatements, Run.bind_apply, hrequest]
    rfl
  have hlast : s.clock ≤ millisUp due := by
    apply Nat.le_of_lt
    exact Nat.lt_of_mul_lt_mul_right (Nat.lt_of_lt_of_le intime (le_millisUp due))
  rw [attemptOnce, Run.bind_of (Run.now_apply s), Run.bind_of (hattempt _)]
  rw [conduct_of_ends_zero _ _ { s with server := s.server.begin } hlast, finishStatements,
    timeoutStatement_ofNanos fits]
  rfl

theorem attemptOnce_tried {k : Nat} {a : Outcome (Option (Except DbError Unit))}
    (h : attemptOnce due (fun _ left => attemptStatements statements left) k s = a)
    (granted : s.server.admissions = []) (intime : s.clock * nanosPerMilli < due)
    (fits : due - s.clock * nanosPerMilli < secondsLimit * nanosPerSecond) :
    Tried due statements s a := by
  rw [← h, attemptOnce_of_granted k granted intime fits, Run.map_apply]
  obtain ⟨sent, hsent⟩ : ∃ sent, dueStatements due s.clock statements = sent := ⟨_, rfl⟩
  obtain ⟨o, ho⟩ : ∃ o, Run.executeAll sent { s with server := s.server.begin } = o := ⟨_, rfl⟩
  have hcases := Run.executeAll_sent sent { s with server := s.server.begin }
  rw [ho] at hcases
  rw [hsent]
  cases hcases with
  | all _ faults =>
    rw [Run.transaction_of_ok ho, ← hsent]
    exact .done faults
  | upTo accepted refused rest error faults =>
    rw [Run.transaction_of_error ho]
    exact .undone ⟨s.clock, accepted, refused⟩ error faults rfl ⟨intime, rest, hsent⟩

end Block

/-! ## Blocks -/

/-- The events that the server sees. -/
def serverEvents (events : List Event) : List Event :=
  events.filter fun e => match e.act with
    | .log _ => false
    | _ => true

theorem serverEvents_append (es fs : List Event) :
    serverEvents (es ++ fs) = serverEvents es ++ serverEvents fs :=
  List.filter_append ..

theorem serverEvents_accepted (moment : Instant) (statements : List String) :
    serverEvents (statements.map fun sql => ⟨moment, .executed sql false⟩) =
      statements.map fun sql => ⟨moment, .executed sql false⟩ := by
  induction statements with
  | nil => rfl
  | cons sql rest ih => exact congrArg (⟨moment, .executed sql false⟩ :: ·) ih

theorem serverEvents_undone (depth : Nat) (u : Undone) :
    serverEvents (u.events depth) = u.events depth := by
  unfold Undone.events
  rw [serverEvents_append, ← List.singleton_append, serverEvents_append, serverEvents_append,
    serverEvents_accepted]
  rfl

theorem serverEvents_done (depth : Nat) (moment : Instant) (statements : List String) :
    serverEvents (doneEvents depth moment statements) = doneEvents depth moment statements := by
  unfold doneEvents
  rw [serverEvents_append, ← List.singleton_append, serverEvents_append, serverEvents_accepted]
  rfl

/-- What the server sees of a whole block: attempts that are undone, and then perhaps one that is done. -/
def transcript (due depth : Nat) (statements : List String) (undone : List Undone) :
    Option Instant → List Event
  | none => undone.flatMap (·.events depth)
  | some moment =>
    undone.flatMap (·.events depth) ++ doneEvents depth moment (dueStatements due moment statements)

theorem transcript_cons (due depth : Nat) (statements : List String) (u : Undone)
    (undone : List Undone) (done : Option Instant) :
    transcript due depth statements (u :: undone) done =
      u.events depth ++ transcript due depth statements undone done := by
  cases done with
  | none => rfl
  | some moment => exact List.append_assoc ..

namespace Block

/-- What a block of statements shows, yields and leaves behind: it succeeds if an attempt is done, and
    it changes nothing but the clock and the faults of the server. -/
structure Shows (due : Nat) (statements : List String) (s : Session)
    (o : Outcome (Except SchemaError Unit)) (undone : List Undone) (done : Option Instant) : Prop where
  events : serverEvents o.events = transcript due (s.server.depth + 1) statements undone done
  started : ∀ u ∈ undone, u.Of due statements
  intime : ∀ moment ∈ done, moment * nanosPerMilli < due
  succeeds : o.value = .ok () ↔ done.isSome
  session : s.Drifts o.session

/-- A block that ends without another attempt. -/
theorem Shows.none {error : SchemaError} {es : List Event} (hes : serverEvents es = []) :
    Shows due statements s ⟨.error error, es, s⟩ [] .none := by
  refine ⟨hes, ?_, ?_, ⟨?_, ?_⟩, .refl s⟩
  · exact fun u hu => absurd hu List.not_mem_nil
  · exact fun m hm => absurd hm (Option.not_mem_none m)
  · intro h
    cases h
  · intro h
    cases h

/-- A block that ends with an attempt that is done. -/
theorem Shows.last {faults : List Fault} {logged : List Event}
    (intime : s.clock * nanosPerMilli < due) (hlogged : serverEvents logged = []) :
    Shows due statements s
      ⟨.ok (),
       doneEvents (s.server.depth + 1) s.clock (dueStatements due s.clock statements) ++ logged,
       s.refault faults⟩ [] (some s.clock) := by
  refine ⟨?_, ?_, ?_, ⟨fun _ => rfl, fun _ => rfl⟩, s.drifts_refault faults⟩
  · rw [serverEvents_append, hlogged, List.append_nil, serverEvents_done]
    rfl
  · exact fun u hu => absurd hu List.not_mem_nil
  · intro m hm
    rw [← Option.mem_some.mp hm]
    exact intime

/-- An attempt that is undone before a block goes on. -/
theorem Shows.cons {u : Undone} {faults : List Fault} {clock : Instant} {es : List Event}
    {o : Outcome (Except SchemaError Unit)} {undone : List Undone} {done : Option Instant}
    (h : Shows due statements { s.refault faults with clock } o undone done)
    (started : u.Of due statements) (hes : serverEvents es = serverEvents o.events) :
    Shows due statements s
      ⟨o.value, u.events (s.server.depth + 1) ++ es, o.session⟩ (u :: undone) done := by
  obtain ⟨events, hundone, hdone, succeeds, session⟩ := h
  have hdrift : s.Drifts { s.refault faults with clock } := ⟨clock, faults, rfl⟩
  refine ⟨?_, ?_, hdone, succeeds, hdrift.trans session⟩
  · rw [serverEvents_append, serverEvents_undone, hes, events, transcript_cons]
    rfl
  · rintro v hv
    rcases List.mem_cons.mp hv with rfl | hv
    · exact started
    · exact hundone v hv

/-- A block that ends with an attempt that is undone. -/
theorem Shows.failed {u : Undone} {faults : List Fault} {error : SchemaError} {es : List Event}
    (started : u.Of due statements) (hes : serverEvents es = []) :
    Shows due statements s
      ⟨.error error, u.events (s.server.depth + 1) ++ es, s.refault faults⟩ [u] .none := by
  have hnone : Shows due statements { s.refault faults with clock := s.clock }
      ⟨.error error, [], s.refault faults⟩ [] .none := .none rfl
  exact hnone.cons started hes

/-- **A course of a block of statements shows a transcript.** -/
theorem Course.shows {b : Block} {n k : Nat} {o : Outcome (Except SchemaError Unit)}
    (h : Course b due (fun _ left => attemptStatements statements left) n k s o)
    (granted : s.server.admissions = [])
    (fits : due - s.clock * nanosPerMilli < secondsLimit * nanosPerSecond) :
    ∃ undone done, Shows due statements s o undone done := by
  induction h with
  | exhausted => exact ⟨[], none, .none rfl⟩
  | overdue late => exact ⟨[], none, .none rfl⟩
  | @cancelled n k s t shown intime tried =>
    -- An attempt that is granted its transaction takes no time, so it is never cut off.
    cases attemptOnce_tried tried granted intime fits
  | @succeeded n k s t shown value intime tried =>
    cases attemptOnce_tried tried granted intime fits with
    | done faults =>
      refine ⟨[], some s.clock, .last intime ?_⟩
      split <;> rfl
  | @failedLast k s t shown error intime tried =>
    cases attemptOnce_tried tried granted intime fits with
    | undone u _ faults now started => exact ⟨[u], none, .failed started rfl⟩
  | @overflowed n k s t shown error fault intime tried pause =>
    cases attemptOnce_tried tried granted intime fits with
    | undone u _ faults now started => exact ⟨[u], none, .failed started rfl⟩
  | @retried n k s t shown error delay o intime tried pause rest ih =>
    cases attemptOnce_tried tried granted intime fits with
    | undone u _ faults now started =>
      -- The pause only brings the deadline nearer, so the time left still fits a duration.
      have hrest : due - (s.clock + Run.pauseLength (millisUp delay.toNanos)) * nanosPerMilli ≤
          due - s.clock * nanosPerMilli :=
        Nat.sub_le_sub_left (Nat.mul_le_mul_right _ (Nat.le_add_right ..)) due
      obtain ⟨undone, done, h⟩ := ih granted (Nat.lt_of_le_of_lt hrest fits)
      exact ⟨u :: undone, done, h.cons started rfl⟩

/-- A block of statements shows a transcript, also one whose deadline the clock cannot name. -/
theorem retry_shows (b : Block) (statements : List String) (s : Session)
    (granted : s.server.admissions = []) :
    ∃ undone done, Shows (s.clock * nanosPerMilli + b.policy.deadline.toNanos) statements s
      (b.retry (fun _ left => attemptStatements statements left) s) undone done := by
  by_cases nameable : b.policy.deadline.secs < secondsOfClock
  · refine (retry_course b _ s nameable).shows granted ?_
    rw [Nat.add_sub_cancel_left]
    exact b.policy.deadline.toNanos_lt
  · rw [retry_of_unnameable b _ s nameable]
    exact ⟨[], none, .none rfl⟩

end Block

/-! ## Main results -/

theorem replay_serverEvents (j : Journal) (es : List Event) :
    j.replay (serverEvents es) = j.replay es := by
  induction es generalizing j with
  | nil => rfl
  | cons e es ih =>
    obtain ⟨time, act⟩ := e
    cases act <;> exact ih _

/-- What is kept of an attempt that is undone. -/
theorem Undone.keeps (depth : Nat) (u : Undone) : Keeps (u.events depth) [] :=
  ((Keeps.allAccepted u.moment u.accepted).append (Keeps.nil.skip fun _ => rfl)).rolledBack _ _ _ _

theorem keeps_undone (depth : Nat) (undone : List Undone) :
    Keeps (undone.flatMap (·.events depth)) [] := by
  induction undone with
  | nil => exact .nil
  | cons u undone ih => exact (u.keeps depth).append ih

theorem keeps_done (depth : Nat) (moment : Instant) (statements : List String) :
    Keeps (doneEvents depth moment statements) statements :=
  (Keeps.allAccepted moment statements).committed _ _ _ _

/-- How many transactions and savepoints are committed. -/
def commits (events : List Event) : Nat :=
  (events.filter fun e => match e.act with
    | .committed _ => true
    | _ => false).length

theorem commits_append (es fs : List Event) : commits (es ++ fs) = commits es + commits fs := by
  unfold commits
  rw [List.filter_append, List.length_append]

theorem commits_serverEvents (es : List Event) : commits (serverEvents es) = commits es := by
  induction es with
  | nil => rfl
  | cons e es ih =>
    obtain ⟨time, act⟩ := e
    cases act with
    | committed depth => exact congrArg (· + 1) ih
    | _ => exact ih

theorem commits_accepted (moment : Instant) (statements : List String) :
    commits (statements.map fun sql => ⟨moment, .executed sql false⟩) = 0 := by
  induction statements with
  | nil => rfl
  | cons sql rest ih => exact ih

theorem commits_undone (depth : Nat) (undone : List Undone) :
    commits (undone.flatMap (·.events depth)) = 0 := by
  induction undone with
  | nil => rfl
  | cons u undone ih =>
    have hu : commits (u.events depth) = 0 := by
      unfold Undone.events
      rw [commits_append, ← List.singleton_append, commits_append, commits_append, commits_accepted]
      rfl
    rw [List.flatMap_cons, commits_append, hu, ih]

theorem commits_done (depth : Nat) (moment : Instant) (statements : List String) :
    commits (doneEvents depth moment statements) = 1 := by
  unfold doneEvents
  rw [commits_append, ← List.singleton_append, commits_append, commits_accepted]
  rfl

namespace Block

variable {due : Nat} {statements : List String} {s : Session} {o : Outcome (Except SchemaError Unit)}
  {undone : List Undone} {done : Option Instant}

/-- A block that succeeds keeps the statements of the attempt that is done. -/
theorem Shows.of_ok (h : Shows due statements s o undone done) (ok : o.value = .ok ()) :
    commits o.events = 1 ∧ ∃ moment, Keeps o.events (dueStatements due moment statements) := by
  obtain ⟨moment, rfl⟩ := Option.isSome_iff_exists.mp (h.succeeds.mp ok)
  refine ⟨?_, moment, fun j => ?_⟩
  · rw [← commits_serverEvents, h.events, transcript, commits_append, commits_undone, commits_done]
  · rw [← replay_serverEvents, h.events]
    exact ((keeps_undone _ undone).append (keeps_done _ moment _)) j

/-- A block that fails keeps nothing. -/
theorem Shows.of_error (h : Shows due statements s o undone done) {error : SchemaError}
    (failed : o.value = .error error) : commits o.events = 0 ∧ Keeps o.events [] := by
  cases done with
  | some moment =>
    have ok := h.succeeds.mpr rfl
    rw [failed] at ok
    cases ok
  | none =>
    refine ⟨?_, fun j => ?_⟩
    · rw [← commits_serverEvents, h.events, transcript, commits_undone]
    · rw [← replay_serverEvents, h.events]
      exact keeps_undone _ undone j

end Block

/-- **A block of statements that has taken effect exactly once, or not at all,** as an outcome shows it:
    the deadline is `due` nanoseconds after the run began and the transactions have the depth `depth`. -/
structure ExactlyOnce (statements : List String) (due depth : Nat)
    (o : Outcome (Except SchemaError Unit)) : Prop where
  /-- The server sees attempts that start in time and are undone at the first statement that is refused,
      and then one that is done if the block succeeds. -/
  attempts : ∃ undone done,
    serverEvents o.events = transcript due depth statements undone done ∧
      (∀ u ∈ undone, u.Of due statements) ∧
      (∀ moment ∈ done, moment * nanosPerMilli < due) ∧
      (o.value = .ok () ↔ done.isSome)
  /-- A success commits once and keeps the statements of one attempt. -/
  kept : o.value = .ok () →
    commits o.events = 1 ∧ ∃ moment, Keeps o.events (dueStatements due moment statements)
  /-- A failure commits and keeps nothing. -/
  dropped : ∀ error, o.value = .error error → commits o.events = 0 ∧ Keeps o.events []

theorem runStatements_of_ne_nil (policy : Policy) (label : String) {statements : List String}
    (some : statements ≠ []) :
    runStatements policy label statements =
      (⟨policy, label, ";\n".intercalate statements⟩ : Block).retry
        fun _ left => attemptStatements statements left := by
  rw [runStatements, List.isEmpty_eq_false_iff.mpr some]
  rfl

/-- **A block of statements takes effect exactly once or not at all,** under every policy, whatever
    statements the server refuses, and also within transactions that were open before. -/
theorem runStatements_exactlyOnce (policy : Policy) (label : String) (statements : List String)
    (clock : Instant) (applied : List String) (saved : List (List String)) (faults : List Fault)
    (some : statements ≠ []) :
    ExactlyOnce statements (clock * nanosPerMilli + policy.deadline.toNanos) (saved.length + 1)
      (runStatements policy label statements ⟨clock, { applied, saved, faults }⟩) := by
  rw [runStatements_of_ne_nil policy label some]
  obtain ⟨undone, done, h⟩ := Block.retry_shows ⟨policy, label, ";\n".intercalate statements⟩ statements
    ⟨clock, { applied, saved, faults }⟩ rfl
  exact ⟨⟨undone, done, h.events, h.started, h.intime, h.succeeds⟩, h.of_ok, fun _ => h.of_error⟩

theorem runStatements_exactlyOnce_deadlock :
    ["SELECT 1"] ≠ [] ∧
      ExactlyOnce ["SELECT 1"] (3 * nanosPerMilli + Policy.standard.deadline.toNanos) 1
        (runStatements .standard "block" ["SELECT 1"]
          ⟨3, { faults := [⟨"SELECT", 0, some 1, .custom "deadlock"⟩] }⟩) :=
  ⟨by decide, runStatements_exactlyOnce .standard "block" ["SELECT 1"] 3 [] []
    [⟨"SELECT", 0, some 1, .custom "deadlock"⟩] (by decide)⟩

/-- **What a block of statements leaves behind:** all of them if it succeeds, nothing if it fails. -/
theorem runStatements_keeps (policy : Policy) (label : String) {statements : List String} {s : Session}
    (some : statements ≠ []) (granted : s.server.admissions = [])
    {o : Outcome (Except SchemaError Unit)} (h : runStatements policy label statements s = o) :
    s.Drifts o.session ∧
      ((o.value = .ok () ∧ ∃ millis, Keeps o.events (setTimeout millis :: statements)) ∨
        ∃ error, o.value = .error error ∧ Keeps o.events []) := by
  rw [runStatements_of_ne_nil policy label some] at h
  obtain ⟨undone, done, hshows⟩ := Block.retry_shows ⟨policy, label, ";\n".intercalate statements⟩
    statements s granted
  rw [h] at hshows
  refine ⟨hshows.session, ?_⟩
  cases hvalue : o.value with
  | ok _ =>
    obtain ⟨-, moment, hkeeps⟩ := hshows.of_ok hvalue
    exact .inl ⟨rfl, _, hkeeps⟩
  | error error => exact .inr ⟨error, rfl, (hshows.of_error hvalue).2⟩

section Always

variable {P : List String → Prop} {before : List String} {due : Nat} {statements : List String}

theorem Undone.always {u : Undone} (depth : Nat) (started : u.Of due statements)
    (h : ∀ millis ys, ys <+: setTimeout millis :: statements → P (before ++ ys)) :
    Always P before (u.events depth) := by
  obtain ⟨-, rest, hrest⟩ := started
  have hprefix : u.accepted <+: dueStatements due u.moment statements :=
    hrest ▸ List.prefix_append _ _
  have haccepted : Always P before (u.accepted.map fun sql => ⟨u.moment, .executed sql false⟩) :=
    .allAccepted u.moment fun ys hys => h _ ys (hys.trans hprefix)
  have hrefused : Always P (before ++ u.accepted) [⟨u.moment, .executed u.refused true⟩] :=
    .skip (fun _ => rfl) (.nil (h _ _ hprefix))
  exact (haccepted.append (.allAccepted u.moment u.accepted) hrefused).rolledBack
    ((Keeps.allAccepted u.moment u.accepted).append (Keeps.nil.skip fun _ => rfl)) _ _ _ _

theorem always_undone (depth : Nat) {undone : List Undone} (started : ∀ u ∈ undone, u.Of due statements)
    (h : ∀ millis ys, ys <+: setTimeout millis :: statements → P (before ++ ys)) :
    Always P before (undone.flatMap (·.events depth)) := by
  induction undone with
  | nil =>
    have hnil := h 0 [] List.nil_prefix
    rw [List.append_nil] at hnil
    exact .nil hnil
  | cons u undone ih =>
    obtain ⟨hu, hrest⟩ := List.forall_mem_cons.mp started
    refine (Undone.always depth hu h).append (u.keeps depth) ?_
    rw [List.append_nil]
    exact ih hrest

/-- What holds throughout the events that the server sees holds throughout all events. -/
theorem always_of_serverEvents {es : List Event} (h : Always P before (serverEvents es)) :
    Always P before es := by
  intro j hj fs hfs
  rw [← replay_serverEvents]
  exact h j hj _ (hfs.filter _)

/-- **A property that every part of an attempt keeps holds throughout a block.** -/
theorem runStatements_always (policy : Policy) (label : String) {s : Session} (some : statements ≠ [])
    (granted : s.server.admissions = [])
    (h : ∀ millis ys, ys <+: setTimeout millis :: statements → P (before ++ ys)) :
    Always P before (runStatements policy label statements s).events := by
  rw [runStatements_of_ne_nil policy label some]
  obtain ⟨undone, done, hshows⟩ := Block.retry_shows ⟨policy, label, ";\n".intercalate statements⟩
    statements s granted
  apply always_of_serverEvents
  rw [hshows.events]
  cases done with
  | none => exact always_undone _ hshows.started h
  | some moment =>
    refine (always_undone _ hshows.started h).append (keeps_undone _ undone) ?_
    rw [List.append_nil]
    exact (Always.allAccepted moment fun ys => h _ ys).committed (.allAccepted moment _) _ _ _ _

end Always

end StatSchema
