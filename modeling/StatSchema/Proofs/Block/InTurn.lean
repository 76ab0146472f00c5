import StatSchema.Proofs.Block.Standard

/-!
# `StatSchema.Proofs.Block.InTurn` — blocks that run one after the other

Installing objects and refreshing views are sequences of blocks under the standard policy, which stop at
the first block that fails. The server sees the traces of the blocks, each of which starts where the one
before has ended, and keeps the statements of those that are done.

## Contents
- **Kept blocks.** `KeepsBlocks` and its laws.
- **One block.** `BlockTrace.done_of_ok`, `BlockTrace.failed_of_error`; what is kept of it; that it starts
  afresh, `BlockTrace.fresh`.
- **Sequences.** `Follow`, `InTurn`; what is kept, `InTurn.kept_of_ok` and `InTurn.kept_of_error`.
- **Runs.** `RunsInTurn` and its laws: entries of the log, `runStatements_stops`, `runStatements_before`.
-/

namespace StatSchema

/-! ## Kept blocks -/

/-- Only what the server sees is kept. -/
theorem Keeps.of_serverEvents {es : List Event} {xs : List String} (h : Keeps (serverEvents es) xs) :
    Keeps es xs := by
  intro j
  rw [← replay_serverEvents, h j]

/-- **Events keep blocks of statements** if they add just their statements, in order, to the innermost of
    the transactions that were open before, where each block begins with a limit on the time that its
    statements may take. -/
def KeepsBlocks (events : List Event) (blocks : List (List String)) : Prop :=
  ∃ timed : List (Nat × List String), timed.map (·.2) = blocks ∧
    Keeps events (timed.flatMap fun b => setTimeout b.1 :: b.2)

namespace KeepsBlocks

variable {es fs : List Event} {xs ys : List (List String)}

protected theorem nil : KeepsBlocks [] [] := ⟨[], rfl, .nil⟩

/-- What keeps nothing keeps no blocks. -/
protected theorem none (h : Keeps es []) : KeepsBlocks es [] := ⟨[], rfl, h⟩

/-- A block alone. -/
protected theorem single {millis : Nat} {statements : List String}
    (h : Keeps es (setTimeout millis :: statements)) : KeepsBlocks es [statements] := by
  refine ⟨[(millis, statements)], rfl, ?_⟩
  simpa using h

protected theorem append (hes : KeepsBlocks es xs) (hfs : KeepsBlocks fs ys) :
    KeepsBlocks (es ++ fs) (xs ++ ys) := by
  obtain ⟨timed, rfl, hes⟩ := hes
  obtain ⟨timed', rfl, hfs⟩ := hfs
  refine ⟨timed ++ timed', List.map_append, ?_⟩
  rw [List.flatMap_append]
  exact hes.append hfs

/-- What leaves every journal as it is keeps no blocks. -/
protected theorem skip {e : Event} (silent : ∀ j : Journal, j.record e.act = j)
    (h : KeepsBlocks es xs) : KeepsBlocks (e :: es) xs := by
  obtain ⟨timed, htimed, h⟩ := h
  exact ⟨timed, htimed, h.skip silent⟩

/-- A transaction that is committed keeps what its work keeps. -/
protected theorem committed (h : KeepsBlocks es xs) (t₁ t₂ : Instant) (d₁ d₂ : Nat) :
    KeepsBlocks (⟨t₁, .began d₁⟩ :: es ++ [⟨t₂, .committed d₂⟩]) xs := by
  obtain ⟨timed, htimed, h⟩ := h
  exact ⟨timed, htimed, h.committed t₁ t₂ d₁ d₂⟩

/-- Only what the server sees is kept. -/
theorem of_serverEvents (h : KeepsBlocks (serverEvents es) xs) : KeepsBlocks es xs := by
  obtain ⟨timed, htimed, h⟩ := h
  exact ⟨timed, htimed, h.of_serverEvents⟩

end KeepsBlocks

/-! ## One block -/

/-- An attempt that is undone has sent its first statement, which is accepted or refused. -/
theorem Undone.events_first {u : Undone} {sql : String} {statements rest : List String}
    (h : sql :: statements = u.accepted ++ u.refused :: rest) (depth : Nat) :
    ∃ failed others, u.events depth =
      ⟨u.moment, .began depth⟩ :: ⟨u.moment, .executed sql failed⟩ :: others := by
  unfold Undone.events
  cases haccepted : u.accepted with
  | nil =>
    rw [haccepted] at h
    rw [← (List.cons.inj h).1]
    exact ⟨true, _, rfl⟩
  | cons first accepted =>
    rw [haccepted] at h
    rw [← (List.cons.inj h).1]
    exact ⟨false, _, rfl⟩

namespace BlockTrace

/-- What the block is called and what it runs. -/
def work (b : BlockTrace) : String × List String := (b.label, b.statements)

/-- A block that succeeds is done. -/
theorem done_of_ok {b : BlockTrace} (h : b.value = .ok ()) : b.done = true := by
  unfold value at h
  split at h
  · assumption
  · cases h

/-- A block that fails is not done, and its error names it. -/
theorem failed_of_error {b : BlockTrace} {error : SchemaError} (h : b.value = .error error) :
    b.done = false ∧ error = .retryExhausted b.label 10 := by
  unfold value at h
  split at h
  · cases h
  · next hdone => exact ⟨Bool.eq_false_iff.mpr hdone, (Except.error.inj h).symm⟩

/-- A block that is done commits once and keeps its statements. -/
theorem events_done {b : BlockTrace} (done : b.done = true) (depth : Nat) :
    commits (b.events depth) = 1 ∧ KeepsBlocks (b.events depth) [b.statements] := by
  unfold events attemptEvents
  rw [if_pos done]
  constructor
  · rw [commits_append, commits_undone, commits_done]
  · apply KeepsBlocks.single
    exact (keeps_undone depth b.undone).append (keeps_done depth _ _)

/-- A block that fails keeps nothing. -/
theorem events_failed {b : BlockTrace} (failed : b.done = false) (depth : Nat) :
    commits (b.events depth) = 0 ∧ Keeps (b.events depth) [] := by
  unfold events attemptEvents
  rw [if_neg (by simp [failed]), List.append_nil]
  exact ⟨commits_undone depth b.undone, keeps_undone depth b.undone⟩

/-- **A block starts afresh:** its first attempt is told the whole deadline, and there are ten attempts
    unless one is done before. -/
def Fresh (b : BlockTrace) (depth : Nat) : Prop :=
  (∃ failed rest, b.events depth =
    ⟨b.start, .began depth⟩ :: ⟨b.start, .executed (setTimeout 5400000) failed⟩ :: rest) ∧
    if b.done then b.undone.length < 10 else b.undone.length = 10

/-- **Every block starts afresh.** -/
theorem fresh (b : BlockTrace) (depth : Nat) : b.Fresh depth := by
  obtain ⟨label, statements, start, undone, done, hrefused, hnumber⟩ := b
  rw [Nat.zero_add] at hnumber
  refine ⟨?_, hnumber⟩
  unfold events attemptEvents
  cases undone with
  | nil =>
    -- A block that fails has ten attempts that are undone.
    obtain rfl : done = true := by
      cases done with
      | true => rfl
      | false => cases hnumber
    exact ⟨false, _, rfl⟩
  | cons u undone =>
    obtain ⟨hmoment, rest, hrest⟩ := hrefused 0 u rfl
    have hstart : u.moment = start := hmoment
    obtain ⟨failed, others, hevents⟩ := u.events_first hrest depth
    rw [List.flatMap_cons, hevents, hstart]
    exact ⟨failed, _, rfl⟩

end BlockTrace

/-! ## Sequences -/

/-- The blocks follow each other without a pause, the first at the moment `now`. -/
def Follow : (now : Instant) → List BlockTrace → Prop
  | _, [] => True
  | now, b :: blocks => b.start = now ∧ Follow b.finish blocks

/-- **How blocks end that are to run in turn:** all are done, or they are up to one that fails, and no
    block runs after it. -/
inductive InTurn (now : Instant) :
    List (String × List String) → List BlockTrace → Except SchemaError Unit → Prop where
  | all (blocks : List BlockTrace) (follow : Follow now blocks) (done : ∀ b ∈ blocks, b.done = true) :
      InTurn now (blocks.map BlockTrace.work) blocks (.ok ())
  | upTo (blocks : List BlockTrace) (failing : BlockTrace) (rest : List (String × List String))
      (follow : Follow now (blocks ++ [failing])) (done : ∀ b ∈ blocks, b.done = true)
      (failed : failing.done = false) :
      InTurn now (blocks.map BlockTrace.work ++ failing.work :: rest) (blocks ++ [failing])
        (.error (.retryExhausted failing.label 10))

namespace InTurn

variable {now : Instant} {work : List (String × List String)} {blocks : List BlockTrace}
  {value : Except SchemaError Unit}

protected theorem nil (now : Instant) : InTurn now [] [] (.ok ()) :=
  .all [] trivial fun _ h => absurd h List.not_mem_nil

/-- A block that is done before others run in turn. -/
protected theorem cons {b : BlockTrace} (start : b.start = now) (done : b.done = true)
    (h : InTurn b.finish work blocks value) : InTurn now (b.work :: work) (b :: blocks) value := by
  cases h with
  | all _ follow hdone =>
    exact .all (b :: blocks) ⟨start, follow⟩ (List.forall_mem_cons.mpr ⟨done, hdone⟩)
  | upTo blocks failing rest follow hdone failed =>
    exact .upTo (b :: blocks) failing rest ⟨start, follow⟩
      (List.forall_mem_cons.mpr ⟨done, hdone⟩) failed

/-- A block that fails before others could run. -/
protected theorem stop {b : BlockTrace} (start : b.start = now) (failed : b.done = false)
    (work : List (String × List String)) :
    InTurn now (b.work :: work) [b] (.error (.retryExhausted b.label 10)) :=
  .upTo [] b work ⟨start, trivial⟩ (fun _ h => absurd h List.not_mem_nil) failed

end InTurn

/-- Blocks that are done commit once each and keep their statements. -/
theorem events_allDone (depth : Nat) {blocks : List BlockTrace}
    (done : ∀ b ∈ blocks, b.done = true) :
    commits (blocks.flatMap (·.events depth)) = blocks.length ∧
      KeepsBlocks (blocks.flatMap (·.events depth)) (blocks.map (·.statements)) := by
  induction blocks with
  | nil => exact ⟨rfl, .nil⟩
  | cons b blocks ih =>
    obtain ⟨hb, hblocks⟩ := List.forall_mem_cons.mp done
    obtain ⟨hcommits, hkeeps⟩ := b.events_done hb depth
    obtain ⟨hcommits', hkeeps'⟩ := ih hblocks
    rw [List.flatMap_cons, List.map_cons]
    refine ⟨?_, hkeeps.append hkeeps'⟩
    rw [commits_append, hcommits, hcommits', List.length_cons, Nat.add_comm]

namespace InTurn

variable {now : Instant} {work : List (String × List String)} {blocks : List BlockTrace}
  {depth : Nat} {es : List Event}

/-- Blocks that run in turn and succeed keep all statements. -/
theorem kept_of_ok (h : InTurn now work blocks (.ok ()))
    (hes : serverEvents es = blocks.flatMap (·.events depth)) :
    commits es = work.length ∧ KeepsBlocks es (work.map (·.2)) := by
  cases h with
  | all _ follow done =>
    obtain ⟨hcommits, hkeeps⟩ := events_allDone depth done
    rw [← hes] at hcommits hkeeps
    refine ⟨?_, ?_⟩
    · rw [← commits_serverEvents, hcommits, List.length_map]
    · rw [List.map_map]
      exact hkeeps.of_serverEvents

/-- Blocks that run in turn up to one that fails keep the statements of those before it. -/
theorem kept_of_error {error : SchemaError} (h : InTurn now work blocks (.error error))
    (hes : serverEvents es = blocks.flatMap (·.events depth)) :
    ∃ before failing after, work = before ++ failing :: after ∧
      error = .retryExhausted failing.1 10 ∧ blocks.map BlockTrace.work = before ++ [failing] ∧
      commits es = before.length ∧ KeepsBlocks es (before.map (·.2)) := by
  cases h with
  | upTo blocks failing rest follow done failed =>
    obtain ⟨hcommits, hkeeps⟩ := events_allDone depth done
    obtain ⟨hcommits', hkeeps'⟩ := failing.events_failed failed depth
    rw [List.flatMap_append, List.flatMap_singleton] at hes
    refine ⟨_, failing.work, rest, rfl, rfl, by rw [List.map_append]; rfl, ?_, ?_⟩
    · rw [← commits_serverEvents, hes, commits_append, hcommits, hcommits', List.length_map]
      rfl
    · have happend := hkeeps.append (.none hkeeps')
      rw [← hes, List.append_nil] at happend
      rw [List.map_map]
      exact happend.of_serverEvents

end InTurn

/-! ## Runs -/

/-- **A run of blocks in turn** from one session to another: what it shows and yields are the traces of
    the blocks and their end, and nothing changes but the clock and the faults of the server. -/
def RunsInTurn (work : List (String × List String)) (s : Session) (value : Except SchemaError Unit)
    (es : List Event) (t : Session) : Prop :=
  ∃ blocks, InTurn s.clock work blocks value ∧
    serverEvents es = blocks.flatMap (·.events (s.server.depth + 1)) ∧ s.Drifts t

namespace RunsInTurn

variable {work : List (String × List String)} {s t : Session} {value : Except SchemaError Unit}
  {es : List Event}

/-- Without blocks only entries of the log are shown. -/
protected theorem nil (hes : serverEvents es = []) : RunsInTurn [] s (.ok ()) es s :=
  ⟨[], .nil s.clock, hes, .refl s⟩

/-- An entry of the log before the blocks. -/
protected theorem log (time : Instant) (entry : LogEntry) (h : RunsInTurn work s value es t) :
    RunsInTurn work s value (⟨time, .log entry⟩ :: es) t := h

end RunsInTurn

section Runs

variable {label : String} {statements : List String} {s : Session}

/-- After a block requests for a transaction are granted as before. -/
theorem runStatements_granted (some : statements ≠ []) (granted : s.server.admissions = [])
    {value : Except SchemaError Unit} {es : List Event} {t : Session}
    (h : runStatements .standard label statements s = ⟨value, es, t⟩) : t.server.admissions = [] := by
  obtain ⟨drifts, -⟩ := runStatements_keeps .standard label some granted h
  exact drifts.admissions.trans granted

/-- After a block that fails nothing runs. -/
theorem runStatements_stops (some : statements ≠ []) (granted : s.server.admissions = [])
    {error : SchemaError} {es : List Event} {t : Session}
    (h : runStatements .standard label statements s = ⟨.error error, es, t⟩)
    (work : List (String × List String)) :
    RunsInTurn ((label, statements) :: work) s (.error error) es t := by
  obtain ⟨b, rfl, rfl, start, hevents, hvalue, hdrifts, -⟩ := runStatements_trace label some granted
  rw [h] at hevents hvalue hdrifts
  obtain ⟨failed, rfl⟩ := BlockTrace.failed_of_error hvalue.symm
  refine ⟨[b], .stop start failed work, ?_, hdrifts⟩
  rw [List.flatMap_singleton]
  exact hevents

/-- After a block that is done the others run. -/
theorem runStatements_before (some : statements ≠ []) (granted : s.server.admissions = [])
    {es : List Event} {t : Session} (h : runStatements .standard label statements s = ⟨.ok (), es, t⟩)
    {work : List (String × List String)} {value : Except SchemaError Unit} {fs : List Event}
    {u : Session} (rest : RunsInTurn work t value fs u) :
    RunsInTurn ((label, statements) :: work) s value (es ++ fs) u := by
  obtain ⟨b, rfl, rfl, start, hevents, hvalue, hdrifts, hclock⟩ :=
    runStatements_trace label some granted
  rw [h] at hevents hvalue hdrifts hclock
  obtain ⟨blocks, hturn, hblocks, hdrifts'⟩ := rest
  have hdone : b.done = true := BlockTrace.done_of_ok hvalue.symm
  have hdepth : t.server.depth = s.server.depth := congrArg List.length hdrifts.saved
  have hfinish : t.clock = b.finish := hclock
  rw [hfinish] at hturn
  refine ⟨b :: blocks, .cons start hdone hturn, ?_, hdrifts.trans hdrifts'⟩
  rw [serverEvents_append, hevents, hblocks, hdepth, List.flatMap_cons]

end Runs

end StatSchema
