import StatSchema.Proofs.Server.Journal

/-!
# `StatSchema.Proofs.Server.Nesting` — transactions within transactions

Most runs close every transaction that they open and touch none of those around them. A sequence of such
runs is one again, and so is a transaction around one. If that transaction is rolled back, whatever was
committed within it is taken back, and the server is left as it was.

## Contents
- **Commits.** `CommitsWithin`: how deep the transactions lie that are committed.
- **Acts.** `Act.transacts`: which acts concern a transaction as a whole.
- **Closing.** `Closes` and its laws for events.
- **Restoring.** `Restores` and its laws for events.
- **Runs.** `Run.Closing` and its laws; `Run.Undoing`, `Run.Closing.undoing`.
-/

namespace StatSchema

/-! ## Commits -/

/-- Every transaction that is committed lies within as many others as `depth` says, or more. -/
def CommitsWithin (depth : Nat) (events : List Event) : Prop :=
  ∀ e ∈ events, ∀ committed, e.act = .committed committed → depth < committed

namespace CommitsWithin

variable {depth outer : Nat} {es fs : List Event}

protected theorem nil (depth : Nat) : CommitsWithin depth [] :=
  fun _ he => absurd he List.not_mem_nil

protected theorem append (h : CommitsWithin depth es) (h' : CommitsWithin depth fs) :
    CommitsWithin depth (es ++ fs) := by
  intro e he
  rcases List.mem_append.mp he with he | he
  · exact h e he
  · exact h' e he

protected theorem mono (h : CommitsWithin depth es) (le : outer ≤ depth) : CommitsWithin outer es :=
  fun e he committed act => Nat.lt_of_le_of_lt le (h e he committed act)

/-- One event that commits nothing, or a transaction that lies so deep. -/
protected theorem single {e : Event}
    (h : ∀ committed, e.act = .committed committed → depth < committed) :
    CommitsWithin depth [e] := by
  intro f hf
  rw [List.mem_singleton.mp hf]
  exact h

/-- A transaction around the events. -/
protected theorem around {last : Event} (h : CommitsWithin depth es) (time : Instant) (number : Nat)
    (closed : ∀ committed, last.act = .committed committed → depth < committed) :
    CommitsWithin depth (⟨time, .began number⟩ :: es ++ [last]) := by
  have hbegan : CommitsWithin depth [⟨time, .began number⟩] := .single nofun
  exact (hbegan.append h).append (.single closed)

end CommitsWithin

/-! ## Acts -/

/-- The act opens or closes a transaction. -/
def Act.transacts : Act → Bool
  | .began _ | .committed _ | .rolledBack _ => true
  | _ => false

theorem Act.not_committed {act : Act} (plain : act.transacts = false) (depth : Nat) :
    act ≠ .committed depth := by
  rintro rfl
  cases plain

/-- An act that concerns no transaction as a whole leaves all of them open. -/
theorem Act.keeps {act : Act} (plain : act.transacts = false) (time : Instant) :
    ∃ statements, Keeps [⟨time, act⟩] statements := by
  cases act with
  | began depth => cases plain
  | committed depth => cases plain
  | rolledBack depth => cases plain
  | executed sql failed =>
    cases failed with
    | false => exact ⟨[sql], Keeps.nil.accepted time sql⟩
    | true => exact ⟨[], Keeps.nil.skip fun _ => rfl⟩
  | _ => exact ⟨[], Keeps.nil.skip fun _ => rfl⟩

/-! ## Closing -/

/-- **Events close what they open,** from one session to another: the same transactions are open
    afterwards as before, and all that is committed lies within these. -/
structure Closes (s : Session) (events : List Event) (t : Session) : Prop where
  saved : t.server.saved = s.server.saved
  keeps : ∃ statements, Keeps events statements
  within : CommitsWithin s.server.depth events

namespace Closes

variable {s t u : Session} {es fs : List Event}

theorem depth (h : Closes s es t) : t.server.depth = s.server.depth :=
  congrArg List.length h.saved

/-- Nothing is shown. -/
protected theorem idle (saved : t.server.saved = s.server.saved) : Closes s [] t :=
  ⟨saved, ⟨[], .nil⟩, .nil _⟩

/-- One event that concerns no transaction as a whole. -/
protected theorem plain {e : Event} (plain : e.act.transacts = false) : Closes s [e] s :=
  ⟨rfl, Act.keeps plain e.time, .single fun depth committed =>
    absurd committed (Act.not_committed plain depth)⟩

protected theorem append (h : Closes s es t) (h' : Closes t fs u) : Closes s (es ++ fs) u := by
  obtain ⟨xs, hxs⟩ := h.keeps
  obtain ⟨ys, hys⟩ := h'.keeps
  -- Both parts have the same transactions around them.
  have hwithin := h'.within
  rw [h.depth] at hwithin
  exact ⟨h'.saved.trans h.saved, ⟨xs ++ ys, hxs.append hys⟩, h.within.append hwithin⟩

/-- A transaction that is committed. -/
protected theorem committed (h : Closes { s with server := s.server.begin } es t) :
    Closes s
      (⟨s.clock, .began (s.server.depth + 1)⟩ :: es ++ [⟨t.clock, .committed t.server.depth⟩])
      { t with server := t.server.commit } := by
  obtain ⟨xs, hxs⟩ := h.keeps
  have hdepth : t.server.depth = s.server.depth + 1 := h.depth
  refine ⟨?_, ⟨xs, hxs.committed _ _ _ _⟩, ?_⟩
  · show t.server.saved.tail = s.server.saved
    rw [h.saved]
    rfl
  · -- The work commits deeper still; what is left is the transaction itself.
    refine (h.within.mono (Nat.le_succ s.server.depth)).around s.clock _ ?_
    intro depth committed
    rw [hdepth] at committed
    cases committed
    exact Nat.lt_succ_self s.server.depth

end Closes

/-! ## Restoring -/

/-- **Events restore a server,** from one session to another: the table and the open transactions are
    the same afterwards as before, no statement is kept, and what is committed lies within a transaction
    that was not open before. -/
structure Restores (s : Session) (events : List Event) (t : Session) : Prop where
  applied : t.server.applied = s.server.applied
  saved : t.server.saved = s.server.saved
  keeps : Keeps events []
  within : CommitsWithin (s.server.depth + 1) events

namespace Restores

variable {s t u : Session} {es fs : List Event}

theorem closes (h : Restores s es t) : Closes s es t :=
  ⟨h.saved, ⟨[], h.keeps⟩, h.within.mono (Nat.le_succ s.server.depth)⟩

protected theorem append (h : Restores s es t) (h' : Restores t fs u) :
    Restores s (es ++ fs) u := by
  have hwithin := h'.within
  rw [h.closes.depth] at hwithin
  exact ⟨h'.applied.trans h.applied, h'.saved.trans h.saved, h.keeps.append h'.keeps,
    h.within.append hwithin⟩

/-- Entries of the log. -/
protected theorem logged (drifts : s.Drifts t) (logs : ∀ e ∈ es, ∃ entry, e.act = .log entry) :
    Restores s es t := by
  refine ⟨drifts.applied, drifts.saved, .logged logs, fun e he depth committed => ?_⟩
  obtain ⟨entry, hlog⟩ := logs e he
  rw [hlog] at committed
  cases committed

/-- **A transaction that is rolled back,** whatever was done and committed within it. -/
protected theorem rolledBack (h : Closes { s with server := s.server.begin } es t) :
    Restores s
      (⟨s.clock, .began (s.server.depth + 1)⟩ :: es ++ [⟨t.clock, .rolledBack t.server.depth⟩])
      { t with server := t.server.rollback } := by
  obtain ⟨xs, hxs⟩ := h.keeps
  -- The innermost copy of the table is still the one from the start of this transaction.
  have hsaved : t.server.saved = s.server.applied :: s.server.saved := h.saved
  refine ⟨?_, ?_, hxs.rolledBack _ _ _ _, h.within.around s.clock _ nofun⟩
  · show t.server.saved.head?.getD t.server.applied = s.server.applied
    rw [hsaved]
    rfl
  · show t.server.saved.tail = s.server.saved
    rw [hsaved]
    rfl

end Restores

/-! ## Runs -/

namespace Run

variable {α β : Type}

/-- A run that closes every transaction that it opens and no other, wherever it starts. -/
def Closing (run : Run α) : Prop :=
  ∀ s, Closes s (run s).events (run s).session

theorem closing_pure (a : α) : Closing (pure a : Run α) :=
  fun _ => .idle rfl

theorem Closing.bind {first : Run α} {next : α → Run β} (h : Closing first)
    (h' : ∀ a, Closing (next a)) : Closing (first >>= next) :=
  fun s => (h s).append (h' (first s).value (first s).session)

theorem Closing.map {run : Run α} (f : α → β) (h : Closing run) : Closing (f <$> run) := by
  intro s
  rw [map_apply]
  exact h s

theorem closing_waitUntil (moment : Instant) : Closing (waitUntil moment) :=
  fun _ => .idle rfl

theorem closing_report {act : Act} (plain : act.transacts = false) : Closing (report act) :=
  fun _ => .plain plain

theorem closing_log (entry : LogEntry) : Closing (log entry) :=
  closing_report rfl

/-- A change that opens and closes no transaction. -/
theorem closing_onServer {change : Server → α × Server}
    (saved : ∀ server, (change server).2.saved = server.saved) : Closing (onServer change) :=
  fun s => .idle (saved s.server)

theorem closing_check (sql : String) : Closing (check sql) :=
  closing_onServer fun _ => rfl

theorem closing_executeAll (statements : List String) : Closing (executeAll statements) := by
  induction statements with
  | nil => exact closing_pure _
  | cons sql rest ih =>
    have hexecute : Closing (execute sql) :=
      (closing_check sql).bind fun _ => (closing_report rfl).bind fun _ => closing_pure _
    refine hexecute.bind fun result => ?_
    cases result with
    | error error => exact closing_pure _
    | ok _ => exact ih

/-- A run that leaves the server as it was if it fails, wherever it starts. -/
def Undoing (run : Run (Except DbError α)) : Prop :=
  ∀ s error, (run s).value = .error error → Restores s (run s).events (run s).session

/-- **A transaction takes back everything if it fails.** -/
theorem Closing.undoing {work : Run (Except DbError α)} (h : Closing work) :
    Undoing (transaction work) := by
  intro s error failed
  obtain ⟨⟨value, es, t⟩, hwork⟩ : ∃ o, work { s with server := s.server.begin } = o := ⟨_, rfl⟩
  have hcloses := h { s with server := s.server.begin }
  rw [hwork] at hcloses
  cases value with
  | ok a =>
    rw [transaction_of_ok hwork] at failed
    cases failed
  | error error =>
    rw [transaction_of_error hwork]
    exact .rolledBack hcloses

/-- **A transaction closes what it opens if its work does.** -/
theorem Closing.transaction {work : Run (Except DbError α)} (h : Closing work) :
    Closing (transaction work) := by
  intro s
  obtain ⟨⟨value, es, t⟩, hwork⟩ : ∃ o, work { s with server := s.server.begin } = o := ⟨_, rfl⟩
  have hcloses := h { s with server := s.server.begin }
  rw [hwork] at hcloses
  cases value with
  | ok a =>
    rw [transaction_of_ok hwork]
    exact .committed hcloses
  | error error =>
    rw [transaction_of_error hwork]
    exact (Restores.rolledBack hcloses).closes

end Run

end StatSchema
