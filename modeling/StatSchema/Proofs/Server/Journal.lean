import StatSchema.Server.Run

/-!
# `StatSchema.Proofs.Server.Journal` — which statements a server keeps

A server keeps a statement that it accepted once every transaction around it is committed. The journal
holds what has been accepted, one list for each open transaction, and the events of a run say how it
changes. Most runs close the transactions that they open; what such a run does to a journal is the list
of statements that it keeps (`Keeps`), and these lists add up.

## Contents
- **Journals.** `Journal`, `record`, `replay`, `kept`, `push`.
- **Runs that close what they open.** `Keeps` and its laws: sequences, statements, transactions.
- **Every moment of a run.** `Always` and the same laws for a property of what is done.
- **Sending statements.** `Session.refault`, `Session.Drifts`; `Run.Asked`, `Run.Sent`,
  `Run.executeAll_sent`.
- **Transactions.** `Run.transaction_of_ok`, `Run.transaction_of_error`.
-/

namespace StatSchema

/-! ## Journals -/

/-- The statements that a server has accepted. -/
structure Journal where
  /-- Those of the innermost open transaction; without one, those that are kept for good. -/
  current : List String := []
  /-- Those of the transactions around it, from within; the last are those that are kept for good. -/
  outer : List (List String) := []
  deriving DecidableEq

namespace Journal

/-- What an act does to the journal. -/
def record (j : Journal) : Act → Journal
  | .began _ => ⟨[], j.current :: j.outer⟩
  | .executed sql false => { j with current := j.current ++ [sql] }
  | .committed _ =>
    match j.outer with
    | [] => j
    | around :: outer => ⟨around ++ j.current, outer⟩
  | .rolledBack _ =>
    match j.outer with
    | [] => j
    | around :: outer => ⟨around, outer⟩
  | _ => j

/-- The journal after the events of a run. -/
def replay (j : Journal) : List Event → Journal
  | [] => j
  | e :: events => (j.record e.act).replay events

/-- The statements that are kept for good. -/
def kept (j : Journal) : List String :=
  j.outer.getLast?.getD j.current

/-- The statements that the next one finds done: those kept for good and those of the open
    transactions. -/
def visible (j : Journal) : List String :=
  j.outer.reverse.flatten ++ j.current

/-- Statements added to the innermost transaction. -/
def push (j : Journal) (statements : List String) : Journal :=
  { j with current := j.current ++ statements }

theorem push_nil (j : Journal) : j.push [] = j := by
  rw [push, List.append_nil]

theorem push_push (j : Journal) (xs ys : List String) : (j.push xs).push ys = j.push (xs ++ ys) := by
  rw [push, push, push, List.append_assoc]

theorem visible_push (j : Journal) (xs : List String) : (j.push xs).visible = j.visible ++ xs := by
  rw [push, visible, visible, List.append_assoc]

/-- A transaction that has just begun finds what was done before it. -/
theorem visible_began (j : Journal) (depth : Nat) : (j.record (.began depth)).visible = j.visible := by
  show (j.current :: j.outer).reverse.flatten ++ [] = _
  rw [List.append_nil, List.reverse_cons, List.flatten_append, List.flatten_singleton]
  rfl

theorem replay_append (j : Journal) (es fs : List Event) :
    j.replay (es ++ fs) = (j.replay es).replay fs := by
  induction es generalizing j with
  | nil => rfl
  | cons e es ih => exact ih (j.record e.act)

end Journal

/-! ## Runs that close what they open -/

/-- **Events keep statements** if they add just these to the innermost of the transactions that were
    open before, whatever these are, and leave all of them open. -/
def Keeps (events : List Event) (statements : List String) : Prop :=
  ∀ j : Journal, j.replay events = j.push statements

namespace Keeps

variable {es fs : List Event} {xs ys : List String}

protected theorem nil : Keeps [] [] := fun j => j.push_nil.symm

protected theorem append (hes : Keeps es xs) (hfs : Keeps fs ys) : Keeps (es ++ fs) (xs ++ ys) := by
  intro j
  rw [Journal.replay_append, hes, hfs, Journal.push_push]

/-- What leaves every journal as it is keeps nothing. -/
protected theorem skip {e : Event} (silent : ∀ j : Journal, j.record e.act = j) (h : Keeps es xs) :
    Keeps (e :: es) xs := by
  intro j
  rw [Journal.replay, silent, h]

/-- A statement that is accepted is kept. -/
protected theorem accepted (time : Instant) (sql : String) (h : Keeps es xs) :
    Keeps (⟨time, .executed sql false⟩ :: es) (sql :: xs) := by
  intro j
  show (j.push [sql]).replay es = _
  rw [h, Journal.push_push]
  rfl

/-- Entries of the log keep nothing. -/
protected theorem logged (logs : ∀ e ∈ es, ∃ entry, e.act = .log entry) : Keeps es [] := by
  induction es with
  | nil => exact .nil
  | cons e es ih =>
    obtain ⟨⟨entry, he⟩, hes⟩ := List.forall_mem_cons.mp logs
    exact (ih hes).skip fun j => by rw [he]; rfl

protected theorem allAccepted (time : Instant) (statements : List String) :
    Keeps (statements.map fun sql => ⟨time, .executed sql false⟩) statements := by
  induction statements with
  | nil => exact .nil
  | cons sql rest ih => exact ih.accepted time sql

/-- A transaction that is committed keeps what its work keeps. -/
protected theorem committed (h : Keeps es xs) (t₁ t₂ : Instant) (d₁ d₂ : Nat) :
    Keeps (⟨t₁, .began d₁⟩ :: es ++ [⟨t₂, .committed d₂⟩]) xs := by
  intro j
  rw [Journal.replay_append]
  show (((⟨[], j.current :: j.outer⟩ : Journal).replay es).record (.committed d₂)).replay [] = _
  rw [h]
  rfl

/-- A transaction that is rolled back keeps nothing. -/
protected theorem rolledBack (h : Keeps es xs) (t₁ t₂ : Instant) (d₁ d₂ : Nat) :
    Keeps (⟨t₁, .began d₁⟩ :: es ++ [⟨t₂, .rolledBack d₂⟩]) [] := by
  intro j
  rw [Journal.replay_append]
  show (((⟨[], j.current :: j.outer⟩ : Journal).replay es).record (.rolledBack d₂)).replay [] = _
  rw [h, Journal.push_nil]
  rfl

/-- What is kept for good when no transaction was open before. -/
theorem kept (h : Keeps es xs) : (Journal.replay {} es).kept = xs := by
  rw [h]
  rfl

end Keeps

/-! ## Every moment of a run -/

/-- **A property of what is done holds throughout events,** which start when `before` is done: it holds
    before the first event and after each. -/
def Always (P : List String → Prop) (before : List String) (events : List Event) : Prop :=
  ∀ j : Journal, j.visible = before → ∀ es, es <+: events → P (j.replay es).visible

namespace Always

variable {P : List String → Prop} {before xs ys : List String} {es fs : List Event}

protected theorem nil (h : P before) : Always P before [] := by
  intro j hj es hes
  rw [List.prefix_nil.mp hes]
  exact hj ▸ h

theorem start (h : Always P before es) : P before :=
  h ⟨before, []⟩ rfl [] List.nil_prefix

theorem finish (h : Always P before es) (keeps : Keeps es xs) : P (before ++ xs) := by
  have hlast := h ⟨before, []⟩ rfl es (List.prefix_refl es)
  rw [keeps, Journal.visible_push] at hlast
  exact hlast

/-- One event before others. -/
protected theorem cons {e : Event} {next : List String} (h : P before)
    (step : ∀ j : Journal, j.visible = before → (j.record e.act).visible = next)
    (rest : Always P next es) : Always P before (e :: es) := by
  intro j hj fs hfs
  cases fs with
  | nil => exact hj ▸ h
  | cons f fs =>
    obtain ⟨rfl, hprefix⟩ := List.cons_prefix_cons.mp hfs
    exact rest _ (step j hj) fs hprefix

/-- What leaves every journal as it is. -/
protected theorem skip {e : Event} (silent : ∀ j : Journal, j.record e.act = j)
    (h : Always P before es) : Always P before (e :: es) :=
  .cons h.start (fun j hj => by rw [silent, hj]) h

protected theorem append (hes : Always P before es) (keeps : Keeps es xs)
    (hfs : Always P (before ++ xs) fs) : Always P before (es ++ fs) := by
  intro j hj gs hgs
  -- A moment lies within the first events or after all of them.
  rcases List.prefix_or_prefix_of_prefix hgs (List.prefix_append es fs) with h | ⟨hs, rfl⟩
  · exact hes j hj gs h
  · rw [Journal.replay_append]
    refine hfs _ ?_ hs ((List.prefix_append_right_inj es).mp hgs)
    rw [keeps, Journal.visible_push, hj]

/-- One event after others. -/
protected theorem concat {e : Event} (h : Always P before es) (keeps : Keeps (es ++ [e]) xs)
    (last : P (before ++ xs)) : Always P before (es ++ [e]) := by
  intro j hj fs hfs
  rcases List.prefix_concat_iff.mp hfs with rfl | hfs
  · rw [keeps, Journal.visible_push, hj]
    exact last
  · exact h j hj fs hfs

/-- Statements that are accepted one after the other. -/
protected theorem allAccepted (time : Instant) {statements : List String}
    (h : ∀ ys, ys <+: statements → P (before ++ ys)) :
    Always P before (statements.map fun sql => ⟨time, .executed sql false⟩) := by
  induction statements generalizing before with
  | nil =>
    have hnil := h [] List.nil_prefix
    rw [List.append_nil] at hnil
    exact .nil hnil
  | cons sql rest ih =>
    have hnil := h [] List.nil_prefix
    rw [List.append_nil] at hnil
    have hrest : Always P (before ++ [sql]) (rest.map fun sql => ⟨time, .executed sql false⟩) := by
      refine ih fun ys hys => ?_
      rw [List.append_assoc]
      exact h (sql :: ys) (List.cons_prefix_cons.mpr ⟨rfl, hys⟩)
    refine .cons hnil (fun j hj => ?_) hrest
    show (j.push [sql]).visible = _
    rw [Journal.visible_push, hj]

/-- A transaction that has begun. -/
protected theorem began (h : Always P before es) (time : Instant) (depth : Nat) :
    Always P before (⟨time, .began depth⟩ :: es) :=
  .cons h.start (fun j hj => (j.visible_began depth).trans hj) h

/-- A transaction that is committed. -/
protected theorem committed (h : Always P before es) (keeps : Keeps es xs) (t₁ t₂ : Instant)
    (d₁ d₂ : Nat) : Always P before (⟨t₁, .began d₁⟩ :: es ++ [⟨t₂, .committed d₂⟩]) :=
  (h.began t₁ d₁).concat (keeps.committed t₁ t₂ d₁ d₂) (h.finish keeps)

/-- A transaction that is rolled back. -/
protected theorem rolledBack (h : Always P before es) (keeps : Keeps es xs) (t₁ t₂ : Instant)
    (d₁ d₂ : Nat) : Always P before (⟨t₁, .began d₁⟩ :: es ++ [⟨t₂, .rolledBack d₂⟩]) := by
  refine (h.began t₁ d₁).concat (keeps.rolledBack t₁ t₂ d₁ d₂) ?_
  rw [List.append_nil]
  exact h.start

end Always

/-! ## Sending statements -/

/-- The session with other faults. -/
def Session.refault (s : Session) (faults : List Fault) : Session :=
  { s with server := { s.server with faults } }

/-- A session drifts into another if only the clock and the faults of the server differ. -/
def Session.Drifts (s t : Session) : Prop :=
  ∃ clock faults, t = { s.refault faults with clock }

protected theorem Session.Drifts.refl (s : Session) : s.Drifts s :=
  ⟨s.clock, s.server.faults, rfl⟩

protected theorem Session.Drifts.trans {s t u : Session} (hst : s.Drifts t) (htu : t.Drifts u) :
    s.Drifts u := by
  obtain ⟨_, _, rfl⟩ := hst
  obtain ⟨clock, faults, rfl⟩ := htu
  exact ⟨clock, faults, rfl⟩

theorem Session.Drifts.applied {s t : Session} (h : s.Drifts t) :
    t.server.applied = s.server.applied := by
  obtain ⟨_, _, rfl⟩ := h
  rfl

theorem Session.Drifts.saved {s t : Session} (h : s.Drifts t) : t.server.saved = s.server.saved := by
  obtain ⟨_, _, rfl⟩ := h
  rfl

theorem Session.Drifts.admissions {s t : Session} (h : s.Drifts t) :
    t.server.admissions = s.server.admissions := by
  obtain ⟨_, _, rfl⟩ := h
  rfl

theorem Session.drifts_refault (s : Session) (faults : List Fault) : s.Drifts (s.refault faults) :=
  ⟨s.clock, faults, rfl⟩

namespace Run

variable {α β : Type}

/-- **How a question to the server ends:** it is answered, or refused. Nothing is shown, and only the
    faults of the server change. -/
def Asked (run : Run (Except DbError α)) (s : Session) (answer : α) : Prop :=
  (∃ faults, run s = ⟨.ok answer, [], s.refault faults⟩) ∨
    ∃ error faults, run s = ⟨.error error, [], s.refault faults⟩

theorem asked_ok (s : Session) (answer : α) :
    (pure (.ok answer) : Run (Except DbError α)).Asked s answer :=
  .inl ⟨s.server.faults, rfl⟩

theorem asked_error (s : Session) (answer : α) (error : DbError) :
    (pure (.error error) : Run (Except DbError α)).Asked s answer :=
  .inr ⟨error, s.server.faults, rfl⟩

/-- A question after one that was answered. -/
theorem Asked.bind {first : Run (Except DbError α)} {next : Except DbError α → Run (Except DbError β)}
    {s : Session} {answer : α} {answer' : β} (h : first.Asked s answer)
    (answered : ∀ faults, (next (.ok answer)).Asked (s.refault faults) answer')
    (refused : ∀ error, next (.error error) = pure (.error error)) :
    (first >>= next).Asked s answer' := by
  rcases h with ⟨faults, h⟩ | ⟨error, faults, h⟩
  · rcases answered faults with ⟨faults', h'⟩ | ⟨error, faults', h'⟩
    · refine .inl ⟨faults', ?_⟩
      rw [bind_of h, h']
      rfl
    · refine .inr ⟨error, faults', ?_⟩
      rw [bind_of h, h']
      rfl
  · refine .inr ⟨error, faults, ?_⟩
    rw [bind_of h, refused error]
    rfl

/-- A server accepts a statement or refuses it, and nothing but its faults changes. -/
theorem check_asked (sql : String) (s : Session) : (check sql).Asked s () := by
  obtain ⟨hit, faults, h⟩ : ∃ hit faults, firstHit sql.toList s.server.faults = (hit, faults) :=
    ⟨_, _, rfl⟩
  cases hit with
  | none =>
    refine .inl ⟨faults, ?_⟩
    rw [check, onServer_apply, Server.check, h]
    rfl
  | some error =>
    refine .inr ⟨error, faults, ?_⟩
    rw [check, onServer_apply, Server.check, h]
    rfl

/-- **How the sending of statements ends:** all are accepted, or they are up to one that is refused, and
    nothing is sent after it. Only the faults of the server change. -/
inductive Sent (s : Session) : List String → Outcome (Except DbError Unit) → Prop where
  | all (statements : List String) (faults : List Fault) :
      Sent s statements
        ⟨.ok (), statements.map fun sql => ⟨s.clock, .executed sql false⟩, s.refault faults⟩
  | upTo (accepted : List String) (refused : String) (rest : List String) (error : DbError)
      (faults : List Fault) :
      Sent s (accepted ++ refused :: rest)
        ⟨.error error,
         (accepted.map fun sql => ⟨s.clock, .executed sql false⟩) ++
           [⟨s.clock, .executed refused true⟩],
         s.refault faults⟩

/-- A statement that is accepted before others are sent. -/
theorem Sent.cons {s : Session} {statements : List String} {o : Outcome (Except DbError Unit)}
    {faults : List Fault} (sql : String) (h : Sent (s.refault faults) statements o) :
    Sent s (sql :: statements)
      ⟨o.value, ⟨s.clock, .executed sql false⟩ :: o.events, o.session⟩ := by
  cases h with
  | all _ faults' => exact .all (sql :: statements) faults'
  | upTo accepted refused rest error faults' =>
    exact .upTo (sql :: accepted) refused rest error faults'

theorem executeAll_sent (statements : List String) (s : Session) :
    Sent s statements (executeAll statements s) := by
  induction statements generalizing s with
  | nil => exact .all [] s.server.faults
  | cons sql rest ih =>
    rcases check_asked sql s with ⟨faults, h⟩ | ⟨error, faults, h⟩
    · have hcons : executeAll (sql :: rest) s =
          ⟨(executeAll rest (s.refault faults)).value,
           ⟨s.clock, .executed sql false⟩ :: (executeAll rest (s.refault faults)).events,
           (executeAll rest (s.refault faults)).session⟩ := by
        rw [executeAll, bind_apply, execute, bind_apply, h]
        rfl
      rw [hcons]
      exact (ih (s.refault faults)).cons sql
    · have hstop : executeAll (sql :: rest) s =
          ⟨.error error, [⟨s.clock, .executed sql true⟩], s.refault faults⟩ := by
        rw [executeAll, bind_apply, execute, bind_apply, h]
        rfl
      rw [hstop]
      exact .upTo [] sql rest error faults

/-! ## Transactions -/

theorem begin_apply (s : Session) :
    begin s =
      ⟨(), [⟨s.clock, .began (s.server.depth + 1)⟩], { s with server := s.server.begin }⟩ := rfl

/-- A transaction whose work succeeds is committed. -/
theorem transaction_of_ok {work : Run (Except DbError α)} {s t : Session} {a : α} {es : List Event}
    (h : work { s with server := s.server.begin } = ⟨.ok a, es, t⟩) :
    transaction work s =
      ⟨.ok a, ⟨s.clock, .began (s.server.depth + 1)⟩ :: es ++ [⟨t.clock, .committed t.server.depth⟩],
       { t with server := t.server.commit }⟩ := by
  rw [transaction, bind_apply, begin_apply, bind_apply, h]
  rfl

/-- A transaction whose work fails is rolled back. -/
theorem transaction_of_error {work : Run (Except DbError α)} {s t : Session} {error : DbError}
    {es : List Event} (h : work { s with server := s.server.begin } = ⟨.error error, es, t⟩) :
    transaction work s =
      ⟨.error error,
       ⟨s.clock, .began (s.server.depth + 1)⟩ :: es ++ [⟨t.clock, .rolledBack t.server.depth⟩],
       { t with server := t.server.rollback }⟩ := by
  rw [transaction, bind_apply, begin_apply, bind_apply, h]
  rfl

end Run

end StatSchema
