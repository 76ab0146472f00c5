import StatSchema.Proofs.Block.Atomicity
import StatSchema.Proofs.Block.Schedule
import StatSchema.Proofs.Block.Twins

/-!
# `StatSchema.Proofs.Block.AnyError` — a block does not look at what kind of error it meets

Errors are sorted by their SQLSTATE for the log alone. Let the same statements be refused in two runs of a
block, or the same attempts fail, but with other errors: the attempts begin and end at the same moments,
the pauses between them are as long, and the block yields the same. Only the warnings that report the
failed attempts may differ, and these in nothing but the error that they show (`any_error`).

## Contents
- **What may differ.** `Fault.SameRule`, `Trial.SameCourse`, `Act.SameButError`,
  `Event.SameButError`.
- **Twins.** `firstHit_sameRule`, `Twinning.anyError`, `Twinning.anyError_attemptOnce`.
- **Main result.** `SameButErrors`, `any_error`.
-/

namespace StatSchema

variable {α : Type}

/-! ## What may differ -/

/-- Two rules that refuse the same statements, perhaps with different errors. -/
def Fault.SameRule (f f' : Fault) : Prop :=
  f' = { f with error := f'.error }

/-- Two attempts that last as long and end with the same value or with any errors. -/
inductive Trial.SameCourse : Trial α → Trial α → Prop where
  | ends (after : Nat) {result result' : Except DbError α}
      (h : Ends (fun _ _ => True) result result') :
      SameCourse (.ends after result) (.ends after result')
  | hangs : SameCourse .hangs .hangs

/-- Two acts that are the same, or the two warnings that the same attempt has failed, with different
    errors. -/
inductive Act.SameButError : Act → Act → Prop where
  | same (a : Act) : SameButError a a
  | failed (label : String) (attempt allowed : Nat) (error error' : SchemaError) :
      SameButError (.log (.attemptFailed label attempt allowed error))
        (.log (.attemptFailed label attempt allowed error'))

/-- Two events at the same moment that are the same, or the two warnings that the same attempt has
    failed. -/
def Event.SameButError (e e' : Event) : Prop :=
  e'.time = e.time ∧ e.act.SameButError e'.act

/-- Events that are not the same are warnings. -/
theorem Event.SameButError.eq_or_warning {e e' : Event} (h : e.SameButError e') :
    e' = e ∨ ∃ entry entry' : LogEntry, entry.level = .warning ∧ entry'.level = .warning ∧
      e = ⟨e.time, .log entry⟩ ∧ e' = ⟨e.time, .log entry'⟩ := by
  obtain ⟨time, act⟩ := e
  obtain ⟨time', act'⟩ := e'
  obtain ⟨rfl, hact⟩ := h
  cases hact with
  | same => exact .inl rfl
  | failed => exact .inr ⟨_, _, rfl, rfl, rfl, rfl⟩

/-! ## Twins -/

/-- **Rules that differ in their errors refuse the same statements**, and go on to differ in nothing
    else. -/
theorem firstHit_sameRule (sql : List Char) {faults faults' : List Fault}
    (h : List.Forall₂ Fault.SameRule faults faults') :
    Option.Rel (fun _ _ => True) (firstHit sql faults).1 (firstHit sql faults').1 ∧
      List.Forall₂ Fault.SameRule (firstHit sql faults).2 (firstHit sql faults').2 := by
  induction h with
  | nil => exact ⟨.none, .nil⟩
  | @cons f f' faults faults' hf hrest ih =>
    obtain ⟨error', rfl⟩ : ∃ error', f' = { f with error := error' } := ⟨_, hf⟩
    have hconcerns : ({ f with error := error' } : Fault).concerns sql = f.concerns sql := rfl
    obtain ⟨hhits, hleft⟩ := ih
    cases concerned : f.concerns sql with
    | false =>
      rw [firstHit_of_unconcerned concerned, firstHit_of_unconcerned (hconcerns.trans concerned)]
      exact ⟨hhits, .cons rfl hleft⟩
    | true =>
      by_cases hskip : f.skip = 0
      · rw [firstHit_of_refused concerned hskip,
          firstHit_of_refused (hconcerns.trans concerned) hskip]
        exact ⟨.some trivial, .cons rfl hrest⟩
      · rw [firstHit_of_skipped concerned hskip,
          firstHit_of_skipped (hconcerns.trans concerned) hskip]
        exact ⟨hhits, .cons rfl hleft⟩

namespace Twinning

/-- **Two runs that differ in the errors they meet.** -/
def anyError : Twinning where
  faults := List.Forall₂ Fault.SameRule
  error := fun _ _ => True
  act := Act.SameButError
  lost := Act.SameButError
  sameError := fun _ => trivial
  plain := fun a _ => .same a
  statement := fun sql _ _ h => firstHit_sameRule sql.toList h

theorem anyError_reports (query : String) : anyError.Reports query query := by
  constructor
  · intro label attempt allowed e e' _
    exact .failed label attempt allowed (.classify e) (.classify e')
  · intro entry hquery
    have hsame : entry.withQuery query = entry := by
      cases entry <;> cases hquery <;> rfl
    rw [hsame]
    exact Act.SameButError.same _

/-- Attempts that take the same course. -/
theorem anyError_attemptOnce (due k : Nat) {script script' : Nat → Trial α}
    (h : (script k).SameCourse (script' k)) :
    anyError.Twins anyError.AttemptsEnd (Block.attemptOnce due (Block.scripted script) k)
      (Block.attemptOnce due (Block.scripted script') k) := by
  refine Twins.now.after fun now => ?_
  unfold Block.scripted
  rw [bind_assoc, bind_assoc]
  refine (Twins.report (Act.SameButError.same _)).after fun _ => ?_
  obtain ⟨trial, htrial⟩ : ∃ trial, script k = trial := ⟨_, rfl⟩
  obtain ⟨trial', htrial'⟩ : ∃ trial', script' k = trial' := ⟨_, rfl⟩
  rw [htrial, htrial'] at h
  rw [htrial, htrial']
  cases h with
  | ends after hresult =>
    simp only [pure_bind]
    exact .conduct after _ (.pure hresult) (.pure rfl)
  | hangs =>
    simp only [pure_bind]
    exact .cutOff _ (.pure rfl)

end Twinning

/-! ## Main result -/

/-- **Two runs that differ in nothing but the errors that their warnings show.** -/
structure SameButErrors (o o' : Outcome (Except SchemaError α)) : Prop where
  /-- They yield the same value or fail with the same error. -/
  value : o'.value = o.value
  /-- The server sees the same at the same moments, and attempts start with the same time left. -/
  server : serverEvents o'.events = serverEvents o.events
  /-- The log is the same, but for the errors of failed attempts. -/
  events : List.Forall₂ Event.SameButError o.events o'.events
  /-- They take as long. -/
  clock : o'.session.clock = o.session.clock

/-- The server sees no warnings. -/
theorem serverEvents_sameButError {es es' : List Event} (h : List.Forall₂ Event.SameButError es es') :
    serverEvents es' = serverEvents es := by
  induction h with
  | nil => rfl
  | @cons e e' es es' hpair _ ih =>
    unfold serverEvents at ih ⊢
    rcases hpair.eq_or_warning with rfl | ⟨entry, entry', -, -, he, he'⟩
    · rw [List.filter_cons, List.filter_cons, ih]
    · rw [he, he']
      exact ih

theorem SameButErrors.of_alike {failed : Bool} {o o' : Outcome (Except SchemaError α)}
    (h : Twinning.anyError.Alike (Ends Eq) failed o o') : SameButErrors o o' := by
  have events : List.Forall₂ Event.SameButError o.events o'.events := by
    refine h.events.imp fun e e' ⟨htime, hact⟩ => ⟨htime, ?_⟩
    rcases hact with hact | ⟨-, hlost⟩
    · exact hact
    · exact hlost
  exact ⟨h.value.eq, serverEvents_sameButError events, events, h.session.clock⟩

/-- **A block does not look at what kind of error it meets.** Let the same statements be refused in two
    runs of a block of statements, or the same attempts fail in two runs of any block, but with other
    errors: both runs do the same at the same moments and yield the same, and only the errors that their
    warnings show differ. -/
theorem any_error (policy : Policy) (label : String) :
    (∀ (statements : List String) (s : Session) (faults' : List Fault),
        List.Forall₂ Fault.SameRule s.server.faults faults' →
        SameButErrors (runStatements policy label statements s)
          (runStatements policy label statements (s.refault faults'))) ∧
      ∀ (query : String) (script script' : Nat → Trial α) (s : Session),
        (∀ k, (script k).SameCourse (script' k)) →
        SameButErrors ((⟨policy, label, query⟩ : Block).retry (Block.scripted script) s)
          ((⟨policy, label, query⟩ : Block).retry (Block.scripted script') s) := by
  constructor
  · intro statements s faults' h
    have same : List.Forall₂ Twinning.anyError.SendsAlike statements statements :=
      List.forall₂_same.mpr fun sql _ => .refl sql
    exact .of_alike (Twinning.Ending.runStatements policy label same (Twinning.anyError_reports _) s
      (s.refault faults') ⟨faults', rfl, h⟩)
  · intro query script script' s h
    have same : List.Forall₂ Fault.SameRule s.server.faults s.server.faults :=
      List.forall₂_same.mpr fun _ _ => rfl
    exact .of_alike (Twinning.Ending.retry (b := ⟨policy, label, query⟩)
      (Twinning.anyError_reports query) (fun due k => Twinning.anyError_attemptOnce due k (h k)) s s
      ⟨s.server.faults, rfl, same⟩)

/-- An attempt that fails at once with an error, and one that succeeds after four milliseconds. -/
def failingFirst (error : DbError) : Nat → Trial Nat
  | 0 => .ends 0 (.error error)
  | _ + 1 => .ends 4 (.ok 7)

/-- A rule that refuses the first statement with an error. -/
def refusingFirst (error : DbError) : Fault := ⟨"SELECT", 0, some 1, error⟩

/-- An error that passes, by its SQLSTATE. -/
def deadlockDetected : DbError := .exec (.server (some "40P01") "deadlock detected")

/-- An error that does not pass. -/
def syntaxError : DbError := .query (.server (some "42601") "syntax error")

/-- A syntax error is retried like a deadlock, as often and after the same pauses. -/
theorem any_error_syntaxError :
    List.Forall₂ Fault.SameRule [refusingFirst deadlockDetected] [refusingFirst syntaxError] ∧
      (∀ k, (failingFirst deadlockDetected k).SameCourse (failingFirst syntaxError k)) ∧
      SameButErrors
        (runStatements .standard "block" ["SELECT 1"]
          ⟨0, { faults := [refusingFirst deadlockDetected] }⟩)
        (runStatements .standard "block" ["SELECT 1"]
          ⟨0, { faults := [refusingFirst syntaxError] }⟩) ∧
      SameButErrors
        ((⟨.standard, "block", "SELECT 1"⟩ : Block).retry
          (Block.scripted (failingFirst deadlockDetected)) {})
        ((⟨.standard, "block", "SELECT 1"⟩ : Block).retry
          (Block.scripted (failingFirst syntaxError)) {}) := by
  have rules : List.Forall₂ Fault.SameRule [refusingFirst deadlockDetected]
      [refusingFirst syntaxError] := .cons rfl .nil
  have courses : ∀ k, (failingFirst deadlockDetected k).SameCourse (failingFirst syntaxError k) := by
    intro k
    cases k with
    | zero => exact .ends 0 (.error trivial)
    | succ k => exact .ends 4 (.ok 7)
  obtain ⟨statements, attempts⟩ := any_error (α := Nat) .standard "block"
  exact ⟨rules, courses,
    statements ["SELECT 1"] ⟨0, { faults := [refusingFirst deadlockDetected] }⟩ _ rules,
    attempts "SELECT 1" _ _ {} courses⟩

end StatSchema
