import StatSchema.Proofs.Block.Nesting
import StatSchema.Proofs.Migration.Consistency

/-!
# `StatSchema.Proofs.Migration.Unwinding` — a failed call leaves everything as it was

A call may fail at any statement of any object, at the row that records a migration, or before anything
is sent; blocks of the same call may have been committed and rows written by then. All that happens
within one transaction, and every part of it closes the transactions that it opens. So when that
transaction is rolled back, nothing of the call is left. Nothing is assumed of the registry or of its
table: the rows may name any migrations, in any order, also unknown ones.

## Contents
- **Objects.** `closing_createEach`, `Migration.closing_up`, `Migration.closing_down`.
- **Steps.** `closing_applyEach`, `closing_removeEach`; `undoing_migrate`, `undoing_rollback`.
- **Calls.** `Run.Undoing.wrapped`, `Call.undoing`.
- **Main result.** `failed_call_restores`.
-/

namespace StatSchema

open Run

/-! ## Objects -/

theorem Run.Closing.andThen {first next : Run (Except DbError Unit)} (h : first.Closing)
    (h' : next.Closing) : (Run.andThen first next).Closing := by
  refine h.bind fun result => ?_
  cases result with
  | error error => exact closing_pure _
  | ok _ => exact h'

theorem closing_runInstallation (label : String) (statements : List String) :
    (runInstallation label statements).Closing :=
  (closing_runStatements .standard label statements).bind fun _ => closing_pure _

theorem closing_createEach (objects : List SchemaObject) : (createEach objects).Closing := by
  induction objects with
  | nil => exact closing_pure _
  | cons o rest ih =>
    exact (closing_log _).bind fun _ => (closing_runInstallation o.name o.createStatements).andThen ih

theorem closing_createChecked (c : Catalog) (objects : List SchemaObject) :
    (createChecked c objects).Closing := by
  unfold createChecked
  cases c.validate with
  | error error => exact closing_pure _
  | ok _ => exact closing_createEach objects

theorem closing_createPublication (env : Environment) : (createPublication env).Closing := by
  unfold createPublication
  cases Publisher.ofEnvironment env with
  | error error => exact closing_pure _
  | ok publisher =>
    refine (closing_log _).bind fun _ => ?_
    cases Publication.createStatements publisher .full with
    | error error => exact closing_pure _
    | ok statements => exact closing_runInstallation _ statements

theorem Migration.closing_up (env : Environment) (m : Migration) : (m.up env).Closing := by
  unfold Migration.up
  cases m.content with
  | objects group => exact closing_createChecked .full group
  | publication => exact closing_createPublication env

theorem Migration.closing_down (m : Migration) : m.down.Closing := by
  unfold Migration.down
  cases m.content with
  | objects group => exact (closing_log _).bind fun _ => closing_runInstallation _ _
  | publication => exact closing_runInstallation _ _

/-! ## Steps -/

theorem closing_changeRows (sql : String) {act : Bool → Act}
    (plain : ∀ failed, (act failed).transacts = false) (change : List String → List String) :
    (changeRows sql act change).Closing := by
  refine (closing_check sql).bind fun result => (closing_report (plain _)).bind fun _ => ?_
  cases result with
  | error error => exact (closing_pure ()).bind fun _ => closing_pure _
  | ok _ => exact (closing_onServer fun _ => rfl).bind fun _ => closing_pure _

theorem closing_applyEach (r : Registry) (env : Environment) (migrations : List Migration) :
    (r.applyEach env migrations).Closing := by
  induction migrations with
  | nil => exact closing_pure _
  | cons m rest ih =>
    have hrecord : (r.record m.name).Closing := by
      rw [Registry.record_eq]
      exact closing_changeRows _ (fun _ => rfl) _
    exact (m.closing_up env).andThen (hrecord.andThen ih)

theorem closing_removeEach (r : Registry) (migrations : List Migration) :
    (r.removeEach migrations).Closing := by
  induction migrations with
  | nil => exact closing_pure _
  | cons m rest ih =>
    have herase : (r.erase m.name).Closing := by
      rw [Registry.erase_eq]
      exact closing_changeRows _ (fun _ => rfl) _
    exact m.closing_down.andThen (herase.andThen ih)

/-- A run that only logs leaves the server as it was. -/
theorem Run.Quiet.restores {α : Type} {run : Run α} (h : run.Quiet) (s : Session) :
    Restores s (run s).events (run s).session :=
  .logged (h s).1 (h s).2

/-- Reading the table shows nothing and changes nothing but the faults. -/
theorem closing_readThen (r : Registry) {read : Run (Except DbError (List Migration))}
    {steps : List Migration → Run (Except DbError Unit)} (quiet : read.Quiet)
    (h : ∀ migrations, (steps migrations).Closing) : (r.readThen read steps).Closing := by
  have hread : read.Closing := fun s => (quiet.restores s).closes
  refine Closing.andThen (closing_check _) (hread.bind fun read => ?_)
  cases read with
  | error error => exact closing_pure _
  | ok migrations => exact h migrations

theorem undoing_migrate (r : Registry) (env : Environment) (steps : Option Nat) :
    (r.migrate env steps).Undoing := by
  rw [Registry.migrate_eq]
  exact (closing_readThen r (quiet_pending r) fun migrations =>
    closing_applyEach r env (Registry.limited steps migrations)).undoing

theorem undoing_rollback (r : Registry) (steps : Option Nat) : (r.rollback steps).Undoing := by
  rw [Registry.rollback_eq]
  exact (closing_readThen r (quiet_applied r) fun migrations =>
    closing_removeEach r (Registry.limited steps migrations.reverse)).undoing

/-! ## Calls -/

/-- A log around a run keeps nothing. -/
theorem Run.Undoing.wrapped {α : Type} {run inner : Run (Except DbError α)} (h : inner.Undoing)
    (wraps : run.Wraps inner) : run.Undoing := by
  intro s error failed
  obtain ⟨t, before, after, hstart, hend, hvalue, hevents, hbefore, hafter⟩ := wraps s
  rw [hevents]
  have hinner := h t error (hvalue.symm.trans failed)
  exact ((Restores.logged hstart hbefore).append hinner).append (.logged hend hafter)

/-- **Every call leaves the server as it was if it fails.** -/
theorem Call.undoing (r : Registry) (c : Call) : (c.run r).Undoing := by
  -- The transaction of a call takes back what it did; all that surrounds it only logs.
  cases c with
  | up env steps => exact (undoing_migrate r env steps).wrapped (Call.up_wraps r env steps)
  | down steps => exact (undoing_rollback r steps).wrapped (Call.down_wraps r steps)
  | report => exact fun s _ _ => (quiet_reportStatus r).restores s
  | refault faults => exact fun s error failed => by cases failed

/-! ## Main result -/

/-- **A failed call leaves everything as it was.** Whatever the table holds before it, whatever the
    server refuses and however it answers requests for transactions: the table is the same afterwards, no
    transaction is left open, no transaction of its own is committed, and no statement is kept. -/
theorem failed_call_restores (r : Registry) (c : Call) (clock : Instant) (applied : List String)
    (faults : List Fault) (admissions : List Admission) {after : Outcome (Except DbError Unit)}
    {error : DbError} (called : c.run r ⟨clock, { applied, faults, admissions }⟩ = after)
    (failed : after.value = .error error) :
    after.session.server.applied = applied ∧ after.session.server.saved = [] ∧
      (∀ e ∈ after.events, e.act ≠ .committed 1) ∧ (Journal.replay {} after.events).kept = [] := by
  subst called
  have restores := c.undoing r ⟨clock, { applied, faults, admissions }⟩ error failed
  refine ⟨restores.applied, restores.saved, fun e he committed => ?_, restores.keeps.kept⟩
  -- No transaction was open before, so one within that of the call has at least the depth 2.
  exact Nat.lt_irrefl 1 (restores.within e he 1 committed)

/-- A removal of the last migration alone, which fails at the row that records it. -/
def rowRefused : Outcome (Except DbError Unit) :=
  (Call.down none).run .primary
    ⟨0, { applied := ["m20231213_000001_create_pos_statistic_views"],
          faults := [⟨"DELETE", 0, none, .custom "disk full"⟩] }⟩

/-- By then the statements that drop its objects have been committed within the call. -/
theorem failed_call_restores_rowRefused :
    rowRefused.value = .error (.custom "disk full") ∧
      (∃ e ∈ rowRefused.events, e.act = .committed 2) ∧
      rowRefused.session.server.applied = ["m20231213_000001_create_pos_statistic_views"] ∧
      rowRefused.session.server.saved = [] ∧
      (∀ e ∈ rowRefused.events, e.act ≠ .committed 1) ∧
      (Journal.replay {} rowRefused.events).kept = [] := by
  obtain ⟨failed, committed⟩ : rowRefused.value = .error (.custom "disk full") ∧
      ∃ e ∈ rowRefused.events, e.act = .committed 2 := by decide +kernel
  exact ⟨failed, committed, failed_call_restores .primary (.down none) 0 _ _ [] rfl failed⟩

end StatSchema
