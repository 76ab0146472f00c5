import StatSchema.Server.Basic
import StatSchema.Server.Event

/-!
# `StatSchema.Server.Run` — programs that talk to a server

A run takes a session, the clock and the server, and yields a value, the events that it showed and the
session afterwards. Nothing takes time except waiting, so all events between two waits carry the same
moment.

## Contents
- **Runs.** `Session`, `Outcome`, `Run` with its sequencing.
- **Clock.** `now`, `waitUntil`, `longestPause`, `pauseLength`, `sleep`.
- **Events.** `report`, `log`, `logAll`.
- **Statements.** `check`, `execute`, `executeAll`.
- **Transactions.** `requestTransaction`, `begin`, `commit`, `rollback`, `settle`, `transaction`.
-/

namespace StatSchema

/-! ## Runs -/

/-- The clock and the server. -/
structure Session where
  clock : Instant := 0
  server : Server := {}

/-- What a run yields. -/
structure Outcome (α : Type) where
  value : α
  events : List Event
  session : Session

/-- A program that talks to a server. -/
def Run (α : Type) : Type := Session → Outcome α

namespace Run

variable {α β : Type}

/-- Yields a value and shows nothing. -/
protected def pure (a : α) : Run α := fun s => ⟨a, [], s⟩

/-- Runs one program and then the one that its value selects. -/
protected def bind (first : Run α) (next : α → Run β) : Run β := fun s =>
  let a := first s
  let b := next a.value a.session
  ⟨b.value, a.events ++ b.events, b.session⟩

instance : Monad Run where
  pure := Run.pure
  bind := Run.bind

@[simp] theorem pure_apply (a : α) (s : Session) : (pure a : Run α) s = ⟨a, [], s⟩ := rfl

@[simp] theorem bind_apply (first : Run α) (next : α → Run β) (s : Session) :
    (first >>= next) s =
      ⟨(next (first s).value (first s).session).value,
       (first s).events ++ (next (first s).value (first s).session).events,
       (next (first s).value (first s).session).session⟩ := rfl

/-- A sequence whose first program is known. -/
theorem bind_of {first : Run α} {next : α → Run β} {s t : Session} {a : α} {es : List Event}
    (h : first s = ⟨a, es, t⟩) :
    (first >>= next) s = ⟨(next a t).value, es ++ (next a t).events, (next a t).session⟩ := by
  rw [bind_apply, h]

theorem bind_pure_apply (run : Run α) (s : Session) : (run >>= pure) s = run s := by
  rw [bind_apply]
  simp only [pure_apply, List.append_nil]

theorem bind_assoc_apply {γ : Type} (first : Run α) (second : α → Run β) (third : β → Run γ)
    (s : Session) :
    ((first >>= second) >>= third) s = (first >>= fun a => second a >>= third) s := by
  simp only [bind_apply, List.append_assoc]

instance : LawfulMonad Run :=
  LawfulMonad.mk' Run (fun run => funext (bind_pure_apply run)) (fun _ _ => rfl)
    (fun first second third => funext (bind_assoc_apply first second third))

@[simp] theorem map_apply (f : α → β) (run : Run α) (s : Session) :
    (f <$> run) s = ⟨f (run s).value, (run s).events, (run s).session⟩ := by
  rw [map_eq_pure_bind, bind_apply]
  simp only [pure_apply, List.append_nil]

/-! ## Clock -/

/-- The present moment. -/
def now : Run Instant := fun s => ⟨s.clock, [], s⟩

@[simp] theorem now_apply (s : Session) : now s = ⟨s.clock, [], s⟩ := rfl

/-- Waits until a moment that has not passed. -/
def waitUntil (moment : Instant) : Run Unit := fun s => ⟨(), [], { s with clock := moment }⟩

@[simp] theorem waitUntil_apply (moment : Instant) (s : Session) :
    waitUntil moment s = ⟨(), [], { s with clock := moment }⟩ := rfl

/-- The milliseconds of thirty years, after which every pause is over. -/
def longestPause : Nat := 946080000000

/-- How many milliseconds a pause of so many milliseconds takes. -/
def pauseLength (millis : Nat) : Nat :=
  min millis longestPause

theorem pauseLength_eq {millis : Nat} (h : millis ≤ longestPause) : pauseLength millis = millis :=
  Nat.min_eq_left h

/-- Pauses, until the first tick of the clock that is not before the end of the pause. -/
def sleep (pause : Duration) : Run Unit := fun s =>
  ⟨(), [], { s with clock := s.clock + pauseLength (millisUp pause.toNanos) }⟩

@[simp] theorem sleep_apply (pause : Duration) (s : Session) :
    sleep pause s =
      ⟨(), [], { s with clock := s.clock + pauseLength (millisUp pause.toNanos) }⟩ := rfl

/-! ## Events -/

/-- Shows that something happened. -/
def report (act : Act) : Run Unit := fun s => ⟨(), [⟨s.clock, act⟩], s⟩

@[simp] theorem report_apply (act : Act) (s : Session) :
    report act s = ⟨(), [⟨s.clock, act⟩], s⟩ := rfl

/-- Writes an entry to the log. -/
def log (entry : LogEntry) : Run Unit := report (.log entry)

@[simp] theorem log_apply (entry : LogEntry) (s : Session) :
    log entry s = ⟨(), [⟨s.clock, .log entry⟩], s⟩ := rfl

/-- Writes entries to the log. -/
def logAll : List LogEntry → Run Unit
  | [] => pure ()
  | entry :: entries => do
    log entry
    logAll entries

/-! ## Statements -/

/-- Changes the server without showing it, and yields what the change yields. -/
def onServer (change : Server → α × Server) : Run α := fun s =>
  let (a, server) := change s.server
  ⟨a, [], { s with server }⟩

@[simp] theorem onServer_apply (change : Server → α × Server) (s : Session) :
    onServer change s = ⟨(change s.server).1, [], { s with server := (change s.server).2 }⟩ := rfl

/-- Sends a statement that is not shown. -/
def check (sql : String) : Run (Except DbError Unit) := onServer (·.check sql)

/-- Sends a statement. -/
def execute (sql : String) : Run (Except DbError Unit) := do
  let result ← check sql
  report (.executed sql (!result.isOk))
  return result

/-- Sends statements in order, up to the first that is refused. -/
def executeAll : List String → Run (Except DbError Unit)
  | [] => return .ok ()
  | sql :: rest => do
    match ← execute sql with
    | .error error => return .error error
    | .ok () => executeAll rest

/-! ## Transactions -/

/-- Asks the server for a transaction and yields its answer. -/
def requestTransaction : Run Admission := onServer Server.nextAdmission

/-- Opens a transaction. -/
def begin : Run Unit := do
  let depth ← onServer fun server => (server.depth + 1, server.begin)
  report (.began depth)

/-- Closes the innermost transaction and keeps what it did. -/
def commit : Run Unit := do
  let depth ← onServer fun server => (server.depth, server.commit)
  report (.committed depth)

/-- Closes the innermost transaction and undoes what it did. -/
def rollback : Run Unit := do
  let depth ← onServer fun server => (server.depth, server.rollback)
  report (.rolledBack depth)

/-- Closes the innermost transaction: its work is kept if it succeeded. -/
def settle (result : Except DbError α) : Run (Except DbError α) := do
  match result with
  | .ok _ => commit
  | .error _ => rollback
  return result

/-- Does `work` in a transaction of its own. -/
def transaction (work : Run (Except DbError α)) : Run (Except DbError α) := do
  begin
  settle (← work)

end Run

end StatSchema
