import StatSchema.Migration.Logged
import StatSchema.Proofs.Migration.Ledger

/-!
# `StatSchema.Proofs.Migration.Consistency` — the schema and its bookkeeping never drift apart

However often migrations are applied, removed and reported, in whatever numbers, and whatever statements
the server refuses on the way: the versions in the table are those of the first migrations, and what the
server has kept installs exactly their objects.

## Contents
- **Quiet runs.** `Run.Quiet` and its laws; `Run.Wraps`: runs that log around another.
- **Calls.** `Call`, `Call.run`, `runCalls`; `Call.up_wraps`, `Call.down_wraps`; `Steps`,
  `Registry.Sound.call_steps`.
- **Main result.** `Registry.Sound.runCalls_steps`; `primary_sound`, `primary_consistent`.
-/

namespace StatSchema

/-! ## Quiet runs -/

section Quiet

variable {α β : Type}

/-- A run that only logs: it sends no statement that is shown and leaves the table as it is. -/
def Run.Quiet (run : Run α) : Prop :=
  ∀ s, s.Drifts (run s).session ∧ ∀ e ∈ (run s).events, ∃ entry, e.act = .log entry

namespace Run

theorem quiet_pure (a : α) : Quiet (pure a : Run α) :=
  fun s => ⟨.refl s, fun _ he => absurd he List.not_mem_nil⟩

theorem quiet_log (entry : LogEntry) : Quiet (log entry) := by
  refine fun s => ⟨.refl s, fun e he => ?_⟩
  rw [List.mem_singleton.mp he]
  exact ⟨entry, rfl⟩

theorem Quiet.bind {first : Run α} {next : α → Run β} (hfirst : Quiet first)
    (hnext : ∀ a, Quiet (next a)) : Quiet (first >>= next) := by
  intro s
  obtain ⟨hdrift, hlogs⟩ := hfirst s
  obtain ⟨hdrift', hlogs'⟩ := hnext (first s).value (first s).session
  refine ⟨hdrift.trans hdrift', fun e he => ?_⟩
  rcases List.mem_append.mp he with he | he
  · exact hlogs e he
  · exact hlogs' e he

theorem quiet_logAll (entries : List LogEntry) : Quiet (logAll entries) := by
  induction entries with
  | nil => exact quiet_pure ()
  | cons entry rest ih => exact (quiet_log entry).bind fun _ => ih

/-- **A run that logs around another:** before it, and when its result is known, which it passes on. -/
def Wraps (run inner : Run α) : Prop :=
  ∀ s, ∃ t before after, s.Drifts t ∧ (inner t).session.Drifts (run s).session ∧
    (run s).value = (inner t).value ∧ (run s).events = before ++ (inner t).events ++ after ∧
    (∀ e ∈ before, ∃ entry, e.act = .log entry) ∧ ∀ e ∈ after, ∃ entry, e.act = .log entry

protected theorem Wraps.refl (run : Run α) : Wraps run run := fun s =>
  ⟨s, [], [], .refl s, .refl _, rfl, (List.append_nil _).symm, fun _ he => absurd he List.not_mem_nil,
    fun _ he => absurd he List.not_mem_nil⟩

/-- A run after one that only logs. -/
protected theorem Wraps.after {first : Run β} {next : β → Run α} {inner : Run α} (quiet : Quiet first)
    (h : ∀ b, Wraps (next b) inner) : Wraps (first >>= next) inner := by
  intro s
  obtain ⟨hdrifts, hlogs⟩ := quiet s
  obtain ⟨t, before, after, hstart, hend, hvalue, hevents, hbefore, hafter⟩ :=
    h (first s).value (first s).session
  refine ⟨t, (first s).events ++ before, after, hdrifts.trans hstart, hend, hvalue, ?_,
    List.forall_mem_append.mpr ⟨hlogs, hbefore⟩, hafter⟩
  rw [bind_apply, hevents, List.append_assoc, List.append_assoc, List.append_assoc]

/-- A run whose result is logged and passed on. -/
protected theorem Wraps.passedOn {inner : Run α} {next : α → Run α} (quiet : ∀ a, Quiet (next a))
    (passes : ∀ a s, (next a s).value = a) : Wraps (inner >>= next) inner := by
  intro s
  obtain ⟨hdrifts, hlogs⟩ := quiet (inner s).value (inner s).session
  exact ⟨s, [], _, .refl s, hdrifts, passes _ _, rfl, fun _ he => absurd he List.not_mem_nil, hlogs⟩

end Run

theorem quiet_knownRows (r : Registry) : r.knownRows.Quiet := by
  intro s
  rcases knownRows_asked r s with ⟨faults, h⟩ | ⟨error, faults, h⟩
  · rw [h]
    exact ⟨s.drifts_refault faults, fun _ he => absurd he List.not_mem_nil⟩
  · rw [h]
    exact ⟨s.drifts_refault faults, fun _ he => absurd he List.not_mem_nil⟩

theorem quiet_applied (r : Registry) : r.applied.Quiet :=
  (quiet_knownRows r).bind fun _ => Run.quiet_pure _

theorem quiet_pending (r : Registry) : r.pending.Quiet :=
  (quiet_knownRows r).bind fun _ => Run.quiet_pure _

theorem quiet_reportStatus (r : Registry) : r.reportStatus.Quiet := by
  refine (quiet_applied r).bind fun applied => ?_
  cases applied with
  | error error => exact Run.quiet_pure _
  | ok applied =>
    refine (quiet_pending r).bind fun pending => ?_
    cases pending with
    | error error => exact Run.quiet_pure _
    | ok pending =>
      exact (Run.quiet_log _).bind fun _ => (Run.quiet_logAll _).bind fun _ =>
        (Run.quiet_logAll _).bind fun _ => Run.quiet_pure _

/-- Entries of the log leave the schema as it is. -/
theorem Evolves.of_logs {objects present : List SchemaObject} {es : List Event}
    (h : ∀ e ∈ es, ∃ entry, e.act = .log entry) : Evolves objects present es present := by
  induction es with
  | nil => exact .nil objects present
  | cons e es ih =>
    obtain ⟨⟨entry, he⟩, hes⟩ := List.forall_mem_cons.mp h
    exact (ih hes).skip fun j => by rw [he]; rfl

end Quiet

/-! ## Calls -/

/-- What can happen to a registry: a call, or the server comes to refuse other statements. -/
inductive Call where
  | up (env : Environment) (steps : Option Nat)
  | down (steps : Option Nat)
  | report
  | refault (faults : List Fault)

/-- Makes it happen. -/
def Call.run (r : Registry) : Call → Run (Except DbError Unit)
  | .up env steps => r.migrateLogged env steps
  | .down steps => r.rollbackLogged steps
  | .report => r.reportStatus
  | .refault faults => fun s => ⟨.ok (), [], s.refault faults⟩

/-- A call that applies migrations does so in one transaction; all that surrounds it only logs. -/
theorem Call.up_wraps (r : Registry) (env : Environment) (steps : Option Nat) :
    ((Call.up env steps).run r).Wraps (r.migrate env steps) := by
  refine .after (Run.quiet_log _) fun _ => .after (Run.quiet_logAll _) fun _ => ?_
  refine .after (Run.quiet_log _) fun _ => .passedOn (fun result => ?_) fun result s => ?_
  · cases result with
    | ok _ => exact (Run.quiet_log _).bind fun _ => Run.quiet_pure _
    | error error =>
      exact ((Run.quiet_log _).bind fun _ => Run.quiet_log _).bind fun _ => Run.quiet_pure _
  · cases result with
    | ok _ => rfl
    | error error => rfl

/-- So does a call that removes them. -/
theorem Call.down_wraps (r : Registry) (steps : Option Nat) :
    ((Call.down steps).run r).Wraps (r.rollback steps) := by
  refine .after (Run.quiet_log _) fun _ => .passedOn (fun result => ?_) fun result s => ?_
  · cases result with
    | ok _ => exact (Run.quiet_log _).bind fun _ => Run.quiet_pure _
    | error error => exact (Run.quiet_log _).bind fun _ => Run.quiet_pure _
  · cases result with
    | ok _ => rfl
    | error error => rfl

/-- Does one call after the other, whatever each of them yields. -/
def runCalls (r : Registry) : List Call → Run Unit
  | [] => return ()
  | c :: rest => do
    let _ ← c.run r
    runCalls r rest

namespace Registry

variable {α β : Type} {r : Registry} {k : Nat} {s : Session}

/-- **A run takes the table and the schema together** from the first `k` migrations to the first so
    many. -/
def Steps (r : Registry) (k : Nat) (o : Outcome α) : Prop :=
  ∃ k', r.Holds k' o.session ∧ Evolves r.objects (r.installed k) o.events (r.installed k')

theorem Holds.drift {t : Session} (holds : r.Holds k s) (drifts : s.Drifts t) : r.Holds k t :=
  ⟨drifts.applied.trans holds.applied, drifts.saved.trans holds.closed,
    drifts.admissions.trans holds.granted⟩

/-- A run that does all or nothing takes both together. -/
theorem Steps.of_atomic {k' : Nat} {o : Outcome (Except DbError Unit)} (holds : r.Holds k s)
    (h : Atomic r.objects (r.installed k) (r.installed k') (r.names.take k') s o) : r.Steps k o := by
  have closed := h.saved.trans holds.closed
  have granted := h.admissions.trans holds.granted
  cases hvalue : o.value with
  | ok _ =>
    obtain ⟨happlied, hevolves⟩ := h.ok hvalue
    exact ⟨k', ⟨happlied, closed, granted⟩, hevolves⟩
  | error error =>
    obtain ⟨happlied, hevolves⟩ := h.error error hvalue
    exact ⟨k, ⟨happlied.trans holds.applied, closed, granted⟩, hevolves⟩

theorem Steps.of_quiet {run : Run α} (holds : r.Holds k s) (quiet : run.Quiet) :
    r.Steps k (run s) := by
  obtain ⟨hdrift, hlogs⟩ := quiet s
  exact ⟨k, holds.drift hdrift, .of_logs hlogs⟩

/-- Where one run ends the next goes on. -/
theorem Steps.bind {first : Run α} {next : α → Run β} (h : r.Steps k (first s))
    (h' : ∀ k' a t, r.Holds k' t → r.Steps k' (next a t)) : r.Steps k ((first >>= next) s) := by
  obtain ⟨k', holds, hevolves⟩ := h
  obtain ⟨k'', holds', hevolves'⟩ := h' k' (first s).value _ holds
  exact ⟨k'', holds', hevolves.append hevolves'⟩

/-- A log around a run changes neither. -/
theorem Steps.wrapped {run inner : Run α} (holds : r.Holds k s) (wraps : run.Wraps inner)
    (h : ∀ t, r.Holds k t → r.Steps k (inner t)) : r.Steps k (run s) := by
  obtain ⟨t, before, after, hstart, hend, -, hevents, hbefore, hafter⟩ := wraps s
  obtain ⟨k', holds', hevolves⟩ := h t (holds.drift hstart)
  refine ⟨k', holds'.drift hend, ?_⟩
  rw [hevents]
  exact ((Evolves.of_logs hbefore).append hevolves).append (.of_logs hafter)

/-- **Every call takes the table and the schema together.** -/
theorem Sound.call_steps (sound : r.Sound) (holds : r.Holds k s) (c : Call) :
    r.Steps k (c.run r s) := by
  cases c with
  | up env steps =>
    -- The transaction may move on to more migrations; all that surrounds it is quiet.
    refine .wrapped holds (Call.up_wraps r env steps) fun t holds' => ?_
    obtain ⟨k', hatomic⟩ := sound.migrate_atomic holds' env steps
    exact .of_atomic holds' hatomic
  | down steps =>
    refine .wrapped holds (Call.down_wraps r steps) fun t holds' => ?_
    obtain ⟨k', hatomic⟩ := sound.rollback_atomic holds' steps
    exact .of_atomic holds' hatomic
  | report => exact .of_quiet holds (quiet_reportStatus r)
  | refault faults =>
    exact ⟨k, holds.drift (s.drifts_refault faults), .nil r.objects (r.installed k)⟩

/-! ## Main result -/

/-- **Any calls take the table and the schema together.** Induction on the calls; the invariant is that
    the table holds the first migrations and no transaction is open. -/
theorem Sound.runCalls_steps (sound : r.Sound) (holds : r.Holds k s) (calls : List Call) :
    r.Steps k (runCalls r calls s) := by
  induction calls generalizing k s with
  | nil => exact .of_quiet holds (Run.quiet_pure ())
  | cons c rest ih => exact (sound.call_steps holds c).bind fun k' _ t holds' => ih holds'

end Registry

/-- Migrations that install groups of objects. -/
theorem zip_groups (names : List String) (groups : List (List SchemaObject)) :
    ∀ m ∈ List.zipWith (fun name group => (⟨name, .objects group⟩ : Migration)) names groups,
      m.InstallsObjects := by
  induction names generalizing groups with
  | nil => exact fun m hm => absurd hm List.not_mem_nil
  | cons name names ih =>
    cases groups with
    | nil => exact fun m hm => absurd hm List.not_mem_nil
    | cons group groups => exact List.forall_mem_cons.mpr ⟨rfl, ih groups⟩

/-- The primary registry installs the groups of the schema in order. -/
theorem primary_installed (k : Nat) :
    Registry.primary.installed k = (Statistics.groups.take k).flatten := by
  have hgroups : Registry.primary.migrations.map Migration.group = Statistics.groups := rfl
  rw [Registry.installed, ← hgroups, ← List.map_take, List.flatMap_def]

theorem primary_objects : Registry.primary.objects = Catalog.full.objects := rfl

theorem primary_sound : Registry.primary.Sound := by
  refine ⟨zip_groups _ _, by decide +kernel, ?_⟩
  rw [primary_objects]
  exact full_legible

/-- **The schema and its bookkeeping never drift apart.** After any calls of the primary registry, on a
    server that may refuse any statements, and others from call to call, the table holds the first so
    many migrations; what the server keeps installs their objects and no others, which are the first of
    the whole schema; and at every moment what has been done, within open transactions too, creates only
    what is absent and drops only what is held. -/
theorem primary_consistent (calls : List Call) (clock : Instant) (faults : List Fault) :
    ∃ k, (runCalls .primary calls ⟨clock, { faults }⟩).session.server.applied =
        Registry.primary.names.take k ∧
      (∀ present, Installs Catalog.full.objects []
          (Journal.replay {} (runCalls .primary calls ⟨clock, { faults }⟩).events).kept present ↔
        present = (Statistics.groups.take k).flatten) ∧
      (Statistics.groups.take k).flatten <+: Catalog.full.objects ∧
      ∀ es, es <+: (runCalls .primary calls ⟨clock, { faults }⟩).events →
        Extends Catalog.full.objects (Journal.replay {} es).visible := by
  have holds : Registry.primary.Holds 0 ⟨clock, { faults }⟩ := ⟨rfl, rfl, rfl⟩
  obtain ⟨k, holds', xs, keeps, installs, always⟩ := primary_sound.runCalls_steps holds calls
  rw [primary_installed k, primary_objects] at installs
  refine ⟨k, holds'.applied, fun present => ?_, ?_,
    fun es hes => always [] (.done []) {} rfl es hes⟩
  · rw [keeps.kept]
    constructor
    · exact fun h => installs.unique full_legible h
    · rintro rfl
      exact installs
  · refine ⟨(Statistics.groups.drop k).flatten, ?_⟩
    rw [← List.flatten_append, List.take_append_drop]
    rfl

end StatSchema
