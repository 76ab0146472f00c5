import StatSchema.Proofs.Block.InTurn
import StatSchema.Proofs.Catalog.Full
import StatSchema.Proofs.Migration.Install

/-!
# `StatSchema.Proofs.Migration.Objects` — installing and dropping lists of objects

Objects are created one block each, in order, up to the first whose block fails; they are dropped in a
single block. Neither the faults of the server nor what earlier blocks took change what a block is given:
the whole deadline and ten attempts.

## Contents
- **Creating.** `SchemaObject.creation`, `createEach_runsInTurn`; `CreatesInTurn`.
- **Dropping.** `DropsAtOnce`.
- **Main result.** `objects_createdInTurn_droppedAtOnce`.
-/

namespace StatSchema

/-! ## Creating -/

/-- The block that creates an object. -/
def SchemaObject.creation (o : SchemaObject) : String × List String := (o.name, o.createStatements)

/-- Every object has a definition. -/
theorem SchemaObject.createStatements_ne_nil (o : SchemaObject) : o.createStatements ≠ [] := by
  have hdefinition : o.definition ≠ [] := by
    unfold SchemaObject.definition
    split <;> simp
  simp [SchemaObject.createStatements, hdefinition]

/-- **Objects are created in turn.** Induction on the objects: the others are created where the first has
    been. -/
theorem createEach_runsInTurn (objects : List SchemaObject) {s : Session}
    (granted : s.server.admissions = []) :
    ∃ value, (createEach objects s).value = value.mapError SchemaError.toDbError ∧
      RunsInTurn (objects.map SchemaObject.creation) s value (createEach objects s).events
        (createEach objects s).session := by
  induction objects generalizing s with
  | nil => exact ⟨.ok (), rfl, .nil rfl⟩
  | cons o rest ih =>
    obtain ⟨⟨value, es, t⟩, hrun⟩ : ∃ a, runStatements .standard o.name o.createStatements s = a :=
      ⟨_, rfl⟩
    have hinstall := runInstallation_of hrun
    rw [createEach, Run.bind_of (Run.log_apply _ s), Run.bind_of hinstall]
    cases value with
    | error error =>
      have hstop := runStatements_stops o.createStatements_ne_nil granted hrun
        (rest.map SchemaObject.creation)
      rw [← List.append_nil es] at hstop
      exact ⟨.error error, rfl, hstop.log s.clock (.creating o.name)⟩
    | ok _ =>
      have hgranted : t.server.admissions = [] :=
        runStatements_granted o.createStatements_ne_nil granted hrun
      obtain ⟨value, hvalue, hrest⟩ := ih hgranted
      have hbefore := runStatements_before o.createStatements_ne_nil granted hrun hrest
      exact ⟨value, hvalue, hbefore.log s.clock (.creating o.name)⟩

/-- **What a run that creates objects shows:** each object is a block of its own, and the blocks run in
    turn, from the moment `now` on, in transactions of the depth `depth`. -/
structure CreatesInTurn (objects : List SchemaObject) (now : Instant) (depth : Nat)
    (o : Outcome (Except DbError Unit)) : Prop where
  /-- The server sees the blocks of the objects, in turn, and each starts afresh. -/
  blocks : ∃ blocks value, InTurn now (objects.map SchemaObject.creation) blocks value ∧
    o.value = value.mapError SchemaError.toDbError ∧
    serverEvents o.events = blocks.flatMap (·.events depth) ∧ ∀ b ∈ blocks, b.Fresh depth
  /-- A success commits one block for each object and keeps the statements of all. -/
  ok : o.value = .ok () → commits o.events = objects.length ∧
    KeepsBlocks o.events (objects.map (·.createStatements))
  /-- A failure names the first object that is not created. Those before it are committed and kept, one
      block for each, and the server sees no block of those after it. -/
  error : ∀ error, o.value = .error error → ∃ created failing untouched,
    objects = created ++ failing :: untouched ∧
    error = (SchemaError.retryExhausted failing.name 10).toDbError ∧
    commits o.events = created.length ∧
    KeepsBlocks o.events (created.map (·.createStatements)) ∧
    ∃ blocks : List BlockTrace, serverEvents o.events = blocks.flatMap (·.events depth) ∧
      blocks.map BlockTrace.work = (created ++ [failing]).map SchemaObject.creation

/-- Objects are created if the catalog keeps its rules. -/
theorem createChecked_of_valid {c : Catalog} (valid : c.validate = .ok ()) (objects : List SchemaObject) :
    createChecked c objects = createEach objects := by
  unfold createChecked
  rw [valid]

theorem createObjects_eq (objects : List SchemaObject) : createObjects objects = createEach objects :=
  createChecked_of_valid Catalog.full_valid objects

/-- Objects of the schema are created in turn, as the schema keeps the rules of a catalog. -/
theorem createObjects_inTurn (objects : List SchemaObject) {s : Session}
    (granted : s.server.admissions = []) :
    CreatesInTurn objects s.clock (s.server.depth + 1) (createObjects objects s) := by
  rw [createObjects_eq]
  obtain ⟨value, hvalue, blocks, hturn, hevents, -⟩ := createEach_runsInTurn objects granted
  refine ⟨⟨blocks, value, hturn, hvalue, hevents, fun b _ => b.fresh _⟩, fun ok => ?_,
    fun error failed => ?_⟩
  · cases value with
    | error error =>
      rw [hvalue] at ok
      cases ok
    | ok _ =>
      obtain ⟨hcommits, hkeeps⟩ := hturn.kept_of_ok hevents
      rw [List.length_map] at hcommits
      rw [List.map_map] at hkeeps
      exact ⟨hcommits, hkeeps⟩
  · cases value with
    | ok _ =>
      rw [hvalue] at failed
      cases failed
    | error cause =>
      obtain ⟨before, failing, after, hwork, rfl, hblocks, hcommits, hkeeps⟩ :=
        hturn.kept_of_error hevents
      obtain ⟨created, others, rfl, rfl, hothers⟩ := List.map_eq_append_iff.mp hwork
      obtain ⟨p, untouched, rfl, rfl, -⟩ := List.map_eq_cons_iff.mp hothers
      rw [hvalue] at failed
      refine ⟨created, p, untouched, rfl, (Except.error.inj failed).symm, ?_, ?_, blocks, hevents, ?_⟩
      · rw [hcommits, List.length_map]
      · rw [List.map_map] at hkeeps
        exact hkeeps
      · rw [hblocks, List.map_append, List.map_singleton]

/-! ## Dropping -/

/-- **What a run that drops objects shows:** all of them are one block, which starts afresh, at the moment
    `now`, in a transaction of the depth `depth`; nothing is sent if there are none. -/
structure DropsAtOnce (objects : List SchemaObject) (now : Instant) (depth : Nat)
    (o : Outcome (Except DbError Unit)) : Prop where
  none : objects = [] → o.value = .ok () ∧ serverEvents o.events = []
  block : objects ≠ [] → ∃ b : BlockTrace, b.label = "rollback" ∧
    b.statements = objects.reverse.map (·.dropStatement) ∧ b.start = now ∧ b.Fresh depth ∧
    serverEvents o.events = b.events depth ∧ o.value = b.value.mapError SchemaError.toDbError
  /-- A success keeps the statements that drop the objects, the last first, in one block. -/
  ok : o.value = .ok () → objects ≠ [] → commits o.events = 1 ∧
    KeepsBlocks o.events [objects.reverse.map (·.dropStatement)]
  /-- A failure keeps nothing. -/
  error : ∀ error, o.value = .error error →
    error = (SchemaError.retryExhausted "rollback" 10).toDbError ∧
    commits o.events = 0 ∧ Keeps o.events []

/-- Objects are dropped at once. -/
theorem dropObjects_atOnce (objects : List SchemaObject) {s : Session}
    (granted : s.server.admissions = []) :
    DropsAtOnce objects s.clock (s.server.depth + 1) (dropObjects objects s) := by
  obtain ⟨⟨value, es, t⟩, hrun⟩ :
      ∃ a, runStatements .standard "rollback" (dropStatementsOf objects) s = a := ⟨_, rfl⟩
  have hdrop : dropObjects objects s = ⟨value.mapError SchemaError.toDbError,
      ⟨s.clock, .log (.dropping objects.length)⟩ :: es, t⟩ := by
    rw [dropObjects, Run.bind_of (Run.log_apply _ s), runInstallation_of hrun]
    rfl
  rw [hdrop]
  by_cases hnone : objects = []
  · subst hnone
    cases hrun
    exact ⟨fun _ => ⟨rfl, rfl⟩, fun h => absurd rfl h, fun _ h => absurd rfl h, fun _ h => by cases h⟩
  · have hsome : dropStatementsOf objects ≠ [] := by simpa [dropStatementsOf] using hnone
    obtain ⟨b, hlabel, hstatements, hstart, hevents, hvalue, -, -⟩ :=
      runStatements_trace "rollback" hsome granted
    rw [hrun] at hevents hvalue
    have hshown : serverEvents (⟨s.clock, .log (.dropping objects.length)⟩ :: es) =
        b.events (s.server.depth + 1) := hevents
    refine ⟨fun h => absurd h hnone, fun _ => ?_, fun ok _ => ?_, fun error failed => ?_⟩
    · exact ⟨b, hlabel, hstatements, hstart, b.fresh _, hshown,
        congrArg (Except.mapError SchemaError.toDbError) hvalue⟩
    · have hok : b.value = .ok () := by
        cases value with
        | error error => cases ok
        | ok _ => exact hvalue.symm
      obtain ⟨hcommits, hkeeps⟩ := b.events_done (BlockTrace.done_of_ok hok) (s.server.depth + 1)
      rw [← hshown] at hcommits hkeeps
      rw [commits_serverEvents] at hcommits
      rw [hstatements] at hkeeps
      exact ⟨hcommits, hkeeps.of_serverEvents⟩
    · cases value with
      | ok _ => cases failed
      | error cause =>
        obtain ⟨hfailed, hcause⟩ := BlockTrace.failed_of_error hvalue.symm
        obtain ⟨hcommits, hkeeps⟩ := b.events_failed hfailed (s.server.depth + 1)
        rw [← hshown] at hcommits hkeeps
        rw [commits_serverEvents] at hcommits
        refine ⟨?_, hcommits, ?_⟩
        · rw [← Except.error.inj failed, hcause, hlabel]
        · exact hkeeps.of_serverEvents

/-! ## Main result -/

/-- **Objects are created in turn and dropped at once,** whatever objects they are and whatever statements
    the server refuses, also within transactions that were open before. -/
theorem objects_createdInTurn_droppedAtOnce (objects : List SchemaObject) (clock : Instant)
    (applied : List String) (saved : List (List String)) (faults : List Fault) :
    CreatesInTurn objects clock (saved.length + 1)
        (createObjects objects ⟨clock, { applied, saved, faults }⟩) ∧
      DropsAtOnce objects clock (saved.length + 1)
        (dropObjects objects ⟨clock, { applied, saved, faults }⟩) := by
  let s : Session := ⟨clock, { applied, saved, faults }⟩
  have granted : s.server.admissions = [] := rfl
  exact ⟨createObjects_inTurn objects granted, dropObjects_atOnce objects granted⟩

end StatSchema
