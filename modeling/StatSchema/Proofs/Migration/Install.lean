import StatSchema.Migration.Install
import StatSchema.Proofs.Migration.Schema

/-!
# `StatSchema.Proofs.Migration.Install` — what installing and removing objects does

The operations on objects are sequences of steps that stop at the first failure. What such a sequence
does to the schema and to the table of versions is put together from what its steps do (`Moves`).

## Contents
- **Sequences.** `Run.andThen`, `Moves` and its laws.
- **Objects.** `createEach_moves`, `createChecked_moves`, `dropObjects_moves`.
-/

namespace StatSchema

/-! ## Sequences -/

/-- Does one thing and then, if it succeeded, another. -/
def Run.andThen (first next : Run (Except DbError Unit)) : Run (Except DbError Unit) := do
  match ← first with
  | .error error => return .error error
  | .ok () => next

/-- **What a run does that starts in a session:** it closes every transaction that it opens, a success
    leaves the versions `versions` and takes the schema from `present` to `after`, and a failure leaves
    the schema in some state that its statements lead to. -/
structure Moves (objects present after : List SchemaObject) (versions : List String) (s : Session)
    (o : Outcome (Except DbError Unit)) : Prop where
  saved : o.session.server.saved = s.server.saved
  admissions : o.session.server.admissions = s.server.admissions
  ok : o.value = .ok () →
    o.session.server.applied = versions ∧ Evolves objects present o.events after
  error : ∀ error, o.value = .error error → ∃ other, Evolves objects present o.events other

namespace Moves

variable {objects present middle after : List SchemaObject} {versions versions' : List String}
  {s : Session}

/-- Nothing happens and nothing is shown. -/
protected theorem refl (objects present : List SchemaObject) {t : Session}
    (value : Except DbError Unit) (drifts : s.Drifts t) :
    Moves objects present present s.server.applied s ⟨value, [], t⟩ := by
  obtain ⟨clock, faults, rfl⟩ := drifts
  exact ⟨rfl, rfl, fun _ => ⟨rfl, .nil objects present⟩, fun _ _ => ⟨present, .nil objects present⟩⟩

/-- A failure before anything is done. -/
protected theorem failed (objects present after : List SchemaObject) (versions : List String)
    (error : DbError) {t : Session} (drifts : s.Drifts t) :
    Moves objects present after versions s ⟨.error error, [], t⟩ := by
  obtain ⟨clock, faults, rfl⟩ := drifts
  exact ⟨rfl, rfl, fun h => (by cases h), fun _ _ => ⟨present, .nil objects present⟩⟩

/-- A run that starts after only the clock and the faults have changed. -/
protected theorem drift {t : Session} {o : Outcome (Except DbError Unit)} (drifts : s.Drifts t)
    (h : Moves objects present after versions t o) : Moves objects present after versions s o := by
  obtain ⟨clock, faults, rfl⟩ := drifts
  exact ⟨h.saved, h.admissions, h.ok, h.error⟩

/-- An entry of the log before a run. -/
protected theorem log {run : Run (Except DbError Unit)} (entry : LogEntry)
    (h : Moves objects present after versions s (run s)) :
    Moves objects present after versions s ((Run.log entry >>= fun _ => run) s) := by
  rw [Run.bind_of (Run.log_apply entry s)]
  refine ⟨h.saved, h.admissions, fun ok => ?_, fun error failed => ?_⟩
  · obtain ⟨happlied, hevolves⟩ := h.ok ok
    exact ⟨happlied, hevolves.skip fun _ => rfl⟩
  · obtain ⟨other, hevolves⟩ := h.error error failed
    exact ⟨other, hevolves.skip fun _ => rfl⟩

/-- **A sequence moves as its parts do.** The second part starts where the first has succeeded. -/
protected theorem andThen {first next : Run (Except DbError Unit)}
    (h : Moves objects present middle versions s (first s))
    (h' : ∀ t : Session, t.server.saved = s.server.saved →
      t.server.admissions = s.server.admissions → t.server.applied = versions →
      Moves objects middle after versions' t (next t)) :
    Moves objects present after versions' s (Run.andThen first next s) := by
  obtain ⟨⟨value, es, t⟩, hfirst⟩ : ∃ o, first s = o := ⟨_, rfl⟩
  rw [hfirst] at h
  unfold Run.andThen
  rw [Run.bind_of hfirst]
  cases value with
  | error error =>
    obtain ⟨other, hevolves⟩ := h.error error rfl
    refine ⟨h.saved, h.admissions, fun ok => (by cases ok), fun _ _ => ⟨other, ?_⟩⟩
    exact hevolves.append (.nil objects other)
  | ok _ =>
    obtain ⟨happlied, hevolves⟩ := h.ok rfl
    have hnext := h' t h.saved h.admissions happlied
    refine ⟨hnext.saved.trans h.saved, hnext.admissions.trans h.admissions, fun ok => ?_,
      fun error failed => ?_⟩
    · obtain ⟨happlied', hevolves'⟩ := hnext.ok ok
      exact ⟨happlied', hevolves.append hevolves'⟩
    · obtain ⟨other, hevolves'⟩ := hnext.error error failed
      exact ⟨other, hevolves.append hevolves'⟩

end Moves

/-! ## Objects -/

variable {objects present after : List SchemaObject} {s : Session}

/-- An installation ends as its block does, with the error as the bookkeeping of migrations passes it on. -/
theorem runInstallation_of {label : String} {statements : List String} {s t : Session}
    {value : Except SchemaError Unit} {es : List Event}
    (h : runStatements .standard label statements s = ⟨value, es, t⟩) :
    runInstallation label statements s = ⟨value.mapError SchemaError.toDbError, es, t⟩ := by
  rw [runInstallation, Run.bind_of h]
  simp

theorem runInstallation_moves (label : String) {statements : List String} (legible : Legible objects)
    (granted : s.server.admissions = []) (h : Installs objects present statements after) :
    Moves objects present after s.server.applied s (runInstallation label statements s) := by
  obtain ⟨⟨value, es, t⟩, hrun⟩ : ∃ o, runStatements .standard label statements s = o := ⟨_, rfl⟩
  obtain ⟨⟨clock, faults, hdrift⟩, hcases⟩ :=
    runStatements_evolves .standard label legible granted h hrun
  rw [runInstallation_of hrun]
  cases hdrift
  rcases hcases with ⟨rfl, hevolves⟩ | ⟨error, rfl, hevolves⟩
  · exact ⟨rfl, rfl, fun _ => ⟨rfl, hevolves⟩, fun _ h => by cases h⟩
  · exact ⟨rfl, rfl, fun h => (by cases h), fun _ _ => ⟨present, hevolves⟩⟩

/-- Objects that are known and absent are created in order. -/
theorem createEach_moves (legible : Legible objects) (granted : s.server.admissions = [])
    {os : List SchemaObject} (known : ∀ o ∈ os, o ∈ objects) (absent : (present ++ os).Nodup) :
    Moves objects present (present ++ os) s.server.applied s (createEach os s) := by
  induction os generalizing present s with
  | nil =>
    rw [List.append_nil]
    exact .refl objects present (.ok ()) (.refl s)
  | cons o rest ih =>
    obtain ⟨ho, hrest⟩ := List.forall_mem_cons.mp known
    have hfresh : o ∉ present := fun hmem =>
      (List.nodup_append.mp absent).2.2 o hmem o List.mem_cons_self rfl
    have hcreate : Installs objects present o.createStatements (present ++ [o]) := by
      rw [← List.append_nil o.createStatements]
      exact .create ho hfresh (.done _)
    rw [List.append_cons] at absent ⊢
    refine Moves.log (.creating o.name) ?_
    refine Moves.andThen (runInstallation_moves o.name legible granted hcreate)
      fun t _ hadmissions happlied => ?_
    rw [← happlied]
    exact ih (hadmissions.trans granted) hrest absent

/-- Objects are created only if the catalog keeps its rules. -/
theorem createChecked_moves (c : Catalog) (legible : Legible objects)
    (granted : s.server.admissions = []) {os : List SchemaObject} (known : ∀ o ∈ os, o ∈ objects)
    (absent : (present ++ os).Nodup) :
    Moves objects present (present ++ os) s.server.applied s (createChecked c os s) := by
  unfold createChecked
  cases c.validate with
  | error error => exact .failed objects present _ _ error.toDbError (.refl s)
  | ok _ => exact createEach_moves legible granted known absent

/-- Drops from the last object on. -/
theorem installs_drops {os : List SchemaObject} (known : ∀ o ∈ os, o ∈ objects)
    (distinct : (present ++ os.reverse).Nodup) :
    Installs objects (present ++ os.reverse) (os.map (·.dropStatement)) present := by
  induction os with
  | nil =>
    rw [List.reverse_nil, List.append_nil]
    exact .done present
  | cons o rest ih =>
    obtain ⟨ho, hrest⟩ := List.forall_mem_cons.mp known
    rw [List.reverse_cons, ← List.append_assoc] at distinct ⊢
    obtain ⟨hdistinct, -, hfresh⟩ := List.nodup_append.mp distinct
    have habsent : o ∉ present ++ rest.reverse := fun hmem =>
      hfresh o hmem o List.mem_cons_self rfl
    refine .drop ho (List.mem_append_right _ List.mem_cons_self) ?_
    rw [List.erase_append_right _ habsent, List.erase_cons_head, List.append_nil]
    exact ih hrest hdistinct

/-- The statements that drop objects remove the last of those that are held. -/
theorem installs_dropStatements {os : List SchemaObject} (known : ∀ o ∈ os, o ∈ objects)
    (distinct : (present ++ os).Nodup) :
    Installs objects (present ++ os) (dropStatementsOf os) present := by
  have h : Installs objects (present ++ os.reverse.reverse) (os.reverse.map (·.dropStatement))
      present :=
    installs_drops (fun o ho => known o (List.mem_reverse.mp ho)) (by rwa [List.reverse_reverse])
  rw [List.reverse_reverse] at h
  exact h

theorem dropObjects_moves (legible : Legible objects) (granted : s.server.admissions = [])
    {os : List SchemaObject} (known : ∀ o ∈ os, o ∈ objects) (distinct : (present ++ os).Nodup) :
    Moves objects (present ++ os) present s.server.applied s (dropObjects os s) :=
  Moves.log (.dropping os.length)
    (runInstallation_moves "rollback" legible granted (installs_dropStatements known distinct))

end StatSchema
