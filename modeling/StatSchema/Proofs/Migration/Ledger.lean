import StatSchema.Migration.Ledger
import StatSchema.Proofs.Migration.Install

/-!
# `StatSchema.Proofs.Migration.Ledger` — what the operations of a registry do

A registry whose migrations install objects keeps its table of versions in step with them: after every
operation the versions are those of its first migrations, and the objects are theirs. An operation is a
transaction, so a failure takes back both.

## Contents
- **Rows.** `changeRows` and how it ends, `record_moves`, `erase_moves`; `knownRows_asked`.
- **Steps.** `Migration.group`, `applyEach_moves`, `removeEach_moves`.
- **Operations.** `Atomic`, `transaction_atomic`; `Registry.readThen` and how it ends; `Registry.Sound`,
  `Registry.installed`, `migrate_atomic`, `rollback_atomic`.
-/

namespace StatSchema

section Moves

variable {objects present after : List SchemaObject} {versions : List String} {s : Session}

/-! ## Rows -/

/-- A change of the rows of a table, made if the server accepts the statement for it. -/
def changeRows (sql : String) (act : Bool → Act) (change : List String → List String) :
    Run (Except DbError Unit) := do
  let result ← Run.check sql
  Run.report (act (!result.isOk))
  if result.isOk then
    Run.onServer fun server => ((), { server with applied := change server.applied })
  return result

theorem Registry.record_eq (r : Registry) (version : String) :
    r.record version =
      changeRows r.insertStatement (.recorded r.table version) (· ++ [version]) := rfl

theorem Registry.erase_eq (r : Registry) (version : String) :
    r.erase version =
      changeRows r.deleteStatement (.erased r.table version) (·.filter (· ≠ version)) := rfl

/-- **How a change of the rows ends:** it is made, or refused. -/
theorem changeRows_ends (sql : String) (act : Bool → Act) (change : List String → List String)
    (s : Session) :
    (∃ faults, changeRows sql act change s =
      ⟨.ok (), [⟨s.clock, act false⟩],
       { s with server := { s.server with faults, applied := change s.server.applied } }⟩) ∨
    ∃ error faults, changeRows sql act change s =
      ⟨.error error, [⟨s.clock, act true⟩], s.refault faults⟩ := by
  unfold changeRows
  rcases Run.check_asked sql s with ⟨faults, h⟩ | ⟨error, faults, h⟩
  · refine .inl ⟨faults, ?_⟩
    rw [Run.bind_of h]
    rfl
  · refine .inr ⟨error, faults, ?_⟩
    rw [Run.bind_of h]
    rfl

/-- The statement that changes the rows is not among those that install objects. -/
theorem changeRows_moves (objects present : List SchemaObject) (s : Session) (sql : String)
    (act : Bool → Act) (change : List String → List String)
    (silent : ∀ failed (j : Journal), j.record (act failed) = j) :
    Moves objects present present (change s.server.applied) s (changeRows sql act change s) := by
  have hevolves (failed : Bool) : Evolves objects present [⟨s.clock, act failed⟩] present :=
    (Evolves.nil objects present).skip (silent failed)
  rcases changeRows_ends sql act change s with ⟨faults, h⟩ | ⟨error, faults, h⟩
  · rw [h]
    exact ⟨rfl, rfl, fun _ => ⟨rfl, hevolves false⟩, fun _ failed => (by cases failed)⟩
  · rw [h]
    exact ⟨rfl, rfl, fun ok => (by cases ok), fun _ _ => ⟨present, hevolves true⟩⟩

/-- Recording a migration adds its version. -/
theorem record_moves (r : Registry) (objects present : List SchemaObject) (version : String)
    (s : Session) :
    Moves objects present present (s.server.applied ++ [version]) s (r.record version s) := by
  rw [Registry.record_eq]
  exact changeRows_moves objects present s _ _ (· ++ [version]) fun _ _ => rfl

/-- Deleting the record of a migration removes its version. -/
theorem erase_moves (r : Registry) (objects present : List SchemaObject) (version : String)
    (s : Session) :
    Moves objects present present (s.server.applied.filter (· ≠ version)) s (r.erase version s) := by
  rw [Registry.erase_eq]
  exact changeRows_moves objects present s _ _ (·.filter (· ≠ version)) fun _ _ => rfl

theorem checkAll_asked (statements : List String) (s : Session) :
    (Registry.checkAll statements).Asked s () := by
  induction statements generalizing s with
  | nil => exact Run.asked_ok s ()
  | cons sql rest ih =>
    rw [Registry.checkAll]
    exact (Run.check_asked sql s).bind (fun faults => ih (s.refault faults)) fun _ => rfl

theorem rows_asked (r : Registry) (s : Session) : r.rows.Asked s s.server.applied := by
  rw [Registry.rows]
  exact (checkAll_asked _ s).bind (fun faults => Run.asked_ok (s.refault faults) _) fun _ => rfl

/-- The rows are those of the table, if all of them name migrations of the registry. -/
theorem knownRows_asked (r : Registry) (s : Session) : r.knownRows.Asked s s.server.applied := by
  rw [Registry.knownRows]
  refine (rows_asked r s).bind (fun faults => ?_) fun _ => rfl
  rcases hunknown : r.unknownVersions s.server.applied with _ | ⟨version, versions⟩
  · simp only [hunknown]
    exact Run.asked_ok (s.refault faults) _
  · simp only [hunknown]
    exact Run.asked_error (s.refault faults) _ _

/-! ## Steps -/

/-- The objects that a migration installs. -/
def Migration.group (m : Migration) : List SchemaObject :=
  match m.content with
  | .objects group => group
  | .publication => []

/-- The migration installs objects. -/
def Migration.InstallsObjects (m : Migration) : Prop :=
  m.content = .objects m.group

theorem Migration.up_moves (env : Environment) {m : Migration} (installs : m.InstallsObjects)
    (legible : Legible objects) (granted : s.server.admissions = [])
    (known : ∀ o ∈ m.group, o ∈ objects) (absent : (present ++ m.group).Nodup) :
    Moves objects present (present ++ m.group) s.server.applied s (m.up env s) := by
  unfold Migration.up
  rw [installs]
  exact createChecked_moves .full legible granted known absent

theorem Migration.down_moves {m : Migration} (installs : m.InstallsObjects)
    (legible : Legible objects) (granted : s.server.admissions = [])
    (known : ∀ o ∈ m.group, o ∈ objects) (distinct : (present ++ m.group).Nodup) :
    Moves objects (present ++ m.group) present s.server.applied s (m.down s) := by
  unfold Migration.down
  rw [installs]
  exact dropObjects_moves legible granted known distinct

/-- Migrations are applied and recorded in order. -/
theorem applyEach_moves (r : Registry) (env : Environment) (legible : Legible objects)
    (granted : s.server.admissions = []) {ms : List Migration}
    (installs : ∀ m ∈ ms, m.InstallsObjects) (known : ∀ o ∈ ms.flatMap Migration.group, o ∈ objects)
    (absent : (present ++ ms.flatMap Migration.group).Nodup) :
    Moves objects present (present ++ ms.flatMap Migration.group)
      (s.server.applied ++ ms.map (·.name)) s (r.applyEach env ms s) := by
  induction ms generalizing present s with
  | nil =>
    rw [List.flatMap_nil, List.map_nil, List.append_nil, List.append_nil]
    exact .refl objects present (.ok ()) (.refl s)
  | cons m rest ih =>
    obtain ⟨hm, hrest⟩ := List.forall_mem_cons.mp installs
    rw [List.flatMap_cons] at known absent ⊢
    obtain ⟨hknown, hknownRest⟩ := List.forall_mem_append.mp known
    rw [← List.append_assoc] at absent ⊢
    rw [List.map_cons, List.append_cons]
    refine Moves.andThen (m.up_moves env hm legible granted hknown (List.nodup_append.mp absent).1)
      fun t _ hadmissions happlied => ?_
    refine Moves.andThen (record_moves r objects _ m.name t) fun u _ hadmissions' happlied' => ?_
    rw [← happlied, ← happlied']
    exact ih ((hadmissions'.trans hadmissions).trans granted) hrest hknownRest absent

/-- Removing the last of distinct versions. -/
theorem filter_ne_concat {versions : List String} {version : String}
    (distinct : (versions ++ [version]).Nodup) :
    (versions ++ [version]).filter (· ≠ version) = versions := by
  have hne : ∀ v ∈ versions, decide (v ≠ version) = true := fun v hv =>
    decide_eq_true ((List.nodup_append.mp distinct).2.2 v hv version List.mem_cons_self)
  rw [List.filter_append, List.filter_eq_self.mpr hne, List.filter_cons_of_neg (by simp),
    List.filter_nil, List.append_nil]

/-- Migrations are removed from the last on. -/
theorem removeEach_moves (r : Registry) (legible : Legible objects)
    (granted : s.server.admissions = []) {ms : List Migration} (versions : List String)
    (installs : ∀ m ∈ ms, m.InstallsObjects)
    (known : ∀ o ∈ ms.reverse.flatMap Migration.group, o ∈ objects)
    (distinct : (present ++ ms.reverse.flatMap Migration.group).Nodup)
    (applied : s.server.applied = versions ++ ms.reverse.map (·.name))
    (named : (versions ++ ms.reverse.map (·.name)).Nodup) :
    Moves objects (present ++ ms.reverse.flatMap Migration.group) present versions s
      (r.removeEach ms s) := by
  induction ms generalizing s with
  | nil =>
    simp only [List.reverse_nil, List.flatMap_nil, List.map_nil, List.append_nil] at applied ⊢
    rw [← applied]
    exact .refl objects present (.ok ()) (.refl s)
  | cons m rest ih =>
    obtain ⟨hm, hrest⟩ := List.forall_mem_cons.mp installs
    simp only [List.reverse_cons, List.flatMap_append, List.flatMap_singleton, List.map_append,
      List.map_cons, List.map_nil] at known distinct applied named ⊢
    obtain ⟨hknownRest, hknown⟩ := List.forall_mem_append.mp known
    rw [← List.append_assoc] at distinct applied named ⊢
    -- What is removed first is what was applied last.
    refine Moves.andThen (m.down_moves hm legible granted hknown distinct)
      fun t _ hadmissions happlied => ?_
    have herase := erase_moves r objects (present ++ rest.reverse.flatMap Migration.group) m.name t
    rw [happlied, applied, filter_ne_concat named] at herase
    refine Moves.andThen herase fun u _ hadmissions' happlied' => ?_
    exact ih ((hadmissions'.trans hadmissions).trans granted) hrest hknownRest
      (List.nodup_append.mp distinct).1 happlied' (List.nodup_append.mp named).1

/-! ## Operations -/

/-- **A run that does all or nothing:** a success leaves the versions `versions` and takes the schema
    from `present` to `after`, a failure leaves both as they were. -/
structure Atomic (objects present after : List SchemaObject) (versions : List String) (s : Session)
    (o : Outcome (Except DbError Unit)) : Prop where
  saved : o.session.server.saved = s.server.saved
  admissions : o.session.server.admissions = s.server.admissions
  ok : o.value = .ok () →
    o.session.server.applied = versions ∧ Evolves objects present o.events after
  error : ∀ error, o.value = .error error →
    o.session.server.applied = s.server.applied ∧ Evolves objects present o.events present

/-- **A transaction does all or nothing.** -/
theorem transaction_atomic {work : Run (Except DbError Unit)}
    (h : Moves objects present after versions { s with server := s.server.begin }
      (work { s with server := s.server.begin })) :
    Atomic objects present after versions s (Run.transaction work s) := by
  obtain ⟨⟨value, es, t⟩, hwork⟩ : ∃ o, work { s with server := s.server.begin } = o := ⟨_, rfl⟩
  rw [hwork] at h
  obtain ⟨saved, admissions, ok, error⟩ := h
  have hsaved : t.server.saved = s.server.applied :: s.server.saved := saved
  cases value with
  | ok _ =>
    obtain ⟨happlied, hevolves⟩ := ok rfl
    rw [Run.transaction_of_ok hwork]
    refine ⟨?_, admissions, fun _ => ⟨happlied, hevolves.committed ..⟩, fun _ h => (by cases h)⟩
    show t.server.saved.tail = _
    rw [hsaved, List.tail_cons]
  | error e =>
    obtain ⟨other, hevolves⟩ := error e rfl
    rw [Run.transaction_of_error hwork]
    refine ⟨?_, admissions, fun h => (by cases h), fun _ _ => ⟨?_, hevolves.rolledBack ..⟩⟩
    · show t.server.saved.tail = _
      rw [hsaved, List.tail_cons]
    · show t.server.saved.head?.getD t.server.applied = _
      rw [hsaved]
      rfl

end Moves

namespace Registry

/-- Reads from the table which migrations an operation is about, and takes its steps with them. -/
def readThen (r : Registry) (read : Run (Except DbError (List Migration)))
    (steps : List Migration → Run (Except DbError Unit)) : Run (Except DbError Unit) := do
  match ← Run.check r.prepareStatement with
  | .error error => return .error error
  | .ok () =>
  match ← read with
  | .error error => return .error error
  | .ok migrations => steps migrations

theorem migrate_eq (r : Registry) (env : Environment) (steps : Option Nat) :
    r.migrate env steps =
      Run.transaction (r.readThen r.pending fun ms => r.applyEach env (limited steps ms)) := rfl

theorem rollback_eq (r : Registry) (steps : Option Nat) :
    r.rollback steps =
      Run.transaction (r.readThen r.applied fun ms => r.removeEach (limited steps ms.reverse)) := rfl

/-- **How an operation reads the table:** it takes its steps with what it has read, or is refused before.
    Only the clock and the faults of the server have changed by then. -/
theorem readThen_ends (r : Registry) {read : Run (Except DbError (List Migration))}
    (steps : List Migration → Run (Except DbError Unit)) {s : Session} {ms : List Migration}
    (asked : ∀ t, s.Drifts t → read.Asked t ms) :
    (∃ t, s.Drifts t ∧ r.readThen read steps s = steps ms t) ∨
      ∃ error t, s.Drifts t ∧ r.readThen read steps s = ⟨.error error, [], t⟩ := by
  unfold readThen
  rcases Run.check_asked r.prepareStatement s with ⟨faults, hcheck⟩ | ⟨error, faults, hcheck⟩
  · have hdrifts := s.drifts_refault faults
    rw [Run.bind_of hcheck]
    rcases asked _ hdrifts with ⟨faults', hread⟩ | ⟨error, faults', hread⟩
    · refine .inl ⟨_, hdrifts.trans (Session.drifts_refault _ faults'), ?_⟩
      dsimp only
      rw [Run.bind_of hread]
      rfl
    · refine .inr ⟨error, _, hdrifts.trans (Session.drifts_refault _ faults'), ?_⟩
      dsimp only
      rw [Run.bind_of hread]
      rfl
  · refine .inr ⟨error, _, s.drifts_refault faults, ?_⟩
    rw [Run.bind_of hcheck]
    rfl

/-- An operation moves as its steps do. -/
theorem readThen_moves (r : Registry) {objects present after : List SchemaObject}
    {versions : List String} {read : Run (Except DbError (List Migration))}
    {steps : List Migration → Run (Except DbError Unit)} {s : Session} {ms : List Migration}
    (asked : ∀ t, s.Drifts t → read.Asked t ms)
    (h : ∀ t, s.Drifts t → Moves objects present after versions t (steps ms t)) :
    Moves objects present after versions s (r.readThen read steps s) := by
  rcases r.readThen_ends steps asked with ⟨t, hdrifts, hends⟩ | ⟨error, t, hdrifts, hends⟩
  · rw [hends]
    exact (h t hdrifts).drift hdrifts
  · rw [hends]
    exact .failed objects present after versions error hdrifts

/-- All objects of a registry. -/
def objects (r : Registry) : List SchemaObject :=
  r.migrations.flatMap Migration.group

/-- **A registry of objects:** every migration installs objects, migrations have distinct names, and the
    objects can be told apart. -/
structure Sound (r : Registry) : Prop where
  installs : ∀ m ∈ r.migrations, m.InstallsObjects
  distinct : r.names.Nodup
  legible : Legible r.objects

/-- The objects of the first `k` migrations. -/
def installed (r : Registry) (k : Nat) : List SchemaObject :=
  (r.migrations.take k).flatMap Migration.group

/-- The table holds the first `k` migrations, and no transaction is open. -/
structure Holds (r : Registry) (k : Nat) (s : Session) : Prop where
  applied : s.server.applied = r.names.take k
  closed : s.server.saved = []
  granted : s.server.admissions = []

variable {r : Registry} {k : Nat} {s : Session}

theorem name_mem_of_take {m : Migration} (h : m ∈ r.migrations.take k) : m.name ∈ r.names.take k := by
  rw [names, ← List.map_take]
  exact List.mem_map_of_mem h

theorem Sound.name_notMem_of_drop (sound : r.Sound) {m : Migration} (h : m ∈ r.migrations.drop k) :
    m.name ∉ r.names.take k := by
  have hdistinct := sound.distinct
  rw [← List.take_append_drop k r.names] at hdistinct
  have hmem : m.name ∈ r.names.drop k := by
    rw [names, ← List.map_drop]
    exact List.mem_map_of_mem h
  exact fun hname => (List.nodup_append.mp hdistinct).2.2 m.name hname m.name hmem rfl

/-- The first migrations are those that the table holds. -/
theorem Sound.filter_applied (sound : r.Sound) (k : Nat) :
    r.migrations.filter (·.name ∈ r.names.take k) = r.migrations.take k := by
  have hfirst : (r.migrations.take k).filter (·.name ∈ r.names.take k) = r.migrations.take k :=
    List.filter_eq_self.mpr fun m hm => decide_eq_true (name_mem_of_take hm)
  have hothers : (r.migrations.drop k).filter (·.name ∈ r.names.take k) = [] :=
    List.filter_eq_nil_iff.mpr fun m hm => by simpa using sound.name_notMem_of_drop hm
  calc
    _ = (r.migrations.take k ++ r.migrations.drop k).filter (·.name ∈ r.names.take k) := by
      rw [List.take_append_drop]
    _ = r.migrations.take k := by rw [List.filter_append, hfirst, hothers, List.append_nil]

/-- The others are pending. -/
theorem Sound.filter_pending (sound : r.Sound) (k : Nat) :
    r.migrations.filter (·.name ∉ r.names.take k) = r.migrations.drop k := by
  have hfirst : (r.migrations.take k).filter (·.name ∉ r.names.take k) = [] :=
    List.filter_eq_nil_iff.mpr fun m hm => by simpa using name_mem_of_take hm
  have hothers : (r.migrations.drop k).filter (·.name ∉ r.names.take k) = r.migrations.drop k :=
    List.filter_eq_self.mpr fun m hm => decide_eq_true (sound.name_notMem_of_drop hm)
  calc
    _ = (r.migrations.take k ++ r.migrations.drop k).filter (·.name ∉ r.names.take k) := by
      rw [List.take_append_drop]
    _ = r.migrations.drop k := by rw [List.filter_append, hfirst, hothers, List.nil_append]

/-- A limit takes a number of the first migrations. -/
theorem limited_eq_take (steps : Option Nat) (ms : List Migration) :
    ∃ n, limited steps ms = ms.take n := by
  cases steps with
  | none => exact ⟨ms.length, List.take_length.symm⟩
  | some n => exact ⟨n, rfl⟩

/-- What a registry reads of its table. -/
theorem Sound.pending_asked (sound : r.Sound) (applied : s.server.applied = r.names.take k) :
    r.pending.Asked s (r.migrations.drop k) := by
  rw [pending, ← sound.filter_pending k, ← applied]
  exact (knownRows_asked r s).bind (fun faults => Run.asked_ok (s.refault faults) _) fun _ => rfl

theorem Sound.applied_asked (sound : r.Sound) (applied : s.server.applied = r.names.take k) :
    r.applied.Asked s (r.migrations.take k) := by
  rw [Registry.applied, ← sound.filter_applied k, ← applied]
  exact (knownRows_asked r s).bind (fun faults => Run.asked_ok (s.refault faults) _) fun _ => rfl

theorem Sound.nodup_installed (sound : r.Sound) (k : Nat) : (r.installed k).Nodup := by
  have hobjects : r.objects.Nodup := sound.legible.distinct.of_map
  have hprefix : r.installed k <+: r.objects := by
    refine ⟨(r.migrations.drop k).flatMap Migration.group, ?_⟩
    rw [installed, ← List.flatMap_append, List.take_append_drop, objects]
  exact hobjects.sublist hprefix.sublist

/-- More of the first migrations are more objects and more versions. -/
theorem installed_append {k k' : Nat} {ms : List Migration}
    (h : r.migrations.take k' = r.migrations.take k ++ ms) :
    r.installed k' = r.installed k ++ ms.flatMap Migration.group ∧
      r.names.take k' = r.names.take k ++ ms.map (·.name) := by
  constructor
  · rw [installed, h, List.flatMap_append]
    rfl
  · rw [names, ← List.map_take, ← List.map_take, h, List.map_append]

theorem Sound.installs_of_take (sound : r.Sound) {k k' : Nat} {ms : List Migration}
    (h : r.migrations.take k' = r.migrations.take k ++ ms) :
    (∀ m ∈ ms, m.InstallsObjects) ∧ ∀ o ∈ ms.flatMap Migration.group, o ∈ r.objects := by
  have hmem : ∀ m ∈ ms, m ∈ r.migrations := fun m hm =>
    List.mem_of_mem_take (h ▸ List.mem_append_right _ hm : m ∈ r.migrations.take k')
  refine ⟨fun m hm => sound.installs m (hmem m hm), fun o ho => ?_⟩
  obtain ⟨m, hm, ho⟩ := List.mem_flatMap.mp ho
  exact List.mem_flatMap.mpr ⟨m, hmem m hm, ho⟩

/-- **Applying pending migrations does all or nothing.** -/
theorem Sound.migrate_atomic (sound : r.Sound) (holds : r.Holds k s) (env : Environment)
    (steps : Option Nat) :
    ∃ k', Atomic r.objects (r.installed k) (r.installed k') (r.names.take k') s
      (r.migrate env steps s) := by
  obtain ⟨n, hn⟩ := limited_eq_take steps (r.migrations.drop k)
  refine ⟨k + n, ?_⟩
  rw [migrate_eq]
  refine transaction_atomic (r.readThen_moves (fun t hdrifts =>
    sound.pending_asked (hdrifts.applied.trans holds.applied)) fun t hdrifts => ?_)
  have hversions : t.server.applied = r.names.take k := hdrifts.applied.trans holds.applied
  have hgranted : t.server.admissions = [] := hdrifts.admissions.trans holds.granted
  have hsplit : r.migrations.take (k + n) = r.migrations.take k ++ (r.migrations.drop k).take n :=
    List.take_add
  obtain ⟨hinstalled, hnames⟩ := installed_append hsplit
  obtain ⟨hinstalls, hknown⟩ := sound.installs_of_take hsplit
  have hdistinct := sound.nodup_installed (k + n)
  rw [hinstalled] at hdistinct ⊢
  rw [hn, hnames, ← hversions]
  exact applyEach_moves r env sound.legible hgranted hinstalls hknown hdistinct

/-- The last of the first migrations are split off. -/
theorem take_split (ms : List Migration) (k n : Nat) :
    ms.take k = ms.take (min ((ms.take k).length - n) k) ++ ((ms.take k).reverse.take n).reverse := by
  rw [List.take_reverse, List.reverse_reverse, ← List.take_take, List.take_append_drop]

/-- **Removing applied migrations does all or nothing.** -/
theorem Sound.rollback_atomic (sound : r.Sound) (holds : r.Holds k s) (steps : Option Nat) :
    ∃ k', Atomic r.objects (r.installed k) (r.installed k') (r.names.take k') s
      (r.rollback steps s) := by
  obtain ⟨n, hn⟩ := limited_eq_take steps (r.migrations.take k).reverse
  refine ⟨min ((r.migrations.take k).length - n) k, ?_⟩
  rw [rollback_eq]
  refine transaction_atomic (r.readThen_moves (fun t hdrifts =>
    sound.applied_asked (hdrifts.applied.trans holds.applied)) fun t hdrifts => ?_)
  have hversions : t.server.applied = r.names.take k := hdrifts.applied.trans holds.applied
  have hgranted : t.server.admissions = [] := hdrifts.admissions.trans holds.granted
  have hsplit := take_split r.migrations k n
  obtain ⟨hinstalled, hnames⟩ := installed_append hsplit
  obtain ⟨hinstalls, hknown⟩ := sound.installs_of_take hsplit
  have hdistinct := sound.nodup_installed k
  have hnamed := sound.distinct.sublist (List.take_sublist k r.names)
  rw [hinstalled] at hdistinct ⊢
  rw [hnames] at hversions hnamed
  rw [hn]
  exact removeEach_moves r sound.legible hgranted _
    (fun m hm => hinstalls m (List.mem_reverse.mpr hm)) hknown hdistinct hversions hnamed

end Registry

end StatSchema
