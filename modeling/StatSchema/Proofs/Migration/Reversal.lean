import StatSchema.Proofs.Migration.Consistency
import StatSchema.Proofs.Migration.Objects
import StatSchema.Proofs.Server.Nesting

/-!
# `StatSchema.Proofs.Migration.Reversal` — removing migrations reverses applying them

Applying migrations creates their objects one block each, removing them drops the objects of each
migration in one block, and both may be retried in any way. What a call achieves when it succeeds
(`Achieves`) does not depend on that: the statements that it keeps are those that create the objects, or
those that drop them in the reverse order, and the rows that it adds or deletes are theirs.

## Contents
- **Successful runs.** `KeepsStatements`, `Achieves` and its laws: sequences, transactions, the log.
- **Steps.** What creating and dropping objects achieves, what a change of the rows achieves;
  `applyEach_achieves`, `removeEach_achieves`.
- **Operations.** `Registry.readThen_achieves`, `Registry.Sound.migrate_achieves`,
  `Registry.Sound.rollback_achieves`.
- **Nothing pending.** `Idles` and its laws; `Registry.NonePending.up_idles`.
- **Main result.** `primary_reversed`.
-/

namespace StatSchema

/-! ## Successful runs -/

/-- Events keep statements in blocks, aside from the limits on the time that these take. -/
def KeepsStatements (events : List Event) (statements : List String) : Prop :=
  ∃ blocks, KeepsBlocks events blocks ∧ blocks.flatten = statements

namespace KeepsStatements

variable {es fs : List Event} {xs ys : List String}

protected theorem nil : KeepsStatements [] [] := ⟨[], .nil, rfl⟩

protected theorem append (hes : KeepsStatements es xs) (hfs : KeepsStatements fs ys) :
    KeepsStatements (es ++ fs) (xs ++ ys) := by
  obtain ⟨blocks, hes, rfl⟩ := hes
  obtain ⟨blocks', hfs, rfl⟩ := hfs
  exact ⟨blocks ++ blocks', hes.append hfs, List.flatten_append⟩

/-- Entries of the log keep no statements. -/
protected theorem logged (logs : ∀ e ∈ es, ∃ entry, e.act = .log entry) : KeepsStatements es [] :=
  ⟨[], .none (.logged logs), rfl⟩

/-- A transaction that is committed keeps what its work keeps. -/
protected theorem committed (h : KeepsStatements es xs) (t₁ t₂ : Instant) (d₁ d₂ : Nat) :
    KeepsStatements (⟨t₁, .began d₁⟩ :: es ++ [⟨t₂, .committed d₂⟩]) xs := by
  obtain ⟨blocks, h, hflatten⟩ := h
  exact ⟨blocks, h.committed t₁ t₂ d₁ d₂, hflatten⟩

end KeepsStatements

/-- **What a run achieves that starts in a session:** if it succeeds, the table holds the versions
    `versions`, and the statements `xs` are kept. -/
structure Achieves (versions xs : List String) (s : Session) (o : Outcome (Except DbError Unit)) :
    Prop where
  admissions : o.session.server.admissions = s.server.admissions
  ok : o.value = .ok () → o.session.server.applied = versions ∧ KeepsStatements o.events xs

namespace Achieves

variable {versions versions' xs ys : List String} {s : Session}

/-- Nothing is done, and only the clock and the faults change. -/
protected theorem nothing {t : Session} (value : Except DbError Unit) (drifts : s.Drifts t) :
    Achieves s.server.applied [] s ⟨value, [], t⟩ :=
  ⟨drifts.admissions, fun _ => ⟨drifts.applied, .nil⟩⟩

/-- A failure achieves anything. -/
protected theorem failed (versions xs : List String) (error : DbError) {es : List Event} {t : Session}
    (drifts : s.Drifts t) : Achieves versions xs s ⟨.error error, es, t⟩ :=
  ⟨drifts.admissions, fun h => by cases h⟩

/-- A run that starts after only the clock and the faults have changed. -/
protected theorem drift {t : Session} {o : Outcome (Except DbError Unit)} (drifts : s.Drifts t)
    (h : Achieves versions xs t o) : Achieves versions xs s o :=
  ⟨h.admissions.trans drifts.admissions, h.ok⟩

/-- **A sequence achieves what its parts achieve.** The second part starts where the first has
    succeeded. -/
protected theorem andThen {first next : Run (Except DbError Unit)}
    (h : Achieves versions xs s (first s))
    (h' : ∀ t : Session, t.server.admissions = s.server.admissions → t.server.applied = versions →
      Achieves versions' ys t (next t)) :
    Achieves versions' (xs ++ ys) s (Run.andThen first next s) := by
  obtain ⟨⟨value, es, t⟩, hfirst⟩ : ∃ o, first s = o := ⟨_, rfl⟩
  rw [hfirst] at h
  unfold Run.andThen
  rw [Run.bind_of hfirst]
  cases value with
  | error error => exact ⟨h.admissions, fun ok => by cases ok⟩
  | ok _ =>
    obtain ⟨happlied, hkeeps⟩ := h.ok rfl
    have hnext := h' t h.admissions happlied
    refine ⟨hnext.admissions.trans h.admissions, fun ok => ?_⟩
    obtain ⟨happlied', hkeeps'⟩ := hnext.ok ok
    exact ⟨happlied', hkeeps.append hkeeps'⟩

/-- **A transaction achieves what its work achieves.** -/
protected theorem transaction {work : Run (Except DbError Unit)}
    (h : Achieves versions xs { s with server := s.server.begin }
      (work { s with server := s.server.begin })) :
    Achieves versions xs s (Run.transaction work s) := by
  obtain ⟨⟨value, es, t⟩, hwork⟩ : ∃ o, work { s with server := s.server.begin } = o := ⟨_, rfl⟩
  rw [hwork] at h
  cases value with
  | ok _ =>
    obtain ⟨happlied, hkeeps⟩ := h.ok rfl
    rw [Run.transaction_of_ok hwork]
    exact ⟨h.admissions, fun _ => ⟨happlied, hkeeps.committed ..⟩⟩
  | error error =>
    rw [Run.transaction_of_error hwork]
    exact ⟨h.admissions, fun ok => by cases ok⟩

/-- A log around a run keeps no statements. -/
protected theorem wrapped {run inner : Run (Except DbError Unit)} (wraps : run.Wraps inner)
    (h : ∀ t, s.Drifts t → Achieves versions xs t (inner t)) : Achieves versions xs s (run s) := by
  obtain ⟨t, before, after, hstart, hend, hvalue, hevents, hbefore, hafter⟩ := wraps s
  obtain ⟨hadmissions, hok⟩ := h t hstart
  refine ⟨hend.admissions.trans (hadmissions.trans hstart.admissions), fun ok => ?_⟩
  obtain ⟨happlied, hkeeps⟩ := hok (hvalue.symm.trans ok)
  refine ⟨hend.applied.trans happlied, ?_⟩
  have hkept := ((KeepsStatements.logged hbefore).append hkeeps).append (.logged hafter)
  rwa [List.nil_append, List.append_nil, ← hevents] at hkept

end Achieves

/-! ## Steps -/

variable {s : Session}

/-- Creating objects keeps the statements that create them. -/
theorem createObjects_achieves (objects : List SchemaObject) (granted : s.server.admissions = []) :
    Achieves s.server.applied (objects.flatMap (·.createStatements)) s (createObjects objects s) := by
  rw [createObjects_eq]
  obtain ⟨value, hvalue, blocks, hturn, hevents, hdrifts⟩ := createEach_runsInTurn objects granted
  refine ⟨hdrifts.admissions, fun ok => ⟨hdrifts.applied, ?_⟩⟩
  cases value with
  | error error =>
    rw [hvalue] at ok
    cases ok
  | ok _ =>
    obtain ⟨-, hkeeps⟩ := hturn.kept_of_ok hevents
    rw [List.map_map] at hkeeps
    exact ⟨_, hkeeps, (List.flatMap_def ..).symm⟩

/-- Dropping objects keeps the statements that drop them, the last first. -/
theorem dropObjects_achieves (objects : List SchemaObject) (granted : s.server.admissions = []) :
    Achieves s.server.applied (objects.reverse.map (·.dropStatement)) s (dropObjects objects s) := by
  refine .wrapped (.after (Run.quiet_log _) fun _ => .refl _) fun t hdrifts => ?_
  obtain ⟨⟨value, es, u⟩, hrun⟩ :
      ∃ a, runStatements .standard "rollback" (dropStatementsOf objects) t = a := ⟨_, rfl⟩
  rw [runInstallation_of hrun, ← hdrifts.applied]
  by_cases hnone : objects = []
  · -- Without statements no block is run at all.
    subst hnone
    cases hrun
    exact .nothing _ (.refl t)
  · have hsome : dropStatementsOf objects ≠ [] := by simpa [dropStatementsOf] using hnone
    obtain ⟨hdrifts', ⟨rfl, millis, hkeeps⟩ | ⟨error, rfl, -⟩⟩ :=
      runStatements_keeps .standard "rollback" hsome (hdrifts.admissions.trans granted) hrun
    · exact ⟨hdrifts'.admissions, fun _ => ⟨hdrifts'.applied, _, .single hkeeps, by simp [dropStatementsOf]⟩⟩
    · exact .failed _ _ _ hdrifts'

/-- A change of the rows keeps no statement: the one for it is not shown. -/
theorem changeRows_achieves (s : Session) (sql : String) (act : Bool → Act)
    (silent : ∀ failed (j : Journal), j.record (act failed) = j) (change : List String → List String) :
    Achieves (change s.server.applied) [] s (changeRows sql act change s) := by
  rcases changeRows_ends sql act change s with ⟨faults, h⟩ | ⟨error, faults, h⟩
  · rw [h]
    have hkeeps : Keeps [⟨s.clock, act false⟩] [] := Keeps.nil.skip (silent false)
    exact ⟨rfl, fun _ => ⟨rfl, [], .none hkeeps, rfl⟩⟩
  · rw [h]
    exact ⟨rfl, fun ok => by cases ok⟩

/-- Migrations are applied in order: the statements that create their objects are kept, and their names
    are added to the table. -/
theorem applyEach_achieves (r : Registry) (env : Environment) (granted : s.server.admissions = [])
    {ms : List Migration} (installs : ∀ m ∈ ms, m.InstallsObjects) :
    Achieves (s.server.applied ++ ms.map (·.name))
      ((ms.flatMap Migration.group).flatMap (·.createStatements)) s (r.applyEach env ms s) := by
  induction ms generalizing s with
  | nil =>
    rw [List.map_nil, List.append_nil]
    exact .nothing (.ok ()) (.refl s)
  | cons m rest ih =>
    obtain ⟨hm, hrest⟩ := List.forall_mem_cons.mp installs
    have hup : Achieves s.server.applied (m.group.flatMap (·.createStatements)) s (m.up env s) := by
      unfold Migration.up
      rw [hm]
      exact createObjects_achieves m.group granted
    rw [List.flatMap_cons, List.flatMap_append, List.map_cons, List.append_cons]
    refine hup.andThen fun t hadmissions happlied => ?_
    have hrecord := changeRows_achieves t r.insertStatement (.recorded r.table m.name)
      (fun _ _ => rfl) (· ++ [m.name])
    rw [← Registry.record_eq] at hrecord
    refine hrecord.andThen fun u hadmissions' happlied' => ?_
    rw [← happlied, ← happlied']
    exact ih ((hadmissions'.trans hadmissions).trans granted) hrest

/-- Migrations are removed from the last on: the statements that drop their objects are kept, in the
    reverse order across all of them, and their names are deleted from the table. -/
theorem removeEach_achieves (r : Registry) (versions : List String) (ms : List Migration)
    (granted : s.server.admissions = []) (installs : ∀ m ∈ ms, m.InstallsObjects)
    (applied : s.server.applied = versions ++ ms.reverse.map (·.name))
    (named : (versions ++ ms.reverse.map (·.name)).Nodup) :
    Achieves versions ((ms.reverse.flatMap Migration.group).reverse.map (·.dropStatement)) s
      (r.removeEach ms s) := by
  induction ms generalizing s with
  | nil =>
    simp only [List.reverse_nil, List.map_nil, List.append_nil] at applied
    rw [← applied]
    exact .nothing (.ok ()) (.refl s)
  | cons m rest ih =>
    obtain ⟨hm, hrest⟩ := List.forall_mem_cons.mp installs
    have hdown :
        Achieves s.server.applied (m.group.reverse.map (·.dropStatement)) s (m.down s) := by
      unfold Migration.down
      rw [hm]
      exact dropObjects_achieves m.group granted
    simp only [List.reverse_cons, List.flatMap_append, List.flatMap_singleton, List.map_append,
      List.map_cons, List.map_nil, List.reverse_append] at applied named ⊢
    rw [← List.append_assoc] at applied named
    -- What is removed first is what was applied last.
    refine hdown.andThen fun t hadmissions happlied => ?_
    have herase := changeRows_achieves t r.deleteStatement (.erased r.table m.name)
      (fun _ _ => rfl) (·.filter (· ≠ m.name))
    rw [happlied, applied, filter_ne_concat named, ← Registry.erase_eq] at herase
    refine herase.andThen fun u hadmissions' happlied' => ?_
    exact ih ((hadmissions'.trans hadmissions).trans granted) hrest happlied'
      (List.nodup_append.mp named).1

/-! ## Operations -/

namespace Registry

variable {r : Registry} {k : Nat}

/-- A limit takes as many of the first migrations as it leaves. -/
theorem limited_eq_take_length (steps : Option Nat) (ms : List Migration) :
    limited steps ms = ms.take (limited steps ms).length := by
  obtain ⟨n, hn⟩ := limited_eq_take steps ms
  rw [hn, List.length_take, ← List.take_eq_take_min]

/-- An operation achieves what its steps do. -/
theorem readThen_achieves (r : Registry) {versions xs : List String} {ms : List Migration}
    {read : Run (Except DbError (List Migration))} {steps : List Migration → Run (Except DbError Unit)}
    (asked : ∀ t, s.Drifts t → read.Asked t ms)
    (h : ∀ t, s.Drifts t → Achieves versions xs t (steps ms t)) :
    Achieves versions xs s (r.readThen read steps s) := by
  rcases r.readThen_ends steps asked with ⟨t, hdrifts, hends⟩ | ⟨error, t, hdrifts, hends⟩
  · rw [hends]
    exact (h t hdrifts).drift hdrifts
  · rw [hends]
    exact .failed versions xs error hdrifts

/-- **Applying pending migrations** keeps the statements that create their objects. -/
theorem Sound.migrate_achieves (sound : r.Sound) (env : Environment) (steps : Option Nat)
    (applied : s.server.applied = r.names.take k) (granted : s.server.admissions = [])
    {ms : List Migration} (chosen : limited steps (r.migrations.drop k) = ms) :
    Achieves (r.names.take (k + ms.length)) ((ms.flatMap Migration.group).flatMap (·.createStatements)) s
      (r.migrate env steps s) := by
  have hms : (r.migrations.drop k).take ms.length = ms := by
    rw [← chosen, ← limited_eq_take_length]
  have hsplit : r.migrations.take (k + ms.length) = r.migrations.take k ++ ms := by
    rw [List.take_add, hms]
  rw [migrate_eq]
  refine .transaction (r.readThen_achieves (fun t hdrifts =>
    sound.pending_asked (hdrifts.applied.trans applied)) fun t hdrifts => ?_)
  rw [chosen, (installed_append hsplit).2, ← applied]
  have hversions : t.server.applied = s.server.applied := hdrifts.applied
  rw [← hversions]
  exact applyEach_achieves r env (hdrifts.admissions.trans granted) (sound.installs_of_take hsplit).1

/-- **Removing the last applied migrations** keeps the statements that drop their objects. -/
theorem Sound.rollback_achieves (sound : r.Sound) {ms : List Migration} {k' : Nat}
    (split : r.migrations.take k' = r.migrations.take k ++ ms)
    (applied : s.server.applied = r.names.take k') (granted : s.server.admissions = []) :
    Achieves (r.names.take k) ((ms.flatMap Migration.group).reverse.map (·.dropStatement)) s
      (r.rollback (some ms.length) s) := by
  have hnames := (installed_append split).2
  have hchosen : limited (some ms.length) (r.migrations.take k').reverse = ms.reverse := by
    have htaken : (ms.reverse ++ (r.migrations.take k).reverse).take ms.reverse.length = ms.reverse :=
      List.take_left
    rw [split, List.reverse_append, limited]
    rwa [List.length_reverse] at htaken
  have hnamed := sound.distinct.sublist (List.take_sublist k' r.names)
  have hinstalls := (sound.installs_of_take split).1
  rw [rollback_eq]
  refine .transaction (r.readThen_achieves (fun t hdrifts =>
    sound.applied_asked (hdrifts.applied.trans applied)) fun t hdrifts => ?_)
  have hversions : t.server.applied = r.names.take k' := hdrifts.applied.trans applied
  rw [hnames] at hnamed hversions
  have hremoved := removeEach_achieves r (r.names.take k) ms.reverse
    (hdrifts.admissions.trans granted) fun m hm => hinstalls m (List.mem_reverse.mp hm)
  rw [List.reverse_reverse] at hremoved
  rw [hchosen]
  exact hremoved hversions hnamed

end Registry

/-! ## Nothing pending -/

/-- **A run that starts in a session is idle:** it shows only entries of the log and transactions without
    statements and rows in them, and changes only the clock and the faults. -/
structure Idles {α : Type} (s : Session) (o : Outcome α) : Prop where
  drifts : s.Drifts o.session
  shows : ∀ e ∈ o.events, (∃ entry, e.act = .log entry) ∨ e.act.transacts = true

namespace Idles

variable {α : Type}

/-- Nothing is shown. -/
protected theorem nothing {t : Session} (value : α) (drifts : s.Drifts t) : Idles s ⟨value, [], t⟩ :=
  ⟨drifts, fun _ he => absurd he List.not_mem_nil⟩

/-- A log around an idle run. -/
protected theorem wrapped {run inner : Run α} (wraps : run.Wraps inner)
    (h : ∀ t, s.Drifts t → Idles t (inner t)) : Idles s (run s) := by
  obtain ⟨t, before, after, hstart, hend, -, hevents, hbefore, hafter⟩ := wraps s
  obtain ⟨hdrifts, hshows⟩ := h t hstart
  refine ⟨(hstart.trans hdrifts).trans hend, ?_⟩
  rw [hevents]
  refine List.forall_mem_append.mpr ⟨List.forall_mem_append.mpr ⟨?_, hshows⟩, ?_⟩
  · exact fun e he => .inl (hbefore e he)
  · exact fun e he => .inl (hafter e he)

/-- A transaction around an idle run, whether it is committed or rolled back. -/
protected theorem transaction {work : Run (Except DbError α)}
    (h : Idles { s with server := s.server.begin } (work { s with server := s.server.begin })) :
    Idles s (Run.transaction work s) := by
  obtain ⟨⟨value, es, t⟩, hwork⟩ : ∃ o, work { s with server := s.server.begin } = o := ⟨_, rfl⟩
  rw [hwork] at h
  obtain ⟨⟨clock, faults, rfl⟩, shows⟩ := h
  have around (last : Event) (closes : last.act.transacts = true) :
      ∀ e ∈ ⟨s.clock, .began (s.server.depth + 1)⟩ :: es ++ [last],
        (∃ entry, e.act = .log entry) ∨ e.act.transacts = true := by
    rw [List.cons_append, List.forall_mem_cons, List.forall_mem_append, List.forall_mem_singleton]
    exact ⟨.inr rfl, shows, .inr closes⟩
  cases value with
  | ok _ =>
    rw [Run.transaction_of_ok hwork]
    exact ⟨⟨clock, faults, rfl⟩, around _ rfl⟩
  | error error =>
    rw [Run.transaction_of_error hwork]
    exact ⟨⟨clock, faults, rfl⟩, around _ rfl⟩

end Idles

namespace Registry

variable {r : Registry}

/-- An operation whose steps are idle is so itself. -/
theorem readThen_idles (r : Registry) {ms : List Migration}
    {read : Run (Except DbError (List Migration))} {steps : List Migration → Run (Except DbError Unit)}
    (asked : ∀ t, s.Drifts t → read.Asked t ms) (h : ∀ t, s.Drifts t → Idles t (steps ms t)) :
    Idles s (r.readThen read steps s) := by
  rcases r.readThen_ends steps asked with ⟨t, hdrifts, hends⟩ | ⟨error, t, hdrifts, hends⟩
  · rw [hends]
    exact ⟨hdrifts.trans (h t hdrifts).drifts, (h t hdrifts).shows⟩
  · rw [hends]
    exact .nothing _ hdrifts

/-- All migrations of the registry have been applied; the table may name others too. -/
def NonePending (r : Registry) (s : Session) : Prop :=
  ∀ name ∈ r.names, name ∈ s.server.applied

/-- Without pending migrations nothing is read but the table, and no step is taken. -/
theorem NonePending.migrate_idles (none : r.NonePending s) (env : Environment) (steps : Option Nat) :
    Idles s (r.migrate env steps s) := by
  have hfilter : r.migrations.filter (·.name ∉ s.server.applied) = [] := by
    refine List.filter_eq_nil_iff.mpr fun m hm => ?_
    simpa using none m.name (List.mem_map_of_mem hm)
  have hlimited : limited steps [] = [] := by
    cases steps <;> simp [limited]
  have hpending (t : Session) (applied : t.server.applied = s.server.applied) :
      r.pending.Asked t [] := by
    rw [← hfilter, ← applied]
    exact (knownRows_asked r t).bind (fun faults => Run.asked_ok (t.refault faults) _) fun _ => rfl
  rw [migrate_eq]
  refine .transaction (r.readThen_idles (fun t hdrifts => hpending t hdrifts.applied) fun t _ => ?_)
  rw [hlimited]
  exact .nothing _ (.refl t)

/-- **A call that finds nothing pending is idle.** -/
theorem NonePending.up_idles (none : r.NonePending s) (env : Environment) (steps : Option Nat) :
    Idles s ((Call.up env steps).run r s) := by
  refine .wrapped (Call.up_wraps r env steps) fun t drifts => NonePending.migrate_idles ?_ env steps
  exact fun name hname => drifts.applied ▸ none name hname

end Registry

/-! ## Main result -/

/-- Migrations of the primary registry install groups of the schema, whose statements differ. -/
theorem primary_taken {k : Nat} {ms : List Migration}
    (taken : (Registry.primary.migrations.drop k).take ms.length = ms) :
    ms.flatMap Migration.group = ((Statistics.groups.drop k).take ms.length).flatten ∧
      ((ms.flatMap Migration.group).reverse.map (·.dropStatement)).Nodup := by
  have hsplit : Registry.primary.migrations.take (k + ms.length) =
      Registry.primary.migrations.take k ++ ms := by
    rw [List.take_add, taken]
  have hgroups : Registry.primary.migrations.map Migration.group = Statistics.groups := rfl
  have hknown := (primary_sound.installs_of_take hsplit).2
  have hnodup := primary_sound.nodup_installed (k + ms.length)
  rw [(Registry.installed_append hsplit).1] at hnodup
  constructor
  · rw [← hgroups, ← List.map_drop, ← List.map_take, taken, List.flatMap_def]
  · refine List.Nodup.map_on (fun o ho p hp hdrop => ?_)
      (List.nodup_reverse.mpr (List.nodup_append.mp hnodup).2.1)
    exact primary_sound.legible.eq_of_drop (hknown o (List.mem_reverse.mp ho))
      (hknown p (List.mem_reverse.mp hp)) hdrop

/-- **Removing migrations reverses applying them.** Let the table hold the first `k` migrations of the
    primary registry, and let a call apply pending ones, `m` in all, and a call remove `m` again, at any
    later time and whatever statements the server refuses on the way. If both succeed, then the first
    keeps the statements that create the objects of these migrations, the second keeps the statements
    that drop them, each once and in exactly the reverse order, and the table is as it was. A call that
    finds nothing pending sends no statement and writes no row. -/
theorem primary_reversed (env : Environment) (steps : Option Nat) (k m : Nat) (clock : Instant)
    (faults : List Fault) {up down : Outcome (Except DbError Unit)} {later : Session}
    (applying : (Call.up env steps).run .primary
      ⟨clock, { applied := Registry.primary.names.take k, faults }⟩ = up)
    (upOk : up.value = .ok ())
    (count : up.session.server.applied.length = (Registry.primary.names.take k).length + m)
    (drifts : up.session.Drifts later)
    (removing : (Call.down (some m)).run .primary later = down) (downOk : down.value = .ok ()) :
    ∃ created, created = ((Statistics.groups.drop k).take m).flatten ∧
      up.session.server.applied = Registry.primary.names.take (k + m) ∧
      KeepsStatements up.events (created.flatMap (·.createStatements)) ∧
      down.session.server.applied = Registry.primary.names.take k ∧
      KeepsStatements down.events (created.reverse.map (·.dropStatement)) ∧
      (created.reverse.map (·.dropStatement)).Nodup ∧
      ∀ (s : Session) (env : Environment), Registry.primary.NonePending s →
        Idles s ((Call.up env none).run .primary s) := by
  subst applying removing
  obtain ⟨ms, hms⟩ : ∃ ms, Registry.limited steps (Registry.primary.migrations.drop k) = ms := ⟨_, rfl⟩
  -- The call chooses the first of the pending migrations, so the table grows by what follows in it.
  have htaken : (Registry.primary.migrations.drop k).take ms.length = ms := by
    rw [← hms, ← Registry.limited_eq_take_length]
  have hsplit : Registry.primary.migrations.take (k + ms.length) =
      Registry.primary.migrations.take k ++ ms := by
    rw [List.take_add, htaken]
  let s : Session := ⟨clock, { applied := Registry.primary.names.take k, faults }⟩
  have hup := Achieves.wrapped (Call.up_wraps .primary env steps) fun t (h : s.Drifts t) =>
    primary_sound.migrate_achieves env steps h.applied h.admissions hms
  obtain ⟨hversions, hcreated⟩ := hup.ok upOk
  -- The table counts the migrations that have been applied.
  obtain rfl : m = ms.length := by
    rw [hversions, (Registry.installed_append hsplit).2, List.length_append, List.length_map] at count
    omega
  -- The later session differs in the clock and the faults alone, on which no step of the removal depends.
  have hdown := Achieves.wrapped (Call.down_wraps .primary (some ms.length)) fun t h =>
    primary_sound.rollback_achieves hsplit ((h.applied.trans drifts.applied).trans hversions)
      ((h.admissions.trans drifts.admissions).trans hup.admissions)
  obtain ⟨hrestored, hdropped⟩ := hdown.ok downOk
  obtain ⟨hgroups, hdistinct⟩ := primary_taken htaken
  exact ⟨ms.flatMap Migration.group, hgroups, hversions, hcreated, hrestored, hdropped, hdistinct,
    fun s env none => none.up_idles env _⟩

/-- Applying migrations, without checking the schema for each of them again. -/
theorem applyEach_eq (r : Registry) (env : Environment) (ms : List Migration) :
    r.applyEach env ms = ms.foldr (fun m next => Run.andThen
      (match m.content with
        | .objects group => createEach group
        | .publication => createPublication env)
      (Run.andThen (r.record m.name) next)) (pure (.ok ())) := by
  induction ms with
  | nil => rfl
  | cons m rest ih =>
    have hup : m.up env = (match m.content with
        | .objects group => createEach group
        | .publication => createPublication env) := by
      unfold Migration.up
      cases m.content with
      | objects group => exact createObjects_eq group
      | publication => rfl
    rw [List.foldr_cons, ← ih, ← hup]
    rfl

/-- Two migrations are applied, and a deadlock is absorbed on the way. -/
def absorbedUp : Outcome (Except DbError Unit) :=
  (Call.up (fun _ => none) (some 2)).run .primary
    ⟨0, { faults := [⟨"SET LOCAL", 0, some 1, .custom "deadlock detected"⟩] }⟩

/-- Both are removed again, and another deadlock is absorbed. -/
def absorbedDown : Outcome (Except DbError Unit) :=
  (Call.down (some 2)).run .primary
    (absorbedUp.session.refault [⟨"DROP", 0, some 1, .custom "deadlock detected"⟩])

theorem primary_reversed_absorbed :
    absorbedUp.value = .ok () ∧ absorbedDown.value = .ok () ∧
      absorbedDown.session.server.applied = [] ∧
      ∃ created, created = (Statistics.groups.take 2).flatten ∧
        KeepsStatements absorbedUp.events (created.flatMap (·.createStatements)) ∧
        KeepsStatements absorbedDown.events (created.reverse.map (·.dropStatement)) := by
  have value : absorbedUp.value = .ok () ∧
      absorbedUp.session.server.applied.length = (Registry.primary.names.take 0).length + 2 ∧
      absorbedDown.value = .ok () := by
    -- The check of the schema would be made anew for each migration, so it is taken out beforehand.
    unfold absorbedDown absorbedUp Call.run Registry.migrateLogged Registry.migrate
    dsimp only
    simp only [applyEach_eq]
    decide +kernel
  obtain ⟨upOk, count, downOk⟩ := value
  have applying : (Call.up (fun _ => none) (some 2)).run .primary
      ⟨0, { applied := Registry.primary.names.take 0,
            faults := [⟨"SET LOCAL", 0, some 1, .custom "deadlock detected"⟩] }⟩ = absorbedUp := rfl
  obtain ⟨created, hcreated, -, hup, hdown, hdrops, -, -⟩ := primary_reversed _ _ 0 2 _ _ applying upOk
    count (Session.drifts_refault _ _) (show _ = absorbedDown from rfl) downOk
  exact ⟨upOk, downOk, hdown, created, hcreated, hup, hdrops⟩

end StatSchema
