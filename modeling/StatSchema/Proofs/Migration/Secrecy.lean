import StatSchema.Proofs.Block.Twins
import StatSchema.Proofs.Migration.Consistency
import StatSchema.Proofs.Publication.Password

/-!
# `StatSchema.Proofs.Migration.Secrecy` — what the log shows of the publisher's password

Two calls that install the published statistics, with one password and with another, take the same
course: they end alike and leave the same session. Their logs are the same, line by line, except that a
block that fails for good logs its query, and the query of the installation contains the password. So the
log keeps the password secret exactly as long as it shows no query.

## Contents
- **Log lines.** `LogLine`, `logLines`.
- **One secret.** `Twinning.secret`: two servers that cannot tell two statements apart.
- **Migrations.** `Twinning.Ending.up`: calls whose migrations end alike.
- **Publication.** `Publication.installation`, `createPublication_ending`.
- **Main result.** `subscriber_logs`.
-/

namespace StatSchema

/-! ## Log lines -/

/-- A line of the operational log, as it is written. -/
structure LogLine where
  time : Instant
  level : Level
  message : String
  deriving DecidableEq

/-- The line that an event writes, if it writes one. -/
def Event.line? (e : Event) : Option LogLine :=
  match e.act with
  | .log entry => some ⟨e.time, entry.level, entry.message⟩
  | _ => none

/-- The operational log of a run. -/
def logLines (events : List Event) : List LogLine :=
  events.filterMap Event.line?

/-! ## One secret -/

/-- Rules that concern neither or both of two statements refuse both alike. -/
theorem firstHit_congr {x y : List Char} {faults : List Fault}
    (h : ∀ f ∈ faults, f.concerns x = f.concerns y) : firstHit x faults = firstHit y faults := by
  induction faults with
  | nil => rfl
  | cons f rest ih =>
    obtain ⟨hf, hrest⟩ := List.forall_mem_cons.mp h
    unfold firstHit
    rw [hf, ih hrest]

/-- Rules go on to concern neither or both, whatever statement has been sent. -/
theorem firstHit_concerns {x y : List Char} (sql : List Char) {faults : List Fault}
    (h : ∀ f ∈ faults, f.concerns x = f.concerns y) :
    ∀ f ∈ (firstHit sql faults).2, f.concerns x = f.concerns y := by
  induction faults with
  | nil => exact h
  | cons f rest ih =>
    obtain ⟨hf, hrest⟩ := List.forall_mem_cons.mp h
    cases hconcerns : f.concerns sql with
    | false =>
      rw [firstHit_of_unconcerned hconcerns]
      exact List.forall_mem_cons.mpr ⟨hf, ih hrest⟩
    | true =>
      by_cases hskip : f.skip = 0
      · -- The rule is used up by one, but looks for the same text as before.
        have htimes : f.times ≠ some 0 ∧ Text.contains f.pattern.toList sql = true := by
          simpa [Fault.concerns] using hconcerns
        have hcontains : Text.contains f.pattern.toList x = Text.contains f.pattern.toList y := by
          simpa [Fault.concerns, htimes.1] using hf
        rw [firstHit_of_refused hconcerns hskip]
        refine List.forall_mem_cons.mpr ⟨?_, hrest⟩
        simp [Fault.concerns, hcontains]
      · rw [firstHit_of_skipped hconcerns hskip]
        exact List.forall_mem_cons.mpr ⟨hf, ih hrest⟩

/-- The servers have the same rules, which do not tell two statements apart. -/
def Confused (x y : String) (faults faults' : List Fault) : Prop :=
  faults' = faults ∧ ∀ f ∈ faults, f.concerns x.toList = f.concerns y.toList

theorem Confused.answersAlike (x y sql : String) : AnswersAlike (Confused x y) Eq sql sql := by
  rintro _ faults ⟨rfl, h⟩
  refine ⟨?_, rfl, firstHit_concerns sql.toList h⟩
  cases (firstHit sql.toList faults).1 with
  | none => exact .none
  | some error => exact .some rfl

namespace Twinning

/-- **Two runs that differ in a secret.** The one sends `x` where the other sends `x'`, and a failure may
    show `q` in the log of the one and `q'` in the log of the other. -/
def secret (x x' q q' : String) : Twinning where
  faults := Confused x x'
  error := Eq
  act := fun a a' => a' = a ∧ a.query? = none ∨
    ∃ failed, a = .executed x failed ∧ a' = .executed x' failed
  lost := fun a a' => ∃ entry : LogEntry, entry.query? = some q ∧ a = .log entry ∧
    a' = .log (entry.withQuery q')
  sameError := fun _ => rfl
  plain := fun _ plain => .inl ⟨rfl, plain⟩
  statement := Confused.answersAlike x x'

variable {x x' q q' : String}

/-- The two statements may be exchanged for each other. -/
theorem secret_sendsAlike : (secret x x' q q').SendsAlike x x' := by
  constructor
  · rintro _ faults ⟨rfl, h⟩
    rw [← firstHit_congr h]
    exact Confused.answersAlike x x' x _ _ ⟨rfl, h⟩
  · exact fun failed => .inr ⟨failed, rfl, rfl⟩

theorem secret_reports : (secret x x' q q').Reports q q' := by
  constructor
  · rintro label attempt allowed e _ rfl
    exact .inl ⟨rfl, rfl⟩
  · exact fun entry h => ⟨entry, h, rfl, rfl⟩

/-- Twin events write no lines or lines that are alike: the same, or ones that show the two queries. -/
theorem secret_line {e e' : Event} {failed : Bool} (time : e'.time = e.time)
    (h : (secret x x' q q').act e.act e'.act ∨ failed = true ∧ (secret x x' q q').lost e.act e'.act) :
    e'.line? = e.line? ∧ e.act.query? = none ∨
      ∃ head level, e.act.query? = some q ∧ e.line? = some ⟨e.time, level, head ++ q⟩ ∧
        e'.line? = some ⟨e.time, level, head ++ q'⟩ := by
  obtain ⟨t, a⟩ := e
  obtain ⟨t', a'⟩ := e'
  cases time
  rcases h with (⟨rfl, hplain⟩ | ⟨failed, rfl, rfl⟩) | ⟨-, entry, hquery, rfl, rfl⟩
  · exact .inl ⟨rfl, hplain⟩
  · exact .inl ⟨rfl, rfl⟩
  · obtain ⟨head, hmessage, hmessage'⟩ := LogEntry.message_withQuery hquery
    refine .inr ⟨head, entry.level, hquery, ?_, ?_⟩
    · show some (LogLine.mk t entry.level entry.message) = _
      rw [hmessage]
    · show some (LogLine.mk t (entry.withQuery q').level (entry.withQuery q').message) = _
      rw [hmessage', LogEntry.level_withQuery]

/-- Runs that do not fail show no query. -/
theorem secret_quiet {es es' : List Event} (h : (secret x x' q q').Events false es es') :
    ∀ e ∈ es, e.act.query? = none := by
  induction h with
  | nil => exact fun _ he => absurd he List.not_mem_nil
  | cons hpair _ ih =>
    refine List.forall_mem_cons.mpr ⟨?_, ih⟩
    rcases hpair.2 with (⟨-, hplain⟩ | ⟨failed, hsent, -⟩) | ⟨hfalse, -⟩
    · exact hplain
    · rw [hsent]
      rfl
    · cases hfalse

/-- **The logs are the same exactly if they show no query.** -/
theorem secret_logLines {failed : Bool} {es es' : List Event} (differ : q ≠ q')
    (h : (secret x x' q q').Events failed es es') :
    (logLines es').map (fun l => (l.time, l.level)) = (logLines es).map (fun l => (l.time, l.level)) ∧
      (logLines es' = logLines es ↔ ∀ e ∈ es, e.act.query? = none) := by
  induction h with
  | nil => exact ⟨rfl, fun _ _ h => absurd h List.not_mem_nil, fun _ => rfl⟩
  | @cons e e' es es' hpair _ ih =>
    obtain ⟨hheadings, hlines⟩ := ih
    unfold logLines at hheadings hlines ⊢
    rw [List.forall_mem_cons, ← hlines, List.filterMap_cons, List.filterMap_cons]
    rcases secret_line hpair.1 hpair.2 with ⟨hline, hplain⟩ | ⟨head, level, hquery, hline, hline'⟩
    · rw [hline]
      cases e.line? with
      | none => exact ⟨hheadings, fun h => ⟨hplain, h⟩, fun h => h.2⟩
      | some line =>
        refine ⟨congrArg ((line.time, line.level) :: ·) hheadings, fun h => ?_, fun h => ?_⟩
        · exact ⟨hplain, (List.cons.inj h).2⟩
        · exact congrArg (line :: ·) h.2
    · -- Here the logs differ, whatever lines follow: the two messages begin alike and end in the queries.
      rw [hline, hline']
      refine ⟨congrArg ((e.time, level) :: ·) hheadings, fun h => ?_, fun h => ?_⟩
      · have hmessage : head ++ q' = head ++ q := congrArg LogLine.message (List.cons.inj h).1
        exact absurd ((String.append_right_inj head).mp hmessage).symm differ
      · rw [hquery] at h
        cases h.1

end Twinning

/-! ## Migrations -/

namespace Twinning

variable {T : Twinning}

theorem Twins.checkAll (statements : List String) :
    T.Twins (Ends T.error) (Registry.checkAll statements) (Registry.checkAll statements) := by
  induction statements with
  | nil => exact .pure (.ok ())
  | cons sql rest ih =>
    refine (Twins.check (T.statement sql)).bind fun _ _ h => ?_
    cases h with
    | ok _ => exact ih
    | error h => exact .pure (.error h)

/-- The same rows are read from the table. -/
theorem Twins.knownRows (r : Registry) : T.Twins (Ends T.error) r.knownRows r.knownRows := by
  have hrows : T.Twins (Ends T.error) r.rows r.rows := by
    refine (Twins.checkAll _).bind fun _ _ h => ?_
    cases h with
    | ok _ =>
      exact (Twins.onServer (fun _ => rfl) fun _ _ => rfl).after fun rows => .pure (.ok rows)
    | error h => exact .pure (.error h)
  refine hrows.bind fun _ _ h => ?_
  cases h with
  | ok rows =>
    cases hunknown : r.unknownVersions rows with
    | nil =>
      simp only [hunknown]
      exact .pure (.ok rows)
    | cons version versions =>
      simp only [hunknown]
      exact .pure (.error (T.sameError _))
  | error h => exact .pure (.error h)

/-- The same migrations are pending. -/
theorem Twins.pending (r : Registry) :
    T.Twins (fun read read' => Ends T.error read read' ∧
      ∀ ms, read = .ok ms → ∀ m ∈ ms, m ∈ r.migrations) r.pending r.pending := by
  refine (Twins.knownRows r).bind fun _ _ h => .pure ?_
  cases h with
  | ok rows =>
    refine ⟨.ok _, fun ms hms m hm => ?_⟩
    cases hms
    exact List.mem_of_mem_filter hm
  | @error e e' h =>
    have hread : Ends T.error (.error e : Except DbError (List Migration)) (.error e') := .error h
    exact ⟨hread, fun _ hms => by cases hms⟩

theorem Twins.record (r : Registry) (version : String) :
    T.Twins (Ends T.error) (r.record version) (r.record version) := by
  refine (Twins.check (T.statement _)).bind fun _ _ h => ?_
  cases h with
  | ok _ =>
    refine (Twins.report (T.plain _ rfl)).after fun _ => ?_
    exact (Twins.onServer (fun _ => rfl) fun _ _ => rfl).after fun _ => .pure (.ok ())
  | error h =>
    refine (Twins.report (T.plain _ rfl)).after fun _ => ?_
    exact (Twins.pure (Eq.refl ())).after fun _ => .pure (.error h)

namespace Ending

variable {env env' : Environment}

/-- Migrations that end alike are applied alike. -/
theorem applyEach (r : Registry) {ms : List Migration}
    (h : ∀ m ∈ ms, T.Ending T.error (m.up env) (m.up env')) :
    T.Ending T.error (r.applyEach env ms) (r.applyEach env' ms) := by
  induction ms with
  | nil => exact Twins.ending (.pure (.ok ()))
  | cons m rest ih =>
    obtain ⟨hm, hrest⟩ := List.forall_mem_cons.mp h
    refine hm.bind (fun _ => ?_) (fun _ _ he => .pure (.error he)) fun _ _ => rfl
    exact (Twins.record r m.name).ending.bind (fun _ => ih hrest) (fun _ _ he => .pure (.error he))
      fun _ _ => rfl

theorem migrate (r : Registry) (steps : Option Nat)
    (h : ∀ m ∈ r.migrations, T.Ending T.error (m.up env) (m.up env')) :
    T.Ending T.error (r.migrate env steps) (r.migrate env' steps) := by
  refine .transaction (.bind (Twins.check (T.statement _)).ending (fun _ => ?_)
    (fun _ _ he => .pure (.error he)) fun _ _ => rfl)
  refine .after (.pending r) fun _ _ ⟨hread, hmem⟩ => ?_
  cases hread with
  | ok ms =>
    have hlimited : ∀ m ∈ Registry.limited steps ms, m ∈ r.migrations := by
      obtain ⟨n, hn⟩ := Registry.limited_eq_take steps ms
      rw [hn]
      exact fun m hm => hmem ms rfl m (List.mem_of_mem_take hm)
    exact applyEach r fun m hm => h m (hlimited m hm)
  | error he => exact Twins.ending (.pure (.error he))

/-- **Calls whose migrations end alike do so themselves,** if errors do not differ. -/
theorem up (r : Registry) (steps : Option Nat) (exact : ∀ e e', T.error e e' → e' = e)
    (h : ∀ m ∈ r.migrations, T.Ending T.error (m.up env) (m.up env')) :
    T.Ending T.error ((Call.up env steps).run r) ((Call.up env' steps).run r) := by
  have hfiles : ∀ entry ∈ r.names.map LogEntry.foundFile, entry.query? = none := by simp [LogEntry.query?]
  refine .after (.log rfl) fun _ _ _ => .after (.logAll hfiles) fun _ _ _ => ?_
  refine .after (.log rfl) fun _ _ _ => ?_
  refine (migrate r steps h).bind (fun _ => ?_) (fun e e' he => ?_) fun _ _ => rfl
  · exact Twins.ending ((Twins.log rfl).after fun _ => .pure (.ok _))
  · obtain rfl := exact e e' he
    exact (Twins.log rfl).after fun _ => (Twins.log rfl).after fun _ => .pure (.error he)

end Ending

end Twinning

/-! ## Publication -/

/-- The statements that install the published statistics; none if the settings are not accepted. -/
def Publication.installation (env : Environment) : List String :=
  match Publisher.ofEnvironment env with
  | .error _ => []
  | .ok publisher => (createStatements publisher .full).toOption.getD []

/-- Only the statement that carries the password has to be compared. -/
theorem Publication.installation_concerns (env : Environment) {p p' : String} (nonempty : p ≠ "")
    (nonempty' : p' ≠ "") {f : Fault}
    (h : ∀ publisher, Publisher.ofEnvironment (env.withPassword p) = .ok publisher →
      f.concerns (mappingStatement publisher).toList =
        f.concerns (mappingStatement { publisher with password := p' }).toList) :
    (installation (env.withPassword p)).map (fun sql => f.concerns sql.toList) =
      (installation (env.withPassword p')).map (fun sql => f.concerns sql.toList) := by
  unfold installation
  rcases Publisher.ofEnvironment_withPassword env with ⟨error, hread⟩ | ⟨publisher, hread⟩
  · rw [hread p nonempty, hread p' nonempty']
  · have hmapping := h _ (hread p nonempty)
    rw [hread p nonempty, hread p' nonempty']
    dsimp only
    rcases createStatements_withPassword publisher .full with
      ⟨error, hcreate⟩ | ⟨before, after, hcreate⟩
    · rw [hcreate p, hcreate p']
    · rw [hcreate p, hcreate p']
      simp only [Except.toOption, Option.getD_some, List.map_append, List.map_cons, hmapping]

theorem runInstallation_ending {T : Twinning} (label : String) {xs ys : List String}
    (h : List.Forall₂ T.SendsAlike xs ys)
    (reports : T.Reports (";\n".intercalate xs) (";\n".intercalate ys)) :
    T.Ending T.error (runInstallation label xs) (runInstallation label ys) := by
  refine (Twinning.Ending.runStatements .standard label h reports).bind (fun a => ?_)
    (fun e e' he => ?_) fun _ _ => rfl
  · exact Twinning.Twins.ending (.pure (.ok a))
  · subst he
    exact .pure (.error (T.sameError _))

/-- Installations that differ in one statement end alike, where a failure shows all statements. -/
theorem runInstallation_secret (label : String) (before after : List String) (x x' : String) :
    (Twinning.secret x x' (";\n".intercalate (before ++ x :: after))
        (";\n".intercalate (before ++ x' :: after))).Ending Eq
      (runInstallation label (before ++ x :: after))
      (runInstallation label (before ++ x' :: after)) := by
  refine runInstallation_ending label (List.rel_append ?_ (.cons Twinning.secret_sendsAlike ?_))
    Twinning.secret_reports
  · exact List.forall₂_same.mpr fun sql _ => .refl sql
  · exact List.forall₂_same.mpr fun sql _ => .refl sql

/-- **Installations with different passwords end alike:** they send different statements at one place,
    and show different queries if they fail. -/
theorem createPublication_ending (env : Environment) {p p' : String} (nonempty : p ≠ "")
    (nonempty' : p' ≠ "") (differ : p ≠ p') :
    ∃ x x' q q', q ≠ q' ∧
      (∀ f : Fault,
        (Publication.installation (env.withPassword p)).map (fun sql => f.concerns sql.toList) =
          (Publication.installation (env.withPassword p')).map (fun sql => f.concerns sql.toList) →
        f.concerns x.toList = f.concerns x'.toList) ∧
      (Twinning.secret x x' q q').Ending Eq (createPublication (env.withPassword p))
        (createPublication (env.withPassword p')) := by
  rcases Publisher.ofEnvironment_withPassword env with ⟨error, hread⟩ | ⟨publisher, hread⟩
  · -- Nothing is sent, so any texts will do.
    refine ⟨"", "", "", "-", by decide, fun _ _ => rfl, ?_⟩
    unfold createPublication
    rw [hread p nonempty, hread p' nonempty']
    exact Twinning.Twins.ending (.pure (.error rfl))
  rcases Publication.createStatements_withPassword publisher .full with
    ⟨error, hcreate⟩ | ⟨before, after, hcreate⟩
  · refine ⟨"", "", "", "-", by decide, fun _ _ => rfl, ?_⟩
    unfold createPublication
    rw [hread p nonempty, hread p' nonempty']
    refine .after (.log rfl) fun _ _ _ => ?_
    rw [hcreate p, hcreate p']
    exact Twinning.Twins.ending (.pure (.error rfl))
  · -- The texts of the two statements are long, and all that matters is that they differ.
    obtain ⟨x, hx⟩ :
      ∃ x, Publication.mappingStatement { publisher with password := p } = x := ⟨_, rfl⟩
    obtain ⟨x', hx'⟩ :
      ∃ x', Publication.mappingStatement { publisher with password := p' } = x' := ⟨_, rfl⟩
    have hdiffer : x ≠ x' := by
      rw [← hx, ← hx']
      exact fun h => differ (mappingStatement_injective publisher h)
    refine ⟨x, x', ";\n".intercalate (before ++ x :: after), ";\n".intercalate (before ++ x' :: after),
      fun h => hdiffer (intercalate_injective h), fun f hf => ?_, ?_⟩
    · unfold Publication.installation at hf
      rw [hread p nonempty, hread p' nonempty'] at hf
      dsimp only at hf
      rw [hcreate p, hcreate p', hx, hx'] at hf
      simp only [Except.toOption, Option.getD_some, List.map_append, List.map_cons] at hf
      exact (List.cons.inj (List.append_cancel_left hf)).1
    · unfold createPublication
      rw [hread p nonempty, hread p' nonempty']
      refine .after (.log rfl) fun _ _ _ => ?_
      rw [hcreate p, hcreate p', hx, hx']
      exact runInstallation_secret _ before after x x'

/-! ## Main result -/

/-- **The log keeps the publisher's password secret exactly as long as it shows no query.** Let the
    published statistics be installed with a password and with another, by the migrations themselves or by
    the command that calls them, on servers whose rules concern the same statements of both
    installations. Both runs end alike and leave the same session, and their logs have the same lines at
    the same times, in number and level. A success logs the same; and the logs are the same unless an entry
    shows the query of a block that has failed for good, which tells the passwords apart. -/
theorem subscriber_logs (env : Environment) {p p' : String} (nonempty : p ≠ "") (nonempty' : p' ≠ "")
    {up : Environment → Option Nat → Run (Except DbError Unit)}
    (called : up = Registry.subscriber.migrate ∨
      up = fun env steps => (Call.up env steps).run .subscriber)
    (steps : Option Nat) {s : Session} {o o' : Outcome (Except DbError Unit)}
    (concerned : ∀ f ∈ s.server.faults,
      (Publication.installation (env.withPassword p)).map (fun sql => f.concerns sql.toList) =
        (Publication.installation (env.withPassword p')).map (fun sql => f.concerns sql.toList))
    (run : up (env.withPassword p) steps s = o) (run' : up (env.withPassword p') steps s = o') :
    o'.value = o.value ∧ o'.session = o.session ∧
      (logLines o'.events).map (fun l => (l.time, l.level)) =
        (logLines o.events).map (fun l => (l.time, l.level)) ∧
      (o.value = .ok () → logLines o'.events = logLines o.events) ∧
      (logLines o'.events = logLines o.events ↔ p = p' ∨ ∀ e ∈ o.events, e.act.query? = none) := by
  subst run run'
  by_cases same : p = p'
  · subst same
    exact ⟨rfl, rfl, rfl, fun _ => rfl, fun _ => .inl rfl, fun _ => rfl⟩
  obtain ⟨x, x', q, q', hquery, hconcerns, hpublication⟩ :=
    createPublication_ending env nonempty nonempty' same
  have hmigrations : ∀ m ∈ Registry.subscriber.migrations,
      (Twinning.secret x x' q q').Ending Eq (m.up (env.withPassword p))
        (m.up (env.withPassword p')) := by
    -- The registry has one migration, which installs the publication.
    intro m hm
    rw [List.mem_singleton.mp hm]
    exact hpublication
  have hup : (Twinning.secret x x' q q').Ending Eq (up (env.withPassword p) steps)
      (up (env.withPassword p') steps) := by
    rcases called with rfl | rfl
    · exact .migrate .subscriber steps hmigrations
    · exact .up .subscriber steps (fun _ _ => Eq.symm) hmigrations
  have hsessions : (Twinning.secret x x' q q').Sessions s s :=
    ⟨s.server.faults, rfl, rfl, fun f hf => hconcerns f (concerned f hf)⟩
  obtain ⟨hvalue, hevents, faults', hsession, rfl, -⟩ := hup s s hsessions
  obtain ⟨hheadings, hlines⟩ := Twinning.secret_logLines hquery hevents
  refine ⟨hvalue.eq, hsession, hheadings, fun ok => ?_, fun h => .inr (hlines.mp h), fun h => ?_⟩
  · rw [ok] at hevents
    exact hlines.mpr (Twinning.secret_quiet hevents)
  · exact hlines.mpr (h.resolve_left same)

/-- Settings of a publisher, but for the password. -/
def publisherSettings : Environment := fun key =>
  match key with
  | "DB_HOST" => some "publisher"
  | "DB_PORT" => some "5432"
  | "DB_NAME" => some "explorer"
  | "DB_USERNAME" => some "reader"
  | _ => none

/-- The server does not let anyone install an extension. -/
def extensionRefused : Fault := ⟨"CREATE EXTENSION", 0, none, .custom "permission denied"⟩

/-- An installation on this server. -/
def refusedInstallation (password : String) : Outcome (Except DbError Unit) :=
  Registry.subscriber.migrate (publisherSettings.withPassword password) none
    ⟨0, { faults := [extensionRefused] }⟩

/-- When the attempts are exhausted, the log tells the passwords apart. -/
theorem subscriber_logs_refused :
    (refusedInstallation "omega").value = (refusedInstallation "alpha").value ∧
      logLines (refusedInstallation "omega").events ≠ logLines (refusedInstallation "alpha").events := by
  have alpha : "alpha" ≠ "" := by decide
  have omega : "omega" ≠ "" := by decide
  have hread : Publisher.ofEnvironment (publisherSettings.withPassword "alpha") =
      .ok ⟨"publisher", 5432, "explorer", "reader", "alpha"⟩ := by decide +kernel
  have concerned : ∀ f ∈ [extensionRefused],
      (Publication.installation (publisherSettings.withPassword "alpha")).map
          (fun sql => f.concerns sql.toList) =
        (Publication.installation (publisherSettings.withPassword "omega")).map
          (fun sql => f.concerns sql.toList) := by
    intro f hf
    rw [List.mem_singleton.mp hf]
    refine Publication.installation_concerns publisherSettings alpha omega fun publisher h => ?_
    rw [hread] at h
    cases h
    decide +kernel
  have shown : ∃ e ∈ (refusedInstallation "alpha").events, e.act.query? ≠ none := by decide +kernel
  have run (password : String) :
      Registry.subscriber.migrate (publisherSettings.withPassword password) none
        ⟨0, { faults := [extensionRefused] }⟩ = refusedInstallation password := rfl
  obtain ⟨hvalue, -, -, -, hlines⟩ := subscriber_logs publisherSettings alpha omega (.inl rfl) none
    concerned (run "alpha") (run "omega")
  refine ⟨hvalue, fun h => ?_⟩
  obtain ⟨e, he, hquery⟩ := shown
  rcases hlines.mp h with hsame | hnone
  · exact absurd hsame (by decide)
  · exact hquery (hnone e he)

end StatSchema
