import Mathlib.Data.List.Forall2
import StatSchema.Proofs.Server.Journal

/-!
# `StatSchema.Proofs.Server.Twins` — two runs side by side

Some laws compare two runs: with one password and with another, with one kind of refusal and with
another. Such runs take the same course as long as the servers answer alike, and what may differ is
listed once (`Twinning`). Then the runs show the same acts at the same moments, up to those differences,
and this is put together from what the parts of the runs do.

## Contents
- **Queries in the log.** `LogEntry.query?`, `LogEntry.withQuery`, `Act.query?`.
- **Twins.** `Twinning`, `Ends`; what twin sessions, events and outcomes are.
- **Runs that yield alike.** `Twinning.Twins` and its laws, one for each primitive.
- **Runs that end alike.** `Twinning.Ending` and its laws: a run that fails may show more differences.
-/

namespace StatSchema

/-! ## Queries in the log -/

namespace LogEntry

/-- The query that an entry shows: entries of blocks that fail for good do. -/
def query? : LogEntry → Option String
  | .overdue _ _ query => some query
  | .cancelled _ _ _ _ query => some query
  | .exhausted _ _ query => some query
  | _ => none

/-- The entry with another query, if it shows one. -/
def withQuery (query : String) : LogEntry → LogEntry
  | .overdue label deadline _ => .overdue label deadline query
  | .cancelled label deadline attempt allowed _ => .cancelled label deadline attempt allowed query
  | .exhausted label attempts _ => .exhausted label attempts query
  | entry => entry

/-- The message of an entry that shows a query ends in it. -/
theorem message_withQuery {entry : LogEntry} {query : String} (h : entry.query? = some query) :
    ∃ head, entry.message = head ++ query ∧
      ∀ query', (entry.withQuery query').message = head ++ query' := by
  cases entry with
  | overdue | cancelled | exhausted =>
    cases h
    exact ⟨_, rfl, fun _ => rfl⟩
  | _ => cases h

theorem level_withQuery (entry : LogEntry) (query : String) :
    (entry.withQuery query).level = entry.level := by
  cases entry <;> rfl

end LogEntry

/-- The query that an act shows in the log. -/
def Act.query? : Act → Option String
  | .log entry => entry.query?
  | _ => none

/-! ## Twins -/

/-- Two servers whose rules `F` relates answer two statements alike: both accept, or both refuse with
    errors that `E` relates; and their rules are still related then. -/
def AnswersAlike (F : List Fault → List Fault → Prop) (E : DbError → DbError → Prop)
    (sql sql' : String) : Prop :=
  ∀ faults faults', F faults faults' →
    Option.Rel E (firstHit sql.toList faults).1 (firstHit sql'.toList faults').1 ∧
      F (firstHit sql.toList faults).2 (firstHit sql'.toList faults').2

/-- **What may differ between two runs.** -/
structure Twinning where
  /-- The rules by which the servers refuse statements. -/
  faults : List Fault → List Fault → Prop
  /-- The errors of refused statements. -/
  error : DbError → DbError → Prop
  /-- The acts. -/
  act : Act → Act → Prop
  /-- Further acts of runs that fail. -/
  lost : Act → Act → Prop
  /-- Errors need not differ. -/
  sameError : ∀ e, error e e
  /-- Acts need not differ, unless a query is shown. -/
  plain : ∀ a : Act, a.query? = none → act a a
  /-- The same statement is answered alike. -/
  statement : ∀ sql, AnswersAlike faults error sql sql

/-- **Two results are alike:** the same value, or errors that `E` relates. -/
inductive Ends {ε ε' α : Type} (E : ε → ε' → Prop) : Except ε α → Except ε' α → Prop where
  | ok (a : α) : Ends E (.ok a) (.ok a)
  | error {e : ε} {e' : ε'} (h : E e e') : Ends E (.error e) (.error e')

theorem Ends.eq {ε α : Type} {r r' : Except ε α} (h : Ends Eq r r') : r' = r := by
  cases h with
  | ok _ => rfl
  | error h => rw [h]

namespace Twinning

variable (T : Twinning)

/-- The sessions differ at most in the rules of their servers. -/
def Sessions (s s' : Session) : Prop :=
  ∃ faults', s' = s.refault faults' ∧ T.faults s.server.faults faults'

/-- The events correspond one for one, at the same moments. -/
def Events (failed : Bool) : List Event → List Event → Prop :=
  List.Forall₂ fun e e' =>
    e'.time = e.time ∧ (T.act e.act e'.act ∨ failed = true ∧ T.lost e.act e'.act)

/-- The outcomes are alike: their values are, as `V` says, their events and their sessions. -/
structure Alike {α β : Type} (V : α → β → Prop) (failed : Bool) (o : Outcome α) (o' : Outcome β) :
    Prop where
  value : V o.value o'.value
  events : T.Events failed o.events o'.events
  session : T.Sessions o.session o'.session

/-- **Runs that yield alike,** wherever they start. -/
def Twins {α β : Type} (V : α → β → Prop) (run : Run α) (run' : Run β) : Prop :=
  ∀ s s', T.Sessions s s' → T.Alike V false (run s) (run' s')

/-- **Runs that end alike:** they may show what is lost only if they fail. -/
def Ending {ε ε' α : Type} (E : ε → ε' → Prop) (run : Run (Except ε α)) (run' : Run (Except ε' α)) :
    Prop :=
  ∀ s s', T.Sessions s s' → T.Alike (Ends E) (!(run s).value.isOk) (run s) (run' s')

/-- Statements that are sent alike: they may be exchanged for each other. -/
def SendsAlike (sql sql' : String) : Prop :=
  AnswersAlike T.faults T.error sql sql' ∧
    ∀ failed, T.act (.executed sql failed) (.executed sql' failed)

variable {T} {α β γ δ : Type} {V : α → β → Prop} {W : γ → δ → Prop}

theorem SendsAlike.refl (sql : String) : T.SendsAlike sql sql :=
  ⟨T.statement sql, fun _ => T.plain _ rfl⟩

theorem Sessions.clock {s s' : Session} (h : T.Sessions s s') : s'.clock = s.clock := by
  obtain ⟨faults', rfl, -⟩ := h
  rfl

namespace Events

variable {failed : Bool} {es es' fs fs' : List Event}

protected theorem nil (failed : Bool) : T.Events failed [] [] := List.Forall₂.nil

protected theorem append (h : T.Events failed es es') (h' : T.Events failed fs fs') :
    T.Events failed (es ++ fs) (es' ++ fs') :=
  List.rel_append h h'

/-- Two acts at the same moment. -/
protected theorem single {a a' : Act} (h : T.act a a') (time : Instant) (failed : Bool) :
    T.Events failed [⟨time, a⟩] [⟨time, a'⟩] :=
  List.Forall₂.cons ⟨rfl, .inl h⟩ List.Forall₂.nil

/-- What may differ in every run may also differ in a run that fails. -/
protected theorem weaken (h : T.Events false es es') : T.Events failed es es' := by
  refine h.imp fun e e' ⟨htime, hact⟩ => ⟨htime, .inl ?_⟩
  rcases hact with hact | ⟨hfalse, -⟩
  · exact hact
  · cases hfalse

end Events

/-! ## Runs that yield alike -/

namespace Twins

protected theorem pure {a : α} {b : β} (h : V a b) : T.Twins V (pure a) (pure b) :=
  fun _ _ sessions => ⟨h, .nil false, sessions⟩

/-- **Sequences.** -/
protected theorem bind {first : Run α} {first' : Run β} {next : α → Run γ} {next' : β → Run δ}
    (h : T.Twins V first first') (h' : ∀ a b, V a b → T.Twins W (next a) (next' b)) :
    T.Twins W (first >>= next) (first' >>= next') := by
  intro s s' sessions
  obtain ⟨value, events, sessions'⟩ := h s s' sessions
  obtain ⟨value', events', sessions''⟩ := h' _ _ value _ _ sessions'
  exact ⟨value', events.append events', sessions''⟩

/-- A run after one that yields the same in both. -/
protected theorem after {first first' : Run α} {next : α → Run γ} {next' : α → Run δ}
    (h : T.Twins Eq first first') (h' : ∀ a, T.Twins W (next a) (next' a)) :
    T.Twins W (first >>= next) (first' >>= next') := by
  refine h.bind fun a b hab => ?_
  subst hab
  exact h' a

protected theorem now : T.Twins Eq Run.now Run.now :=
  fun _ _ sessions => ⟨sessions.clock.symm, .nil false, sessions⟩

protected theorem waitUntil (moment : Instant) :
    T.Twins Eq (Run.waitUntil moment) (Run.waitUntil moment) := by
  rintro s s' ⟨faults', rfl, hfaults⟩
  exact ⟨rfl, .nil false, faults', rfl, hfaults⟩

protected theorem sleep (pause : Duration) : T.Twins Eq (Run.sleep pause) (Run.sleep pause) := by
  rintro s s' ⟨faults', rfl, hfaults⟩
  obtain ⟨millis, hmillis⟩ : ∃ millis, Run.pauseLength (millisUp pause.toNanos) = millis := ⟨_, rfl⟩
  rw [Run.sleep_apply, Run.sleep_apply, hmillis]
  exact ⟨rfl, .nil false, faults', rfl, hfaults⟩

protected theorem report {a a' : Act} (h : T.act a a') : T.Twins Eq (Run.report a) (Run.report a') := by
  rintro s s' ⟨faults', rfl, hfaults⟩
  exact ⟨rfl, .single h s.clock false, faults', rfl, hfaults⟩

/-- An entry of the log that shows no query. -/
protected theorem log {entry : LogEntry} (plain : entry.query? = none) :
    T.Twins Eq (Run.log entry) (Run.log entry) :=
  .report (T.plain _ plain)

protected theorem logAll {entries : List LogEntry} (plain : ∀ entry ∈ entries, entry.query? = none) :
    T.Twins Eq (Run.logAll entries) (Run.logAll entries) := by
  induction entries with
  | nil => exact .pure rfl
  | cons entry rest ih =>
    obtain ⟨hentry, hrest⟩ := List.forall_mem_cons.mp plain
    exact (Twins.log hentry).after fun _ => ih hrest

/-- A change of the server that does not depend on its rules and leaves them as they are. -/
protected theorem onServer {change : Server → α × Server}
    (faults : ∀ server, (change server).2.faults = server.faults)
    (apart : ∀ (server : Server) (faults : List Fault), change { server with faults } =
      ((change server).1, { (change server).2 with faults })) :
    T.Twins Eq (Run.onServer change) (Run.onServer change) := by
  rintro s s' ⟨faults', rfl, hfaults⟩
  have hchange : change (s.refault faults').server =
      ((change s.server).1, { (change s.server).2 with faults := faults' }) := apart s.server faults'
  rw [Run.onServer_apply, Run.onServer_apply, hchange]
  refine ⟨rfl, .nil false, faults', rfl, ?_⟩
  show T.faults (change s.server).2.faults faults'
  rw [faults]
  exact hfaults

protected theorem begin : T.Twins Eq Run.begin Run.begin :=
  (Twins.onServer (fun _ => rfl) fun _ _ => rfl).after fun _ => .report (T.plain _ rfl)

protected theorem commit : T.Twins Eq Run.commit Run.commit :=
  (Twins.onServer (fun _ => rfl) fun _ _ => rfl).after fun _ => .report (T.plain _ rfl)

protected theorem rollback : T.Twins Eq Run.rollback Run.rollback :=
  (Twins.onServer (fun _ => rfl) fun _ _ => rfl).after fun _ => .report (T.plain _ rfl)

protected theorem requestTransaction : T.Twins Eq Run.requestTransaction Run.requestTransaction := by
  refine .onServer (fun server => ?_) fun server faults => ?_
  · unfold Server.nextAdmission
    split <;> rfl
  · unfold Server.nextAdmission
    dsimp only
    split <;> rfl

/-- Statements that are answered alike. -/
protected theorem check {sql sql' : String} (h : AnswersAlike T.faults T.error sql sql') :
    T.Twins (Ends T.error) (Run.check sql) (Run.check sql') := by
  rintro s s' ⟨faults', rfl, hfaults⟩
  have hanswers := h _ _ hfaults
  obtain ⟨⟨hit, rest⟩, hfirst⟩ : ∃ a, firstHit sql.toList s.server.faults = a := ⟨_, rfl⟩
  obtain ⟨⟨hit', rest'⟩, hfirst'⟩ : ∃ a, firstHit sql'.toList faults' = a := ⟨_, rfl⟩
  have hfaults' : (s.refault faults').server.faults = faults' := rfl
  rw [hfirst, hfirst'] at hanswers
  obtain ⟨hhits, hrest⟩ := hanswers
  unfold Run.check
  rw [Run.onServer_apply, Run.onServer_apply, Server.check, Server.check, hfaults', hfirst, hfirst']
  cases hhits with
  | none => exact ⟨.ok (), .nil false, rest', rfl, hrest⟩
  | some herror => exact ⟨.error herror, .nil false, rest', rfl, hrest⟩

/-- Statements are sent. -/
protected theorem execute {sql sql' : String} (h : T.SendsAlike sql sql') :
    T.Twins (Ends T.error) (Run.execute sql) (Run.execute sql') := by
  obtain ⟨hanswers, hshown⟩ := h
  refine (Twins.check hanswers).bind fun result result' hresult => ?_
  cases hresult with
  | ok _ => exact (Twins.report (hshown false)).after fun _ => .pure (.ok ())
  | error herror => exact (Twins.report (hshown true)).after fun _ => .pure (.error herror)

protected theorem executeAll {xs ys : List String} (h : List.Forall₂ T.SendsAlike xs ys) :
    T.Twins (Ends T.error) (Run.executeAll xs) (Run.executeAll ys) := by
  induction h with
  | nil => exact .pure (.ok ())
  | cons hsql _ ih =>
    refine (Twins.execute hsql).bind fun result result' hresult => ?_
    cases hresult with
    | ok _ => exact ih
    | error herror => exact .pure (.error herror)

/-- Transactions are closed alike. -/
protected theorem settle {ε : DbError → DbError → Prop} {result result' : Except DbError α}
    (h : Ends ε result result') : T.Twins (Ends ε) (Run.settle result) (Run.settle result') := by
  cases h with
  | ok a => exact Twins.commit.after fun _ => .pure (.ok a)
  | error herror => exact Twins.rollback.after fun _ => .pure (.error herror)

end Twins

/-! ## Runs that end alike -/

variable {ε ε' ε₁ ε₁' : Type} {E : ε → ε' → Prop} {E₁ : ε₁ → ε₁' → Prop}

/-- Runs that yield alike end alike. -/
theorem Twins.ending {run : Run (Except ε α)} {run' : Run (Except ε' α)}
    (h : T.Twins (Ends E) run run') : T.Ending E run run' := by
  intro s s' sessions
  obtain ⟨value, events, sessions'⟩ := h s s' sessions
  exact ⟨value, events.weaken, sessions'⟩

namespace Ending

/-- A run after one that yields alike. -/
protected theorem after {first : Run α} {first' : Run β} {next : α → Run (Except ε γ)}
    {next' : β → Run (Except ε' γ)} (h : T.Twins V first first')
    (h' : ∀ a b, V a b → T.Ending E (next a) (next' b)) :
    T.Ending E (first >>= next) (first' >>= next') := by
  intro s s' sessions
  obtain ⟨value, events, sessions'⟩ := h s s' sessions
  obtain ⟨value', events', sessions''⟩ := h' _ _ value _ _ sessions'
  exact ⟨value', events.weaken.append events', sessions''⟩

/-- **Sequences.** What is lost of a first part that fails may be shown, provided that the whole fails. -/
protected theorem bind {first : Run (Except ε α)} {first' : Run (Except ε' α)}
    {next : Except ε α → Run (Except ε₁ γ)} {next' : Except ε' α → Run (Except ε₁' γ)}
    (h : T.Ending E first first') (ok : ∀ a, T.Ending E₁ (next (.ok a)) (next' (.ok a)))
    (error : ∀ e e', E e e' → T.Twins (Ends E₁) (next (.error e)) (next' (.error e')))
    (fails : ∀ e s, (next (.error e) s).value.isOk = false) :
    T.Ending E₁ (first >>= next) (first' >>= next') := by
  intro s s' sessions
  obtain ⟨⟨value, es, t⟩, hfirst⟩ : ∃ o, first s = o := ⟨_, rfl⟩
  obtain ⟨⟨value', es', t'⟩, hfirst'⟩ : ∃ o, first' s' = o := ⟨_, rfl⟩
  have hboth := h s s' sessions
  rw [hfirst, hfirst'] at hboth
  obtain ⟨hvalue, hevents, hsessions⟩ := hboth
  rw [Run.bind_of hfirst, Run.bind_of hfirst']
  cases hvalue with
  | ok a =>
    obtain ⟨hvalue', hevents', hsessions'⟩ := ok a t t' hsessions
    exact ⟨hvalue', hevents.weaken.append hevents', hsessions'⟩
  | @error e e' herror =>
    obtain ⟨hvalue', hevents', hsessions'⟩ := error e e' herror t t' hsessions
    -- The whole fails with its first part, so what that part has lost may be shown.
    have hfailed := fails e t
    refine ⟨hvalue', ?_, hsessions'⟩
    show T.Events _ (es ++ _) (es' ++ _)
    rw [hfailed]
    exact hevents.append hevents'.weaken

/-- A last entry of the log before a failure. -/
protected theorem lost {entry entry' : LogEntry} {e : ε} {e' : ε'}
    (h : T.lost (.log entry) (.log entry')) (herror : E e e') :
    T.Ending E (Run.log entry >>= fun _ => (pure (.error e) : Run (Except ε α)))
      (Run.log entry' >>= fun _ => (pure (.error e') : Run (Except ε' α))) := by
  rintro s s' ⟨faults', rfl, hfaults⟩
  have hevents : T.Events true [⟨s.clock, .log entry⟩] [⟨s.clock, .log entry'⟩] :=
    .cons ⟨rfl, .inr ⟨rfl, h⟩⟩ .nil
  exact ⟨.error herror, hevents, faults', rfl, hfaults⟩

/-- **Transactions.** -/
protected theorem transaction {E : DbError → DbError → Prop} {work work' : Run (Except DbError α)}
    (h : T.Ending E work work') : T.Ending E (Run.transaction work) (Run.transaction work') := by
  refine Ending.after Twins.begin fun _ _ _ => ?_
  exact h.bind (fun a => (Twins.settle (.ok a)).ending) (fun e e' he => Twins.settle (.error he))
    fun _ _ => rfl

end Ending

end Twinning

end StatSchema
