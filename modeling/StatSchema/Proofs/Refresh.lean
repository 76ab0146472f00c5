import StatSchema.Proofs.Block.InTurn
import StatSchema.Proofs.Catalog.Full
import StatSchema.Proofs.Catalog.RefreshOrder
import StatSchema.Refresh

/-!
# `StatSchema.Proofs.Refresh` — a refresh commits a part that is closed under what views read

A refresh is the top-up and then one block for each view of the plan. The blocks run in turn and in
transactions of their own, so wherever a refresh stops, what it has committed is a beginning of its work;
and since the plan puts every view after what it reads, no view of that beginning has been computed from
a view that is older than the refresh.

## Contents
- **Work.** `work`: the top-up and the views of the plan, one block each.
- **Runs.** `refreshEach_runsInTurn`, `refreshCatalog_runsInTurn`.
- **Order.** `refreshStatement_ne_topUp`, `name_of_refreshStatement`, `work_ordered`.
- **Main result.** `CommitsClosed`, `refresh_commitsClosed`.
-/

namespace StatSchema.Refresh

/-! ## Work -/

/-- The block that adds new public keys. -/
def topUpWork (skipTopUp : Bool) : List (String × String) :=
  if skipTopUp then [] else [("public_key_first_transaction top-up", topUpStatement)]

/-- What a refresh does, one statement at a time: the top-up unless it is skipped, and then the views of
    the plan. -/
def work (skipTopUp : Bool) (plan : List SchemaObject) : List (String × String) :=
  topUpWork skipTopUp ++ plan.map fun view => (view.name, view.refreshStatement)

/-- A statement as a block of its own. -/
def alone (w : String × String) : String × List String := (w.1, [w.2])

/-! ## Runs -/

section Runs

variable {s : Session}

/-- **Views are refreshed in turn.** Induction on the views: the others are refreshed where the first has
    been. -/
theorem refreshEach_runsInTurn (views : List (String × String)) (granted : s.server.admissions = []) :
    RunsInTurn (views.map alone) s (refreshEach views s).value (refreshEach views s).events
      (refreshEach views s).session := by
  induction views generalizing s with
  | nil => exact .nil rfl
  | cons view rest ih =>
    obtain ⟨name, statement⟩ := view
    have hsome : [statement] ≠ [] := List.cons_ne_nil statement []
    obtain ⟨⟨value, es, t⟩, hrun⟩ : ∃ a, runStatements .standard name [statement] s = a := ⟨_, rfl⟩
    rw [refreshEach, Run.bind_of (Run.log_apply _ s), Run.bind_of hrun]
    cases value with
    | error error =>
      -- The views that remain are not refreshed, whatever they are.
      have hstop := runStatements_stops hsome granted hrun (rest.map alone)
      rw [← List.append_nil es] at hstop
      exact hstop.log s.clock (.refreshing name)
    | ok _ =>
      have hgranted : t.server.admissions = [] := runStatements_granted hsome granted hrun
      exact (runStatements_before hsome granted hrun (ih hgranted)).log s.clock (.refreshing name)

/-- After the top-up come the views. -/
theorem refreshCatalog_of_topUp {c : Catalog} (valid : c.validate = .ok ()) {maxCost : Cost}
    {views : List (String × String)} (planned : c.refreshStatements maxCost = .ok views)
    {skipTopUp : Bool} {t : Session} {es : List Event} (h : topUp skipTopUp s = ⟨.ok (), es, t⟩) :
    refreshCatalog c maxCost skipTopUp s =
      ⟨(refreshEach views t).value,
       es ++ ⟨t.clock, .log (.refreshingAll views.length maxCost)⟩ :: (refreshEach views t).events,
       (refreshEach views t).session⟩ := by
  unfold refreshCatalog
  rw [valid]
  dsimp only
  rw [Run.bind_of h]
  dsimp only
  rw [planned]
  rfl

/-- After a top-up that fails come none. -/
theorem refreshCatalog_of_failed {c : Catalog} (valid : c.validate = .ok ()) (maxCost : Cost)
    {skipTopUp : Bool} {error : SchemaError} {t : Session} {es : List Event}
    (h : topUp skipTopUp s = ⟨.error error, es, t⟩) :
    refreshCatalog c maxCost skipTopUp s = ⟨.error error, es, t⟩ := by
  unfold refreshCatalog
  rw [valid]
  dsimp only
  rw [Run.bind_of h]
  simp

/-- **A refresh runs its work in turn.** -/
theorem refreshCatalog_runsInTurn {c : Catalog} (valid : c.validate = .ok ()) {maxCost : Cost}
    {plan : List SchemaObject} (planned : c.refreshPlan maxCost = .ok plan) (skipTopUp : Bool)
    (granted : s.server.admissions = []) :
    RunsInTurn ((work skipTopUp plan).map alone) s (refreshCatalog c maxCost skipTopUp s).value
      (refreshCatalog c maxCost skipTopUp s).events
      (refreshCatalog c maxCost skipTopUp s).session := by
  let views := plan.map fun view => (view.name, view.refreshStatement)
  have hviews : c.refreshStatements maxCost = .ok views := by
    rw [Catalog.refreshStatements, planned]
    rfl
  cases skipTopUp with
  | true =>
    have htopUp : topUp true s = ⟨.ok (), [⟨s.clock, .log .skippingTopUp⟩], s⟩ := rfl
    rw [refreshCatalog_of_topUp valid hviews htopUp]
    have hrest := refreshEach_runsInTurn views granted
    exact (hrest.log s.clock (.refreshingAll views.length maxCost)).log s.clock .skippingTopUp
  | false =>
    have hsome : [topUpStatement] ≠ [] := List.cons_ne_nil topUpStatement []
    obtain ⟨⟨value, es, t⟩, hrun⟩ : ∃ a, runStatements .standard
      "public_key_first_transaction top-up" [topUpStatement] s = a := ⟨_, rfl⟩
    have htopUp : topUp false s = ⟨value, ⟨s.clock, .log .toppingUp⟩ :: es, t⟩ := by
      rw [topUp, if_neg Bool.false_ne_true, Run.bind_of (Run.log_apply _ s), hrun]
      rfl
    cases value with
    | error error =>
      rw [refreshCatalog_of_failed valid maxCost htopUp]
      exact (runStatements_stops hsome granted hrun (views.map alone)).log s.clock .toppingUp
    | ok _ =>
      have hgranted : t.server.admissions = [] := runStatements_granted hsome granted hrun
      rw [refreshCatalog_of_topUp valid hviews htopUp]
      have hrest := (refreshEach_runsInTurn views hgranted).log t.clock
        (.refreshingAll views.length maxCost)
      exact (runStatements_before hsome granted hrun hrest).log s.clock .toppingUp

end Runs

/-! ## Order -/

/-- No view is refreshed by the statement of the top-up. -/
theorem refreshStatement_ne_topUp (v : SchemaObject) : v.refreshStatement ≠ topUpStatement := by
  intro h
  have hview : Text.Spells ("REFRESH MATERIALIZED VIEW CONCURRENTLY " ++ v.name) _ :=
    (Text.Spells.literal _).append rfl
  have htopUp : Text.Spells topUpStatement _ := Text.Spells.literal _
  have hfirst := (List.cons.inj ((hview.eq_iff htopUp).mp h)).1
  revert hfirst
  decide

/-- Views are refreshed by different statements. -/
theorem name_of_refreshStatement {v w : SchemaObject} (h : v.refreshStatement = w.refreshStatement) :
    v.name = w.name := by
  unfold SchemaObject.refreshStatement at h
  rw [← String.toList_inj, String.toList_append, String.toList_append, List.append_cancel_left_eq] at h
  exact String.toList_inj.mp h

/-- What follows a list that does not hold it comes after the list. -/
theorem exists_between {α : Type} {xs ys earlier later : List α} {x : α}
    (h : xs ++ ys = earlier ++ x :: later) (hx : x ∉ xs) :
    ∃ between, earlier = xs ++ between ∧ ys = between ++ x :: later := by
  rcases List.append_eq_append_iff.mp h with hafter | ⟨others, rfl, hothers⟩
  · exact hafter
  · cases others with
    | nil => exact ⟨[], by simp, hothers.symm⟩
    | cons y others =>
      rw [List.cons_append] at hothers
      exact absurd (List.mem_append_right earlier ((List.cons.inj hothers).1 ▸ List.mem_cons_self)) hx

/-- **In a beginning of the work of a refresh every view comes after what it reads,** and after the top-up
    unless that is skipped. -/
theorem work_ordered {c : Catalog} (orderly : c.Orderly) {maxCost : Cost} {plan : List SchemaObject}
    (isPlan : c.IsPlan maxCost plan) {skipTopUp : Bool} {committed : List (String × String)}
    (beginning : committed <+: work skipTopUp plan) {earlier later : List String} {v : SchemaObject}
    (hv : v ∈ c.materializedViews)
    (position : committed.map (·.2) = earlier ++ v.refreshStatement :: later) :
    (∀ w, c.Reads v w → w.refreshStatement ∈ earlier) ∧
      (skipTopUp = false → topUpStatement ∈ earlier) := by
  obtain ⟨remaining, hwork⟩ := beginning
  have hposition : (work skipTopUp plan).map (·.2) =
      earlier ++ v.refreshStatement :: (later ++ remaining.map (·.2)) := by
    rw [← hwork, List.map_append, position, List.append_assoc, List.cons_append]
  have hstatements : (work skipTopUp plan).map (·.2) =
      (topUpWork skipTopUp).map (·.2) ++ plan.map (·.refreshStatement) := by
    rw [work, List.map_append, List.map_map]
    rfl
  have htopUp : v.refreshStatement ∉ (topUpWork skipTopUp).map (·.2) := by
    cases skipTopUp with
    | true => exact List.not_mem_nil
    | false => simpa [topUpWork] using refreshStatement_ne_topUp v
  -- The statement is not that of the top-up, so it is that of a view in the plan, and its own view's.
  rw [hstatements] at hposition
  obtain ⟨refreshed, rfl, hplan⟩ := exists_between hposition htopUp
  obtain ⟨before, others, rfl, rfl, hothers⟩ := List.map_eq_append_iff.mp hplan
  obtain ⟨u, after, rfl, hu, -⟩ := List.map_eq_cons_iff.mp hothers
  obtain ⟨hmaterialized, -, hsound⟩ := isPlan.sound before u after rfl
  have huv : u = v := by
    apply Catalog.eq_of_name_materialized orderly.distinct
      (Catalog.mem_materializedViews.mp hmaterialized).1 hv
    exact name_of_refreshStatement hu
  subst huv
  refine ⟨fun w hreads => ?_, fun hskip => ?_⟩
  · have hreaches := orderly.reaches_of_reads (Catalog.mem_materializedViews.mp hv).1 hreads
    exact List.mem_append_right _ (List.mem_map_of_mem (hsound w hreaches))
  · subst hskip
    exact List.mem_append_left _ List.mem_cons_self

/-! ## Main result -/

/-- **What a refresh shows and commits** that starts at the moment `now`: the statements `committed`, which
    are a beginning of its work. -/
structure CommitsClosed (skipTopUp : Bool) (plan : List SchemaObject) (now : Instant) (address : String)
    (o : Outcome (Except Failure Unit)) (committed : List (String × String)) : Prop where
  /-- The server sees the connection and the blocks of the work, in turn, in transactions of their own. -/
  blocks : ∃ blocks value, InTurn now ((work skipTopUp plan).map alone) blocks value ∧
    o.value = value.mapError .schema ∧
    serverEvents o.events = ⟨now, .connected address⟩ :: blocks.flatMap (·.events 1)
  /-- Each statement is committed in a block of its own, and all of them are kept. -/
  kept : commits o.events = committed.length ∧ KeepsBlocks o.events (committed.map fun w => [w.2])
  /-- A success commits the whole work. -/
  ok : o.value = .ok () → committed = work skipTopUp plan
  /-- A failure names the next block of the work, and the server sees none after it. -/
  error : ∀ failure, o.value = .error failure → ∃ next rest,
    work skipTopUp plan = committed ++ next :: rest ∧
    failure = .schema (.retryExhausted next.1 10) ∧
    ∃ blocks : List BlockTrace,
      serverEvents o.events = ⟨now, .connected address⟩ :: blocks.flatMap (·.events 1) ∧
      blocks.map BlockTrace.work = (committed ++ [next]).map alone
  /-- Every view that is committed comes after those that it reads, and after the top-up. -/
  closed : ∀ earlier v later, v ∈ Catalog.full.materializedViews →
    committed.map (·.2) = earlier ++ v.refreshStatement :: later →
    (∀ w, Catalog.full.Reads v w → w.refreshStatement ∈ earlier) ∧
      (skipTopUp = false → topUpStatement ∈ earlier)

/-- A refresh that is given an address connects and refreshes the views of the schema. -/
theorem refresh_of_given {env : Environment} {connection : Connection}
    (given : Connection.ofVariable env Connection.explorerVariable = .ok connection) {maxCost : Cost}
    {skipTopUp : Bool} {s t : Session} {value : Except SchemaError Unit} {es : List Event}
    (h : refreshCatalog .full maxCost skipTopUp s = ⟨value, es, t⟩) :
    refresh env maxCost skipTopUp s =
      ⟨value.mapError .schema, ⟨s.clock, .connected connection.redacted⟩ :: es, t⟩ := by
  have hopen : openConnection env s = ⟨.ok (), [⟨s.clock, .connected connection.redacted⟩], s⟩ := by
    rw [openConnection, given]
    rfl
  have hmap : (do return (← refreshCatalog .full maxCost skipTopUp).mapError Failure.schema) s =
      ⟨value.mapError .schema, es, t⟩ := by
    rw [Run.bind_of h, Run.pure_apply, List.append_nil]
  rw [refresh, Run.bind_of hopen]
  dsimp only
  rw [hmap]
  rfl

/-- **A refresh commits a closed part of its work,** for every cost, with the top-up or without it, and
    whatever statements the server refuses. -/
theorem refresh_commitsClosed {env : Environment} {connection : Connection}
    (given : Connection.ofVariable env Connection.explorerVariable = .ok connection) (maxCost : Cost)
    (skipTopUp : Bool) (clock : Instant) (applied : List String) (faults : List Fault) :
    ∃ plan committed, Catalog.full.refreshPlan maxCost = .ok plan ∧
      CommitsClosed skipTopUp plan clock connection.redacted
        (refresh env maxCost skipTopUp ⟨clock, { applied, faults }⟩) committed := by
  have orderly := Catalog.orderly_of_validate Catalog.full_valid
  obtain ⟨plan, hplan, isPlan⟩ := Catalog.refreshPlan_isPlan orderly.distinct maxCost
  let s : Session := ⟨clock, { applied, faults }⟩
  have granted : s.server.admissions = [] := rfl
  obtain ⟨blocks, hturn, hevents, -⟩ :=
    refreshCatalog_runsInTurn Catalog.full_valid hplan skipTopUp granted
  obtain ⟨⟨value, es, t⟩, hrun⟩ : ∃ a, refreshCatalog .full maxCost skipTopUp s = a := ⟨_, rfl⟩
  rw [refresh_of_given given hrun]
  rw [hrun] at hturn hevents
  have hshown : serverEvents (⟨clock, .connected connection.redacted⟩ :: es) =
      ⟨clock, .connected connection.redacted⟩ :: blocks.flatMap (·.events 1) :=
    congrArg (List.cons _) hevents
  -- The connection is no statement: what is committed and kept is that of the blocks.
  have hkept {ws : List (String × String)} (hcommits : commits es = (ws.map alone).length)
      (hkeeps : KeepsBlocks es ((ws.map alone).map (·.2))) :
      commits (⟨clock, .connected connection.redacted⟩ :: es) = ws.length ∧
        KeepsBlocks (⟨clock, .connected connection.redacted⟩ :: es) (ws.map fun w => [w.2]) := by
    rw [List.length_map] at hcommits
    rw [List.map_map] at hkeeps
    exact ⟨hcommits, hkeeps.skip fun _ => rfl⟩
  cases value with
  | ok _ =>
    obtain ⟨hcommits, hkeeps⟩ := hturn.kept_of_ok hevents
    exact ⟨plan, work skipTopUp plan, hplan, ⟨blocks, .ok (), hturn, rfl, hshown⟩,
      hkept hcommits hkeeps, fun _ => rfl, fun _ h => (by cases h),
      fun _ _ _ => work_ordered orderly isPlan (List.prefix_refl _)⟩
  | error error =>
    obtain ⟨before, failing, after, hwork, rfl, hblocks, hcommits, hkeeps⟩ :=
      hturn.kept_of_error hevents
    obtain ⟨committed, others, hcommitted, rfl, hothers⟩ := List.map_eq_append_iff.mp hwork
    obtain ⟨next, rest, rfl, rfl, -⟩ := List.map_eq_cons_iff.mp hothers
    refine ⟨plan, committed, hplan, ⟨blocks, _, hturn, rfl, hshown⟩, hkept hcommits hkeeps,
      fun h => (by cases h), fun failure hfailure => ?_,
      fun _ _ _ => work_ordered orderly isPlan ⟨next :: rest, hcommitted.symm⟩⟩
    refine ⟨next, rest, hcommitted, (Except.error.inj hfailure).symm, blocks, hshown, ?_⟩
    rw [hblocks, List.map_append, List.map_singleton]

/-- Settings with an address for every variable. -/
def oneAddress : Environment := fun _ => some "postgres://reader:secret@db:5432/explorer"

theorem refresh_commitsClosed_refused :
    Connection.ofVariable oneAddress Connection.explorerVariable =
        .ok ⟨"postgres://reader:secret@db:5432/explorer", "db", "5432", "explorer", "reader", "secret"⟩ ∧
      ∃ plan committed, Catalog.full.refreshPlan .heavy = .ok plan ∧
        CommitsClosed false plan 0 "postgres://reader:***@db:5432/explorer"
          (refresh oneAddress .heavy false
            ⟨0, { applied := [], faults := [⟨"leaderboard", 2, none, .custom "deadlock detected"⟩] }⟩)
          committed := by
  have given : Connection.ofVariable oneAddress Connection.explorerVariable =
      .ok ⟨"postgres://reader:secret@db:5432/explorer", "db", "5432", "explorer", "reader", "secret"⟩ :=
    rfl
  exact ⟨given, refresh_commitsClosed given .heavy false 0 []
    [⟨"leaderboard", 2, none, .custom "deadlock detected"⟩]⟩

end StatSchema.Refresh
