import Mathlib.Data.List.Induction
import StatSchema.Proofs.Catalog.Placement
import StatSchema.Proofs.Catalog.Rules

/-!
# `StatSchema.Proofs.Catalog.RefreshOrder` — a refresh reads no stale view

The plan keeps of the order of all views those that are cheap enough and whose sources it has kept. On a
catalog with distinct names that makes it a plan in the sense of `Catalog.IsPlan`. In a catalog that is
accepted the dependencies are what the objects mention, and they point backwards: whatever a view of the
plan mentions, through plain views or not, is refreshed before it, and no view is too late for a plan
that allows every cost.

## Contents
- **Choice.** `affordable_append`, `affordable_sublist`, `affordable_sound`.
- **Plans.** `IsPlan`, `refreshPlan_isPlan`.
- **Backwards.** `forall_mem_of_before`, `Orderly.mem_of_reaches`, `Orderly.induction`.
- **Readings.** `Reads`, `Orderly.reaches_of_reads`, `refreshPlan_fresh`.
-/

namespace StatSchema.Catalog

variable {c : Catalog} {maxCost : Cost}

/-! ## Choice -/

theorem latest?_of_mem (distinct : c.names.Nodup) {v : SchemaObject} (hv : v ∈ c.objects) :
    c.latest? v.name = some v :=
  latestOf?_of_mem distinct hv

theorem affordable_of_latest? {name : String} {v : SchemaObject} (h : c.latest? name = some v)
    (admitted order : List String) :
    c.affordable maxCost admitted (name :: order) =
      if v.cost ≤ maxCost ∧ ∀ source ∈ c.sources v, source ∈ admitted then
        v :: c.affordable maxCost (name :: admitted) order
      else c.affordable maxCost admitted order := by
  rw [affordable, h]

/-- **One step of the choice.** A name is passed over, or it is that of a view that is cheap enough and
    has all its sources admitted, and the view is chosen. Which it is does not depend on the rest. -/
theorem affordable_step (c : Catalog) (maxCost : Cost) (admitted : List String) (name : String) :
    (∀ order, c.affordable maxCost admitted (name :: order) = c.affordable maxCost admitted order) ∨
      ∃ v ∈ c.objects, v.name = name ∧ v.cost ≤ maxCost ∧ (∀ source ∈ c.sources v, source ∈ admitted) ∧
        ∀ order, c.affordable maxCost admitted (name :: order) =
          v :: c.affordable maxCost (name :: admitted) order := by
  cases h : c.latest? name with
  | none =>
    refine .inl fun order => ?_
    rw [affordable, h]
  | some v =>
    obtain ⟨hmem, hname⟩ := mem_of_latestOf? h
    by_cases hv : v.cost ≤ maxCost ∧ ∀ source ∈ c.sources v, source ∈ admitted
    · refine .inr ⟨v, hmem, hname, hv.1, hv.2, fun order => ?_⟩
      rw [affordable_of_latest? h, if_pos hv]
    · refine .inl fun order => ?_
      rw [affordable_of_latest? h, if_neg hv]

/-- What is chosen from the rest of an order depends on what has been chosen before. -/
theorem affordable_append (admitted before after : List String) :
    c.affordable maxCost admitted (before ++ after) =
      c.affordable maxCost admitted before ++
        c.affordable maxCost (((c.affordable maxCost admitted before).map (·.name)).reverse ++ admitted)
          after := by
  induction before generalizing admitted with
  | nil => rfl
  | cons name before ih =>
    rcases affordable_step c maxCost admitted name with
      hpass | ⟨v, -, hname, -, -, hchosen⟩
    · rw [List.cons_append, hpass, hpass]
      exact ih admitted
    · rw [List.cons_append, hchosen, hchosen, ih]
      simp [hname]

/-- The plan keeps the order. -/
theorem affordable_sublist (admitted order : List String) :
    ((c.affordable maxCost admitted order).map (·.name)).Sublist order := by
  induction order generalizing admitted with
  | nil => exact .slnil
  | cons name order ih =>
    rcases affordable_step c maxCost admitted name with
      hpass | ⟨v, -, hname, -, -, hchosen⟩
    · rw [hpass]
      exact (ih admitted).cons name
    · rw [hchosen, List.map_cons, hname]
      exact (ih _).cons_cons name

/-- A view is chosen when it is cheap enough and its sources have been chosen. -/
theorem affordable_sound {admitted order : List String} {before after : List SchemaObject}
    {v : SchemaObject} (h : c.affordable maxCost admitted order = before ++ v :: after) :
    v ∈ c.objects ∧ v.cost ≤ maxCost ∧
      ∀ source ∈ c.sources v, source ∈ before.map (·.name) ∨ source ∈ admitted := by
  induction order generalizing admitted before with
  | nil => cases before <;> cases h
  | cons name order ih =>
    rcases affordable_step c maxCost admitted name with
      hpass | ⟨first, hmem, hname, hcost, hsources, hchosen⟩
    · rw [hpass] at h
      exact ih h
    · rw [hchosen] at h
      cases before with
      | nil =>
        cases h
        exact ⟨hmem, hcost, fun source hs => .inr (hsources source hs)⟩
      | cons _ before =>
        obtain ⟨rfl, hrest⟩ := List.cons.inj h
        obtain ⟨hv, hvcost, hvsources⟩ := ih hrest
        refine ⟨hv, hvcost, fun source hs => ?_⟩
        rw [List.map_cons, hname, List.mem_cons]
        rcases hvsources source hs with hbefore | hadmitted
        · exact .inl (.inr hbefore)
        · rcases List.mem_cons.mp hadmitted with rfl | hadmitted
          · exact .inl (.inl rfl)
          · exact .inr hadmitted

/-- A view is chosen when its name is in the order after its sources, and it is cheap enough, and its
    sources have been chosen. -/
theorem mem_affordable {before after : List String} {v : SchemaObject}
    (found : c.latest? v.name = some v) (cheap : v.cost ≤ maxCost)
    (sources : ∀ source ∈ c.sources v, source ∈ (c.affordable maxCost [] before).map (·.name)) :
    v ∈ c.affordable maxCost [] (before ++ v.name :: after) := by
  have hchosen : v.cost ≤ maxCost ∧ ∀ source ∈ c.sources v,
      source ∈ ((c.affordable maxCost [] before).map (·.name)).reverse ++ [] := by
    refine ⟨cheap, fun source hs => ?_⟩
    rw [List.append_nil, List.mem_reverse]
    exact sources source hs
  rw [affordable_append, affordable_of_latest? found, if_pos hchosen]
  exact List.mem_append_right _ List.mem_cons_self

/-! ## Plans -/

/-- What the plan up to `maxCost` is to be: each view at most once, cheap enough and after all that it
    reaches, and no view is left out that is cheap enough and whose sources are all there. -/
structure IsPlan (c : Catalog) (maxCost : Cost) (plan : List SchemaObject) : Prop where
  nodup : plan.Nodup
  sound : ∀ before v after, plan = before ++ v :: after →
    v ∈ c.materializedViews ∧ v.cost ≤ maxCost ∧ ∀ w, c.Reaches v w → w ∈ before
  closed : ∀ v ∈ c.materializedViews, v.cost ≤ maxCost → (∀ w, c.Reaches v w → w ∈ plan) → v ∈ plan

/-- The views of a plan are materialized. -/
theorem IsPlan.materialized {plan : List SchemaObject} (h : c.IsPlan maxCost plan) {v : SchemaObject}
    (hv : v ∈ plan) : v ∈ c.materializedViews := by
  obtain ⟨before, after, position⟩ := List.append_of_mem hv
  exact (h.sound before v after position).1

theorem mem_needs {v : SchemaObject} (hv : v ∈ c.materializedViews) :
    (v.name, c.sources v) ∈ c.needs :=
  List.mem_map_of_mem hv

theorem eq_of_name_materialized (distinct : c.names.Nodup) {v w : SchemaObject}
    (hv : v ∈ c.objects) (hw : w ∈ c.materializedViews) (h : v.name = w.name) : v = w :=
  eq_of_name distinct hv (mem_materializedViews.mp hw).1 h

/-- What is chosen from an order of the views is a plan. -/
theorem affordable_isPlan (distinct : c.names.Nodup) {order : List String} (h : c.needs.Order order) :
    c.IsPlan maxCost (c.affordable maxCost [] order) := by
  have hsublist : ((c.affordable maxCost [] order).map (·.name)).Sublist order :=
    affordable_sublist [] order
  have hmaterialized {v : SchemaObject} (hv : v ∈ c.objects)
      (hchosen : v ∈ c.affordable maxCost [] order) : v ∈ c.materializedViews := by
    have hname := h.named v.name (hsublist.subset (List.mem_map_of_mem hchosen))
    rw [map_needs] at hname
    obtain ⟨w, hw, heq⟩ := List.mem_map.mp hname
    rw [eq_of_name_materialized distinct hv hw heq.symm]
    exact hw
  refine ⟨List.Nodup.of_map _ (h.nodup.sublist hsublist), ?sound, ?closed⟩
  case sound =>
    intro before v after position
    obtain ⟨hv, hcost, hsources⟩ := affordable_sound position
    refine ⟨hmaterialized hv (position ▸ List.mem_append_right _ List.mem_cons_self), hcost, ?_⟩
    intro w hreaches
    have hsource : w.name ∈ c.sources v := (mem_sources_iff distinct).mpr ⟨w, hreaches, rfl⟩
    -- The object of that name which stands before is `w` itself, since names are distinct.
    rcases hsources w.name hsource with hbefore | hnone
    · obtain ⟨w', hw', heq⟩ := List.mem_map.mp hbefore
      have hmem : w' ∈ c.objects := by
        obtain ⟨left, right, hsplit⟩ := List.append_of_mem hw'
        rw [hsplit, List.append_assoc, List.cons_append] at position
        exact (affordable_sound position).1
      rw [← eq_of_name_materialized distinct hmem hreaches.mem heq]
      exact hw'
    · exact absurd hnone List.not_mem_nil
  case closed =>
    intro v hv hcost hreaches
    have hchosen : ∀ source ∈ c.sources v,
        source ∈ (c.affordable maxCost [] order).map (·.name) := by
      intro source hs
      obtain ⟨w, hw, rfl⟩ := (mem_sources_iff distinct).mp hs
      exact List.mem_map_of_mem (hreaches w hw)
    have hplaced : v.name ∈ order := h.complete v.name (c.sources v) (mem_needs hv)
      fun source hs => hsublist.subset (hchosen source hs)
    obtain ⟨before, after, rfl⟩ := List.append_of_mem hplaced
    have hbefore := h.ordered before v.name after rfl (c.sources v) (mem_needs hv)
    refine mem_affordable (latest?_of_mem distinct (mem_materializedViews.mp hv).1) hcost ?_
    intro source hs
    -- a source that is chosen later would stand twice in the order
    have hsource := hchosen source hs
    rw [affordable_append, List.map_append, List.mem_append] at hsource
    rcases hsource with hsource | hlater
    · exact hsource
    · have hafter := (affordable_sublist _ _).subset hlater
      exact absurd rfl ((List.nodup_append.mp h.nodup).2.2 source (hbefore source hs) source hafter)

/-- **On a catalog with distinct names there is a plan, whatever reads what.** -/
theorem refreshPlan_isPlan (distinct : c.names.Nodup) (maxCost : Cost) :
    ∃ plan, c.refreshPlan maxCost = .ok plan ∧ c.IsPlan maxCost plan := by
  obtain ⟨order, horder, h⟩ := placementOrder_order distinct
  refine ⟨c.affordable maxCost [] order, ?_, affordable_isPlan distinct h⟩
  rw [refreshPlan, horder]
  rfl

/-! ## Backwards -/

/-- What holds of an entry of a list when it holds of all before it holds of every entry. -/
theorem forall_mem_of_before {α : Type} {motive : α → Prop} {xs : List α}
    (step : ∀ before x after, xs = before ++ x :: after → (∀ y ∈ before, motive y) → motive x) :
    ∀ x ∈ xs, motive x := by
  induction xs using List.reverseRecOn with
  | nil => exact fun x hx => absurd hx List.not_mem_nil
  | append_singleton xs last ih =>
    have hxs : ∀ x ∈ xs, motive x := by
      apply ih
      intro before x after position
      apply step before x (after ++ [last])
      rw [position, List.append_assoc, List.cons_append]
    intro x hx
    rcases List.mem_append.mp hx with hx | hx
    · exact hxs x hx
    · obtain rfl := List.mem_singleton.mp hx
      exact step xs x [] rfl hxs

namespace Orderly

variable {before after : List SchemaObject} {o w : SchemaObject}

/-- A path that starts before an object ends before it. -/
theorem mem_of_leads (orderly : c.Orderly) (position : c.objects = before ++ o :: after)
    {name : String} (h : Leads c.objects name w) (hname : name ∈ before.map (·.name)) :
    w ∈ before := by
  have hbefore {p : SchemaObject} (hp : p ∈ c.objects) (hname : p.name ∈ before.map (·.name)) :
      p ∈ before := by
    obtain ⟨p', hp', heq⟩ := List.mem_map.mp hname
    have hmem : p' ∈ c.objects := position ▸ List.mem_append_left _ hp'
    rw [← eq_of_name orderly.distinct hmem hp heq]
    exact hp'
  induction h with
  | here member _ => exact hbefore member hname
  | through member _ declared _ ih =>
    -- The dependencies of a view that stands before `o` stand before that view.
    obtain ⟨left, right, hsplit⟩ := List.append_of_mem (hbefore member hname)
    apply ih
    rw [hsplit, List.map_append]
    refine List.mem_append_left _ (orderly.backward left _ (right ++ o :: after) ?_ _ declared)
    rw [position, hsplit, List.append_assoc, List.cons_append]

/-- What an object reaches stands before it. -/
theorem mem_of_reaches (orderly : c.Orderly) (position : c.objects = before ++ o :: after)
    (h : c.Reaches o w) : w ∈ before := by
  obtain ⟨name, declared, hleads⟩ := h
  exact orderly.mem_of_leads position hleads (orderly.backward before o after position name declared)

/-- **Induction along the readings.** What holds of a materialized view when it holds of all that the
    view reaches holds of every materialized view. -/
theorem induction (orderly : c.Orderly) {motive : SchemaObject → Prop}
    (step : ∀ v ∈ c.materializedViews, (∀ w, c.Reaches v w → motive w) → motive v) :
    ∀ v ∈ c.materializedViews, motive v := by
  have hall : ∀ v ∈ c.objects, v ∈ c.materializedViews → motive v := by
    apply forall_mem_of_before
    intro before v after position ih hmaterialized
    refine step v hmaterialized fun w hw => ?_
    exact ih w (orderly.mem_of_reaches position hw) hw.mem
  intro v hv
  exact hall v (mem_materializedViews.mp hv).1 hv

end Orderly

/-! ## Readings -/

/-- An object reads a materialized view: its SQL mentions the view, which is another object, or it
    mentions a plain view that reads it. -/
inductive Reads (c : Catalog) : SchemaObject → SchemaObject → Prop where
  | direct {o w : SchemaObject} (member : w ∈ c.materializedViews) (other : w ≠ o)
      (mentioned : o.mentions w.name) : Reads c o w
  | through {o p w : SchemaObject} (member : p ∈ c.objects) (plain : p.kind = .view)
      (mentioned : o.mentions p.name) (rest : Reads c p w) : Reads c o w

/-- Where everything that is mentioned is declared, what an object reads it reaches. -/
theorem Orderly.reaches_of_reads (orderly : c.Orderly) {o w : SchemaObject} (ho : o ∈ c.objects)
    (h : c.Reads o w) : c.Reaches o w := by
  induction h with
  | @direct o w member other mentioned =>
    obtain ⟨hw, hmaterialized⟩ := mem_materializedViews.mp member
    have hname : w.name ≠ o.name := fun heq => other (eq_of_name orderly.distinct hw ho heq)
    exact ⟨w.name, orderly.declared o ho w hw hname mentioned, .here hw hmaterialized⟩
  | @through o p w member plain mentioned _ ih =>
    obtain ⟨name, declared, hleads⟩ := ih member
    by_cases hname : p.name = o.name
    · -- a plain view that mentions itself need not declare that
      obtain rfl := eq_of_name orderly.distinct member ho hname
      exact ⟨name, declared, hleads⟩
    · exact ⟨p.name, orderly.declared o ho p member hname mentioned,
        .through member plain declared hleads⟩

/-- **Every materialized view is in the plan that allows every cost.** -/
theorem Orderly.perm_of_isPlan (orderly : c.Orderly) {plan : List SchemaObject}
    (h : c.IsPlan .heavy plan) : plan.Perm c.materializedViews := by
  have hnodup : c.materializedViews.Nodup := (List.Nodup.of_map _ orderly.distinct).filter _
  refine (List.perm_ext_iff_of_nodup h.nodup hnodup).mpr fun v => ⟨h.materialized, fun hv => ?_⟩
  refine orderly.induction (motive := (· ∈ plan)) (fun v hv hreaches => ?_) v hv
  exact h.closed v hv v.cost.le_heavy hreaches

/-- **A refresh reads no stale view.** For an accepted catalog and every cost there is a plan; it has
    each view at most once, and every materialized view that a view of the plan mentions, itself or
    through plain views, stands before that view. The plan that allows every cost has exactly the
    materialized views of the catalog. -/
theorem refreshPlan_fresh (valid : c.validate = .ok ()) :
    (∀ maxCost, ∃ plan, c.refreshPlan maxCost = .ok plan ∧ plan.Nodup ∧
      ∀ before v after, plan = before ++ v :: after → ∀ w, c.Reads v w → w ∈ before) ∧
    ∃ plan, c.refreshPlan .heavy = .ok plan ∧ plan.Perm c.materializedViews := by
  have orderly := orderly_of_validate valid
  refine ⟨fun maxCost => ?_, ?_⟩
  · obtain ⟨plan, hplan, h⟩ := refreshPlan_isPlan orderly.distinct maxCost
    refine ⟨plan, hplan, h.nodup, fun before v after position w hreads => ?_⟩
    obtain ⟨hv, -, hreaches⟩ := h.sound before v after position
    exact hreaches w (orderly.reaches_of_reads (mem_materializedViews.mp hv).1 hreads)
  · obtain ⟨plan, hplan, h⟩ := refreshPlan_isPlan orderly.distinct .heavy
    exact ⟨plan, hplan, orderly.perm_of_isPlan h⟩

/-- Two materialized views, the second of which reads the first through a plain view. -/
def chained : Catalog where
  objects :=
    [{ SchemaObject.materialized "total" .singleton .light with
        body := "SELECT 0 AS id", directives := [.hide] },
     { SchemaObject.view "shown" .singleton with
        dependsOn := ["total"], body := "SELECT id FROM total", directives := [.hide] },
     { SchemaObject.materialized "rank" .singleton .heavy with
        dependsOn := ["shown"], body := "SELECT id FROM shown", directives := [.hide] }]

theorem refreshPlan_fresh_chained : chained.validate = .ok () ∧
    (∀ maxCost, ∃ plan, chained.refreshPlan maxCost = .ok plan ∧ plan.Nodup ∧
      ∀ before v after, plan = before ++ v :: after → ∀ w, chained.Reads v w → w ∈ before) ∧
    ∃ plan, chained.refreshPlan .heavy = .ok plan ∧ plan.Perm chained.materializedViews := by
  have valid : chained.validate = .ok () := by rfl
  exact ⟨valid, refreshPlan_fresh valid⟩

end StatSchema.Catalog
