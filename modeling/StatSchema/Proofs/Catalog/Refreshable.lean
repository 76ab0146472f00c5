import StatSchema.Proofs.Catalog.RefreshOrder

/-!
# `StatSchema.Proofs.Catalog.Refreshable` — which views a refresh recomputes

A view can be refreshed up to a cost when it is cheap enough and everything that it reaches can be
refreshed too. Dependencies may be unknown, point forward or run in circles; a view that reaches itself
waits for itself and can never be refreshed, and neither can a view that reaches it. The plan contains
exactly the views that can be refreshed.

## Contents
- **Views.** `Refreshable`, the least set that is closed under the rule.
- **Plans.** `IsPlan.refreshable`, `IsPlan.mem_of_refreshable`, `refreshPlan_exact`.
-/

namespace StatSchema.Catalog

variable {c : Catalog} {maxCost : Cost} {plan : List SchemaObject} {v : SchemaObject}

/-! ## Views -/

/-- **The materialized views that can be refreshed up to a cost**: the least set that contains a view
    whenever the view is cheap enough and everything that it reaches is in the set. -/
inductive Refreshable (c : Catalog) (maxCost : Cost) : SchemaObject → Prop where
  | intro {v : SchemaObject} (member : v ∈ c.materializedViews) (cheap : v.cost ≤ maxCost)
      (reached : ∀ w, c.Reaches v w → Refreshable c maxCost w) : Refreshable c maxCost v

/-! ## Plans -/

/-- Each view of a plan can be refreshed, as those before it can. -/
theorem IsPlan.refreshable (h : c.IsPlan maxCost plan) : ∀ v ∈ plan, c.Refreshable maxCost v := by
  apply forall_mem_of_before
  intro before v after position ih
  obtain ⟨member, cheap, reached⟩ := h.sound before v after position
  exact .intro member cheap fun w hw => ih w (reached w hw)

/-- No view that can be refreshed is left out of a plan. -/
theorem IsPlan.mem_of_refreshable (h : c.IsPlan maxCost plan) (hv : c.Refreshable maxCost v) :
    v ∈ plan := by
  induction hv with
  | intro member cheap _ ih => exact h.closed _ member cheap ih

/-- **The plan is exact on every catalog with distinct names**, whatever its objects depend on: it exists,
    has each view once, has just the views that can be refreshed, and has each of them after every
    materialized view that it reaches. -/
theorem refreshPlan_exact (distinct : c.names.Nodup) (maxCost : Cost) :
    ∃ plan, c.refreshPlan maxCost = .ok plan ∧ plan.Nodup ∧
      (∀ v, v ∈ plan ↔ c.Refreshable maxCost v) ∧
      ∀ before v after, plan = before ++ v :: after → ∀ w, c.Reaches v w → w ∈ before := by
  obtain ⟨plan, hplan, h⟩ := refreshPlan_isPlan distinct maxCost
  refine ⟨plan, hplan, h.nodup, ?exact, ?ordered⟩
  case exact =>
    intro v
    exact ⟨h.refreshable v, h.mem_of_refreshable⟩
  case ordered =>
    intro before v after position
    exact (h.sound before v after position).2.2

/-- Views that read one another in every way: `top` reads `base` twice itself and twice through plain
    views, `loop` reads itself through a plain view, `late` reads what is created after it, and one name
    is not that of an object. -/
def tangled : Catalog where
  objects :=
    [{ SchemaObject.materialized "late" .singleton .light with dependsOn := ["base"] },
     SchemaObject.materialized "base" .singleton .light,
     { SchemaObject.view "left" .singleton with dependsOn := ["base", "absent"] },
     { SchemaObject.view "right" .singleton with dependsOn := ["left", "base"] },
     { SchemaObject.materialized "top" .singleton .heavy with
        dependsOn := ["base", "left", "right", "base"] },
     { SchemaObject.view "around" .singleton with dependsOn := ["around", "loop"] },
     { SchemaObject.materialized "loop" .singleton .light with dependsOn := ["around"] },
     { SchemaObject.materialized "behind" .singleton .light with dependsOn := ["loop", "base"] }]

theorem refreshPlan_exact_tangled : tangled.names.Nodup ∧
    ∃ plan, tangled.refreshPlan .heavy = .ok plan ∧ plan.Nodup ∧
      (∀ v, v ∈ plan ↔ tangled.Refreshable .heavy v) ∧
      ∀ before v after, plan = before ++ v :: after → ∀ w, tangled.Reaches v w → w ∈ before := by
  have distinct : tangled.names.Nodup := by decide
  exact ⟨distinct, refreshPlan_exact distinct .heavy⟩

end StatSchema.Catalog
