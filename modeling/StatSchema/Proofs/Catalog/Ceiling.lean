import StatSchema.Proofs.Catalog.Refreshable

/-!
# `StatSchema.Proofs.Catalog.Ceiling` — raising the ceiling only adds views

The order in which views are placed does not depend on what they cost; the ceiling decides which of them
are kept. Under a higher ceiling a view that was kept is kept again, since its sources are, so the plan of
the lower ceiling is what remains of the plan of the higher one when some views are crossed out.

## Contents
- **Choice.** `affordable_mono`.
- **Plans.** `refreshPlan_mono`.
-/

namespace StatSchema

theorem Cost.le_trans {a b c : Cost} (hab : a ≤ b) (hbc : b ≤ c) : a ≤ c :=
  Nat.le_trans hab hbc

namespace Catalog

variable {c : Catalog} {lower upper : Cost}

/-! ## Choice -/

/-- **What is chosen under a ceiling is chosen under a higher one**, in the same order. The induction is
    on the order, and what carries it is that all that is admitted below is admitted above. -/
theorem affordable_mono (le : lower ≤ upper) {admitted admitted' : List String}
    (sub : admitted ⊆ admitted') (order : List String) :
    (c.affordable lower admitted order).Sublist (c.affordable upper admitted' order) := by
  induction order generalizing admitted admitted' with
  | nil => exact .slnil
  | cons name order ih =>
    cases found : c.latest? name with
    | none =>
      rw [affordable, affordable, found]
      exact ih sub
    | some v =>
      rw [affordable_of_latest? found, affordable_of_latest? found]
      by_cases hlower : v.cost ≤ lower ∧ ∀ source ∈ c.sources v, source ∈ admitted
      · have hupper : v.cost ≤ upper ∧ ∀ source ∈ c.sources v, source ∈ admitted' :=
          ⟨Cost.le_trans hlower.1 le, fun source hs => sub (hlower.2 source hs)⟩
        rw [if_pos hlower, if_pos hupper]
        exact (ih (List.cons_subset_cons name sub)).cons_cons v
      · rw [if_neg hlower]
        split
        · exact (ih (List.subset_cons_of_subset name sub)).cons v
        · exact ih sub

/-! ## Plans -/

/-- **Raising the ceiling only adds views.** On a catalog with distinct names the plan of a lower ceiling
    is a sublist of that of a higher one: no view disappears and none changes places. So it is with the
    statements. -/
theorem refreshPlan_mono (distinct : c.names.Nodup) (le : lower ≤ upper) :
    ∃ plan plan', c.refreshPlan lower = .ok plan ∧ c.refreshPlan upper = .ok plan' ∧
      plan.Sublist plan' ∧
      ∃ statements statements', c.refreshStatements lower = .ok statements ∧
        c.refreshStatements upper = .ok statements' ∧ statements.Sublist statements' := by
  obtain ⟨order, horder, -⟩ := placementOrder_order distinct
  have hplan (maxCost : Cost) : c.refreshPlan maxCost = .ok (c.affordable maxCost [] order) := by
    rw [refreshPlan, horder]
    rfl
  have hstatements (maxCost : Cost) : c.refreshStatements maxCost =
      .ok ((c.affordable maxCost [] order).map fun view => (view.name, view.refreshStatement)) := by
    rw [refreshStatements, hplan]
    rfl
  have sub : (c.affordable lower [] order).Sublist (c.affordable upper [] order) :=
    affordable_mono le (List.Subset.refl []) order
  exact ⟨_, _, hplan lower, hplan upper, sub, _, _, hstatements lower, hstatements upper, sub.map _⟩

theorem refreshPlan_mono_tangled : tangled.names.Nodup ∧ Cost.light ≤ Cost.heavy ∧
    ∃ plan plan', tangled.refreshPlan .light = .ok plan ∧ tangled.refreshPlan .heavy = .ok plan' ∧
      plan.Sublist plan' ∧
      ∃ statements statements', tangled.refreshStatements .light = .ok statements ∧
        tangled.refreshStatements .heavy = .ok statements' ∧ statements.Sublist statements' := by
  have distinct : tangled.names.Nodup := by decide
  have le : Cost.light ≤ Cost.heavy := Cost.le_heavy .light
  exact ⟨distinct, le, refreshPlan_mono distinct le⟩

end Catalog

end StatSchema
