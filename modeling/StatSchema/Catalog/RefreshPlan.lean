import StatSchema.Catalog.Sources

/-!
# `StatSchema.Catalog.RefreshPlan` — the order in which views are refreshed

A view may be refreshed when all its sources have been. The plan counts, for each view, the sources not
yet placed; views whose count is zero wait in a queue, and placing a view counts down those that read
it. A view that is too expensive is then left out, and with it every view that reads it.

## Contents
- **Counts.** `Counts`: a count for each name, with `set` and `total`.
- **Queue.** `Frontier`: the counts and the queue; `release`, `releaseAll`, and the `weight` that every
  placed view lowers.
- **Order.** `placeAll`, `Catalog.placementOrder`.
- **Plan.** `affordable`, `Catalog.refreshPlan`, `Catalog.refreshStatements`.
-/

namespace StatSchema

/-! ## Counts -/

/-- A count for each name; of two entries for one name the first is in force. -/
abbrev Counts := List (String × Nat)

namespace Counts

/-- Replaces the count in force for `name`. -/
def set (name : String) (count : Nat) : Counts → Counts
  | [] => []
  | (key, old) :: rest =>
    if name = key then (key, count) :: rest else (key, old) :: set name count rest

/-- The sum of all counts. -/
def total : Counts → Nat
  | [] => 0
  | (_, count) :: rest => count + total rest

theorem total_set {counts : Counts} {name : String} {n : Nat}
    (h : counts.lookup name = some (n + 1)) : total (counts.set name n) + 1 = counts.total := by
  induction counts with
  | nil => simp at h
  | cons entry rest ih =>
    obtain ⟨key, old⟩ := entry
    by_cases hk : name = key
    · subst hk
      simp only [List.lookup_cons, BEq.rfl, Option.some.injEq] at h
      simp only [set, total, ↓reduceIte]
      omega
    · have hb : (name == key) = false := by simpa using hk
      simp only [List.lookup_cons, hb] at h
      have := ih h
      simp only [set, hk, total, ↓reduceIte]
      omega

end Counts

/-! ## Queue -/

/-- How far an order has come. -/
structure Frontier where
  /-- For each view, how many of its sources have not been placed. -/
  missing : Counts
  /-- The views with no missing source, in the order in which they will be placed. -/
  ready : List String

namespace Frontier

/-- The number of steps that can still follow. -/
def weight (f : Frontier) : Nat :=
  f.missing.total + f.ready.length

/-- Notes that a source of the view `reader` has been placed; a view that misses none any more joins the
    queue. -/
def release (f : Frontier) (reader : String) : Except OutOfRange Frontier :=
  match f.missing.lookup reader with
  | none => .ok f
  | some 0 => .error .countBelowZero
  | some (n + 1) =>
    .ok { missing := f.missing.set reader n
          ready := if n = 0 then f.ready ++ [reader] else f.ready }

/-- Notes that a source of each of the views `readers` has been placed. -/
def releaseAll (f : Frontier) : List String → Except OutOfRange Frontier
  | [] => .ok f
  | reader :: readers =>
    match f.release reader with
    | .error fault => .error fault
    | .ok f => f.releaseAll readers

theorem weight_release {f g : Frontier} {reader : String} (h : f.release reader = .ok g) :
    g.weight ≤ f.weight := by
  unfold release at h
  split at h
  · cases h
    exact Nat.le_refl _
  · cases h
  · next n hn =>
    cases h
    have ht := Counts.total_set hn
    by_cases h0 : n = 0
    · subst h0
      simp only [weight, ↓reduceIte, List.length_append, List.length_cons, List.length_nil]
      omega
    · simp only [weight, h0, ↓reduceIte]
      omega

theorem weight_releaseAll {f g : Frontier} {readers : List String}
    (h : f.releaseAll readers = .ok g) : g.weight ≤ f.weight := by
  induction readers generalizing f with
  | nil =>
    cases h
    exact Nat.le_refl _
  | cons reader readers ih =>
    simp only [releaseAll] at h
    split at h
    · cases h
    · next f' hf => exact Nat.le_trans (ih h) (weight_release hf)

end Frontier

/-! ## Order -/

/-- A view with the names of its sources. -/
abbrev Needs := List (String × List String)

/-- The views that read `source`, in the order of `needs`. -/
def Needs.readersOf (needs : Needs) (source : String) : List String :=
  (needs.filter fun (_, sources) => source ∈ sources).map (·.1)

/-- Places the views of the queue one by one, each releasing its readers. -/
def placeAll (needs : Needs) (f : Frontier) : Except OutOfRange (List String) :=
  match hr : f.ready with
  | [] => .ok []
  | name :: ready =>
    match h : ({ f with ready } : Frontier).releaseAll (needs.readersOf name) with
    | .error fault => .error fault
    | .ok g =>
      have : g.weight < f.weight := by
        have := Frontier.weight_releaseAll h
        simp only [Frontier.weight, hr, List.length_cons] at this ⊢
        omega
      (placeAll needs g).map (name :: ·)
termination_by f.weight

namespace Catalog

/-- Every materialized view with its sources. -/
def needs (c : Catalog) : Needs :=
  c.materializedViews.map fun view => (view.name, c.sources view)

/-- The counts and the queue before any view is placed. -/
def initialFrontier (c : Catalog) : Frontier :=
  let missing : Counts := (c.needs.map fun (name, sources) => (name, sources.length)).reverse
  { missing
    ready := (c.needs.map (·.1)).filter fun name => missing.lookup name = some 0 }

/-- The materialized views in an order that puts each after its sources. -/
def placementOrder (c : Catalog) : Except OutOfRange (List String) :=
  placeAll c.needs c.initialFrontier

/-! ## Plan -/

/-- The views of `order` that cost at most `maxCost` and whose sources have all been admitted before. -/
def affordable (c : Catalog) (maxCost : Cost) : (admitted order : List String) →
    List SchemaObject
  | _, [] => []
  | admitted, name :: order =>
    match c.latest? name with
    | none => affordable c maxCost admitted order
    | some view =>
      if view.cost ≤ maxCost ∧ ∀ source ∈ c.sources view, source ∈ admitted then
        view :: affordable c maxCost (name :: admitted) order
      else affordable c maxCost admitted order

/-- The views that a refresh up to `maxCost` recomputes, each after its sources; a view with a source
    that is left out is left out too. -/
def refreshPlan (c : Catalog) (maxCost : Cost) : Except OutOfRange (List SchemaObject) :=
  c.placementOrder.map (c.affordable maxCost [])

/-- The plan as the names of the views with their statements. -/
def refreshStatements (c : Catalog) (maxCost : Cost) :
    Except OutOfRange (List (String × String)) :=
  (c.refreshPlan maxCost).map fun plan => plan.map fun view => (view.name, view.refreshStatement)

end Catalog

end StatSchema
