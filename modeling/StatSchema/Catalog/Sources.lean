import StatSchema.Catalog.Basic

/-!
# `StatSchema.Catalog.Sources` — the materialized views behind an object

A materialized view must be refreshed after every materialized view whose rows it reads. It may read
them directly, or through plain views, which keep no rows of their own and are looked through. Tables,
functions and materialized views are where the search ends.

## Contents
- `without`: objects but for those of one name.
- `sourcesFrom`: the search, which visits no name twice.
- `Catalog.sources`: the materialized views behind one object.
-/

namespace StatSchema

namespace Catalog

/-- The objects that are not called `name`. -/
def without (objects : List SchemaObject) (name : String) : List SchemaObject :=
  objects.filter (·.name ≠ name)

theorem length_without_lt {objects : List SchemaObject} {name : String} {o : SchemaObject}
    (h : latestOf? objects name = some o) : (without objects name).length < objects.length := by
  obtain ⟨ho, hn⟩ := mem_of_latestOf? h
  exact List.length_filter_lt_length_iff_exists.mpr ⟨o, ho, by simp [hn]⟩

/-- The materialized views among the names on `stack` and behind the plain views there, each once, as far
    as they are among the objects `unvisited`. -/
def sourcesFrom (unvisited : List SchemaObject) (stack : List String) : List String :=
  match stack with
  | [] => []
  | name :: stack =>
    match h : latestOf? unvisited name with
    | none => sourcesFrom unvisited stack
    | some o =>
      have := length_without_lt h
      match o.kind with
      | .materializedView => name :: sourcesFrom (without unvisited name) stack
      | .view => sourcesFrom (without unvisited name) (o.dependsOn ++ stack)
      | .table | .function _ => sourcesFrom (without unvisited name) stack
termination_by (unvisited.length, stack.length)

/-- The materialized views that `o` reads, directly or through plain views. -/
def sources (c : Catalog) (o : SchemaObject) : List String :=
  sourcesFrom c.objects o.dependsOn

end Catalog

end StatSchema
