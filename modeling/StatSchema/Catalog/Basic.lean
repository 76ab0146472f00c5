import StatSchema.Catalog.Object

/-!
# `StatSchema.Catalog.Basic` — lists of objects in creation order

## Contents
- `Catalog`: the objects in the order in which they are created.
- **Look-up.** `find?` takes the first object of a name, `latest?` and `latestOf?` the last.
- **Parts.** `names`, `materializedViews`.
-/

namespace StatSchema

/-- The objects of a schema, in the order in which they are created. -/
structure Catalog where
  objects : List SchemaObject
  deriving DecidableEq, Repr

namespace Catalog

/-- The first object called `name`. -/
def find? (c : Catalog) (name : String) : Option SchemaObject :=
  c.objects.find? (·.name = name)

/-- The last of `objects` called `name`. -/
def latestOf? (objects : List SchemaObject) (name : String) : Option SchemaObject :=
  objects.reverse.find? (·.name = name)

theorem mem_of_latestOf? {objects : List SchemaObject} {name : String} {o : SchemaObject}
    (h : latestOf? objects name = some o) : o ∈ objects ∧ o.name = name := by
  refine ⟨List.mem_reverse.mp (List.mem_of_find?_eq_some h), ?_⟩
  simpa using List.find?_some h

/-- The last object called `name`. -/
def latest? (c : Catalog) (name : String) : Option SchemaObject :=
  latestOf? c.objects name

/-- The names of the objects, in order; a name that is declared twice occurs twice. -/
def names (c : Catalog) : List String :=
  c.objects.map (·.name)

/-- The materialized views, in order. -/
def materializedViews (c : Catalog) : List SchemaObject :=
  c.objects.filter (·.isMaterialized)

end Catalog

end StatSchema
