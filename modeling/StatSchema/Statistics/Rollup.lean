import StatSchema.Catalog.Basic

/-!
# `StatSchema.Statistics.Rollup` — several views summed into one row per public key

Views that each hold some columns per public key are stacked by `UNION ALL`, which matches columns by
their position. So every branch selects all columns in one order, zero standing in for the columns that
its view does not have.

## Contents
- **Sources.** `Source`: a view with its own columns. `columns`: those of all sources.
- **Branches.** `select`, `selection`, `branch`.
- **Query.** `sums`, `rollup`.
-/

namespace StatSchema.Statistics.Rollup

/-! ## Sources -/

/-- A view with the columns that it contributes. -/
structure Source where
  view : String
  columns : List String
  deriving DecidableEq, Repr

/-- The columns of all sources, in order. -/
def columns (sources : List Source) : List String :=
  sources.flatMap (·.columns)

/-! ## Branches -/

/-- How a branch with the columns `own` selects `column`. -/
def select (own : List String) (column : String) : String :=
  if column ∈ own then column else "0 AS " ++ column

/-- How a branch with the columns `own` selects all `columns`. -/
def selection (columns own : List String) : String :=
  ", ".intercalate (columns.map (select own))

/-- The branch of one source in a query for `columns`. -/
def branch (columns : List String) (source : Source) : String :=
  "    SELECT public_key, " ++ selection columns source.columns ++ " FROM " ++ source.view

/-! ## Query -/

/-- The sums over the stacked rows: one of each column and, if it is named, the sum over all. -/
def sums (columns : List String) (total : Option String) : List String :=
  columns.map (fun column => s!"COALESCE(SUM({column}), 0) AS {column}")
  ++ total.toList.map fun name => "COALESCE(SUM(" ++ " + ".intercalate columns ++ "), 0) AS " ++ name

/-- The query that sums the columns of the sources for each public key. -/
def rollup (sources : List Source) (total : Option String) : String :=
  let columns := columns sources
  "SELECT public_key,\n    " ++ ",\n    ".intercalate (sums columns total) ++ "\nFROM (\n"
    ++ "\n    UNION ALL\n".intercalate (sources.map (branch columns))
    ++ "\n) leaves\nGROUP BY public_key"

end StatSchema.Statistics.Rollup
