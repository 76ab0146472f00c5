import StatSchema.Catalog.RefreshPlan
import StatSchema.Publication.Statements
import StatSchema.Report.Document

/-!
# `StatSchema.Report.Catalog` — the catalog as a document

## Contents
- `kindDocument`, `objectFields`, `objectDocument`: one object.
- `catalogDocument`: all objects, the order of a full refresh and the published names.
-/

namespace StatSchema.Report

/-- A list of texts. -/
def texts (items : List String) : Document :=
  .list (items.map .text)

/-- The kind of an object. -/
def kindDocument : ObjectKind → Document
  | .table => .record [("type", .text "table")]
  | .function signature => .record [("type", .text "function"), ("signature", .text signature)]
  | .materializedView => .record [("type", .text "materialized_view")]
  | .view => .record [("type", .text "view")]

/-- What the document shows of an object: all but its SQL. -/
def objectFields (o : SchemaObject) : List (String × Document) :=
  [("name", .text o.name),
   ("kind", kindDocument o.kind),
   ("shape", .text o.shape.text),
   ("unique_key", texts o.uniqueKey),
   ("depends_on", texts o.dependsOn),
   ("base_tables", texts o.baseTables),
   ("cost", .text o.cost.text),
   ("annotations", texts (o.directives.map (·.text)))]

/-- An object with its comment. -/
def objectDocument (o : SchemaObject) : Document :=
  .record (objectFields o ++ [("comment", .text o.comment)])

/-- The objects of a catalog, the order in which a full refresh takes them, and the published names. -/
def catalogDocument (c : Catalog) : Except OutOfRange Document :=
  (c.refreshPlan .heavy).map fun plan =>
    .record
      [("objects", .list (c.objects.map objectDocument)),
       ("refresh_order", texts (plan.map (·.name))),
       ("published", texts Publication.publishedNames)]

end StatSchema.Report
