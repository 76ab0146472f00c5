import StatSchema.Directive
import StatSchema.Error
import StatSchema.Text.Blank
import StatSchema.Text.Word

/-!
# `StatSchema.Catalog.Object` — one installed object

The statistics schema is made of tables, functions, materialized views and plain views. Each is a record
of what it is called, how it is built, what it reads and what a refresh of it costs; the statements that
create and drop it are rendered from the record.

## Contents
- **Kinds.** `ObjectKind`, `RowShape`, `Cost` with its order, text and reader.
- **Objects.** `SchemaObject` and one constructor per kind.
- **Statements.** `createStatements`, `dropStatement`, and the names that occur in them.
- **Reading.** `SchemaObject.mentions`: whether the object's own SQL names another object.
-/

namespace StatSchema

/-! ## Kinds -/

/-- What an object is for the database. -/
inductive ObjectKind where
  | table
  /-- A function with the list of its argument types. -/
  | function (signature : String)
  | materializedView
  | view
  deriving DecidableEq, Repr

/-- The SQL type that the statements about an object name. -/
def ObjectKind.sqlType : ObjectKind → String
  | .table => "TABLE"
  | .function _ => "FUNCTION"
  | .materializedView => "MATERIALIZED VIEW"
  | .view => "VIEW"

/-- What the rows of an object stand for. -/
inductive RowShape where
  /-- Exactly one row, whose `id` is zero. -/
  | singleton
  /-- One row for each subject. -/
  | keyed
  /-- One row for each day or month. -/
  | series
  deriving DecidableEq, Repr

/-- The name of the shape. -/
def RowShape.text : RowShape → String
  | .singleton => "singleton"
  | .keyed => "keyed"
  | .series => "series"

/-- What a refresh costs. -/
inductive Cost where
  /-- Reads estimates, or a constant number of rows. -/
  | light
  /-- Scans a bounded part of one partition. -/
  | medium
  /-- Scans a whole table, or joins many partitions. -/
  | heavy
  deriving DecidableEq, Repr

namespace Cost

/-- The place of the cost among the costs, the cheapest first. -/
def rank : Cost → Nat
  | .light => 0
  | .medium => 1
  | .heavy => 2

instance : LE Cost := ⟨fun a b => a.rank ≤ b.rank⟩

instance (a b : Cost) : Decidable (a ≤ b) := inferInstanceAs (Decidable (a.rank ≤ b.rank))

theorem le_heavy (cost : Cost) : cost ≤ .heavy := by
  cases cost <;> decide

/-- The name of the cost. -/
def text : Cost → String
  | .light => "light"
  | .medium => "medium"
  | .heavy => "heavy"

/-- Reads a cost by its name or the first letter of it, in ASCII letters of either case. -/
def parse (s : String) : Except SchemaError Cost :=
  let name := String.ofList (s.toList.map Char.toLower)
  if name = "light" ∨ name = "l" then .ok .light
  else if name = "medium" ∨ name = "m" then .ok .medium
  else if name = "heavy" ∨ name = "h" then .ok .heavy
  else .error (.configuration
    ("unknown refresh cost '" ++ name ++ "', expected light, medium or heavy"))

end Cost

/-! ## Objects -/

/-- An installed object. -/
structure SchemaObject where
  name : String
  kind : ObjectKind
  shape : RowShape
  cost : Cost
  /-- The columns of the unique index that a concurrent refresh needs. -/
  uniqueKey : List String := []
  /-- The objects of the catalog that the object reads. -/
  dependsOn : List String := []
  /-- The tables of the explorer that the object reads. -/
  baseTables : List String := []
  /-- The query of a view, the whole definition of a table or function. -/
  body : String := ""
  /-- Statements that follow the definition: further indexes, first rows. -/
  afterCreate : List String := []
  /-- The directives of the comment. -/
  directives : List Directive := []
  deriving DecidableEq, Repr

namespace SchemaObject

/-- A materialized view; the row of a singleton is found by its `id`. -/
def materialized (name : String) (shape : RowShape) (cost : Cost) : SchemaObject :=
  { name, shape, cost, kind := .materializedView
    uniqueKey := if shape = .singleton then ["id"] else [] }

/-- A plain view, which nobody refreshes. -/
def view (name : String) (shape : RowShape) : SchemaObject :=
  { name, shape, cost := .light, kind := .view }

/-- A table. -/
def table (name : String) : SchemaObject :=
  { name, shape := .keyed, cost := .heavy, kind := .table }

/-- A function with the list of its argument types. -/
def function (name signature : String) : SchemaObject :=
  { name, shape := .singleton, cost := .light, kind := .function signature }

/-- Whether the object is a materialized view. -/
def isMaterialized (o : SchemaObject) : Bool :=
  o.kind = .materializedView

/-! ## Statements -/

/-- The name of the unique index of a materialized view. -/
def uniqueIndexName (o : SchemaObject) : String :=
  o.name ++ "_unique_idx"

/-- The name by which statements refer to the object: a function is told apart by its argument types. -/
def qualifiedName (o : SchemaObject) : String :=
  match o.kind with
  | .function signature => o.name ++ "(" ++ signature ++ ")"
  | _ => o.name

/-- The comment of the object. -/
def comment (o : SchemaObject) : String :=
  Directive.render o.directives

/-- The statements that define the object: for a materialized view the view and its unique index. -/
def definition (o : SchemaObject) : List String :=
  match o.kind with
  | .table | .function _ => [Text.trim o.body]
  | .materializedView =>
    ["CREATE MATERIALIZED VIEW " ++ o.name ++ " AS\n" ++ Text.trim o.body,
     "CREATE UNIQUE INDEX " ++ o.uniqueIndexName ++ " ON " ++ o.name
       ++ " (" ++ ", ".intercalate o.uniqueKey ++ ")"]
  | .view => ["CREATE VIEW " ++ o.name ++ " AS\n" ++ Text.trim o.body]

/-- The statement that attaches the comment, if there is one. -/
def commentStatements (o : SchemaObject) : List String :=
  if o.directives.isEmpty then []
  else [Directive.commentStatement o.kind.sqlType o.qualifiedName o.directives]

/-- The statements that install the object. -/
def createStatements (o : SchemaObject) : List String :=
  o.definition ++ o.afterCreate.map Text.trim ++ o.commentStatements

/-- The statement that removes the object, if it is there; indexes and comment go with it. -/
def dropStatement (o : SchemaObject) : String :=
  "DROP " ++ o.kind.sqlType ++ " IF EXISTS " ++ o.qualifiedName

/-- The statement that recomputes a materialized view while others read it. -/
def refreshStatement (o : SchemaObject) : String :=
  "REFRESH MATERIALIZED VIEW CONCURRENTLY " ++ o.name

/-! ## Reading -/

/-- Whether the body or a statement after it names `identifier` as a whole identifier. -/
def mentions (o : SchemaObject) (identifier : String) : Bool :=
  Text.mentions o.body identifier || o.afterCreate.any (Text.mentions · identifier)

end SchemaObject

end StatSchema
