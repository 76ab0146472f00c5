import StatSchema.Catalog.Basic
import StatSchema.Partition

/-!
# `StatSchema.Catalog.Problem` — the rules of a catalog

A concurrent refresh needs one unique index on each materialized view, an installation in catalog order
needs every object to come after those it reads, and a refresh plan needs every reading to be declared.
The rules are checked on the records, before anything is sent to a database, and every violation is
reported.

## Contents
- **Base tables.** `baseTables`, `isBaseTable`: what the statistics may read and never write.
- **Problems.** `Problem`: one broken rule, and `Problem.message`.
- **Checks.** `keyProblems`, `dependencyProblems`, `undeclaredProblems`, `baseTableProblems`, gathered by
  `SchemaObject.problems` and `Catalog.problems`.
- **Verdict.** `Catalog.validate`.
-/

namespace StatSchema

/-! ## Base tables -/

/-- The tables and views of the explorer that the statistics read by name. -/
def baseTables : List String :=
  ["block", "transaction", "transaction_partitioned", "affected_public_key", "post_entry",
   "profile_entry", "nft_entry", "nft_bid_entry", "dao_coin_limit_order_entry", "balance_entry",
   "deso_balance_entry", "diamond_entry", "account", "follow_entry", "message_entry",
   "new_message_entry", "stake_entry", "stake_reward", "validator_entry", "epoch_entry",
   "leader_schedule_entry", "jailed_history_event", "pg_class"]

/-- Whether `table` belongs to the explorer: one of `baseTables` or a partition table. -/
def isBaseTable (table : String) : Bool :=
  table ∈ baseTables || (parsePartitionTable? table).isSome

/-! ## Problems -/

/-- A broken rule; each names the object that breaks it. -/
inductive Problem where
  | declaredTwice (object : String)
  | noUniqueKey (object : String)
  | singletonKey (object : String)
  | seriesKey (object : String)
  | secondUniqueIndex (object : String)
  | keyWithoutRows (object : String)
  | notCreatedBefore (object dependency : String)
  | neverRead (object dependency : String)
  | undeclared (object other : String)
  | unknownTable (object table : String)
  | tableNeverRead (object table : String)
  | withoutDirective (object : String)
  deriving DecidableEq, Repr

/-- The text that reports the problem. -/
def Problem.message : Problem → String
  | .declaredTwice object => object ++ " is declared twice"
  | .noUniqueKey object => object ++ " has no unique key"
  | .singletonKey object => "singleton " ++ object ++ " must be keyed by id"
  | .seriesKey object => "series " ++ object ++ " must be keyed by its day or month bucket"
  | .secondUniqueIndex object => object ++ " declares a second unique index"
  | .keyWithoutRows object => object ++ " is not materialized but declares a unique key"
  | .notCreatedBefore object dependency =>
    object ++ " depends on " ++ dependency ++ " which is not created before it"
  | .neverRead object dependency => object ++ " declares " ++ dependency ++ " but never reads it"
  | .undeclared object other => object ++ " reads " ++ other ++ " without declaring it"
  | .unknownTable object table => object ++ " reads " ++ table ++ " which is not an upstream table"
  | .tableNeverRead object table =>
    object ++ " declares upstream " ++ table ++ " but never reads it"
  | .withoutDirective object => object ++ " has no schema annotation"

/-! ## Checks -/

/-- One problem if the rule is broken. -/
def Problem.when (broken : Bool) (problem : Problem) : List Problem :=
  if broken then [problem] else []

namespace SchemaObject

/-- A materialized view needs a unique key that fits its shape and no other unique index; of the other
    objects only a table may declare one. -/
def keyProblems (o : SchemaObject) : List Problem :=
  if o.isMaterialized then
    Problem.when o.uniqueKey.isEmpty (.noUniqueKey o.name)
    ++ Problem.when (o.shape = .singleton && o.uniqueKey ≠ ["id"]) (.singletonKey o.name)
    ++ Problem.when (o.shape = .series && o.uniqueKey ≠ ["day"] && o.uniqueKey ≠ ["month"])
        (.seriesKey o.name)
    ++ Problem.when (o.afterCreate.any fun s => Text.contains "UNIQUE INDEX".toList s.toList)
        (.secondUniqueIndex o.name)
  else Problem.when (!o.uniqueKey.isEmpty && o.kind ≠ .table) (.keyWithoutRows o.name)

/-- Every declared dependency is another object, created before this one, and is read. -/
def dependencyProblems (o : SchemaObject) (earlier : List String) : List Problem :=
  o.dependsOn.flatMap fun dependency =>
    Problem.when (dependency ∉ earlier || dependency = o.name) (.notCreatedBefore o.name dependency)
    ++ Problem.when (!o.mentions dependency) (.neverRead o.name dependency)

/-- Every object that is read is declared, wherever it stands in the catalog. -/
def undeclaredProblems (o : SchemaObject) (everyName : List String) : List Problem :=
  everyName.flatMap fun other =>
    Problem.when (other ≠ o.name && o.mentions other && other ∉ o.dependsOn) (.undeclared o.name other)

/-- Every base table is known and is read. -/
def baseTableProblems (o : SchemaObject) : List Problem :=
  o.baseTables.flatMap fun table =>
    if isBaseTable table then Problem.when (!o.mentions table) (.tableNeverRead o.name table)
    else [.unknownTable o.name table]

/-- The broken rules of an object, given the names created before it and all names of the catalog. -/
def problems (o : SchemaObject) (earlier everyName : List String) : List Problem :=
  Problem.when (o.name ∈ earlier) (.declaredTwice o.name)
  ++ o.keyProblems
  ++ o.dependencyProblems earlier
  ++ o.undeclaredProblems everyName
  ++ o.baseTableProblems
  ++ Problem.when o.directives.isEmpty (.withoutDirective o.name)

end SchemaObject

namespace Catalog

/-- The broken rules of `objects`, which follow those with the names `earlier`. -/
def problemsAfter (everyName : List String) : (earlier : List String) → List SchemaObject →
    List Problem
  | _, [] => []
  | earlier, o :: rest =>
    o.problems earlier everyName ++ problemsAfter everyName (earlier ++ [o.name]) rest

/-- The broken rules of the catalog, in the order of its objects. -/
def problems (c : Catalog) : List Problem :=
  problemsAfter c.names [] c.objects

/-! ## Verdict -/

/-- Accepts a catalog that keeps every rule; else reports all problems at once. -/
def validate (c : Catalog) : Except SchemaError Unit :=
  match c.problems with
  | [] => .ok ()
  | problems => .error (.catalog ("; ".intercalate (problems.map Problem.message)))

end Catalog

end StatSchema
