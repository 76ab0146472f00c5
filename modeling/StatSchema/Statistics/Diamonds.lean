import StatSchema.Catalog.Basic

/-!
# `StatSchema.Statistics.Diamonds` — rewards in diamonds

A diamond is a reward for a post. It has a level, and each level is worth a fixed amount.

## Contents
- `caseTable`: the SQL expression that looks a value up in a table.
- `tiers`: what each level is worth.
- **Views.** `perProfile`, `given`, `received`, `earned`.
-/

namespace StatSchema.Statistics.Diamonds

/-- The SQL expression that maps the values of `column` by the rows of a table. It has no default, so any
    other value gives null. -/
def caseTable (column : String) (rows : List (Int × Int)) : String :=
  "CASE " ++ column ++ " "
    ++ " ".intercalate (rows.map fun (value, result) => s!"WHEN {value} THEN {result}") ++ " END"

/-- The levels with what each is worth in nanos. -/
def tiers : List (Int × Int) :=
  [(1, 50000), (2, 500000), (3, 5000000), (4, 50000000), (5, 500000000), (6, 5000000000),
   (7, 50000000000), (8, 450000000000)]

/-! ## Views -/

/-- The diamonds of the profile in the column `column`. -/
def perProfile (name column : String) : SchemaObject :=
  let worth := caseTable "diamond_level" tiers
  { SchemaObject.materialized name .keyed .heavy with
    uniqueKey := ["pkid"]
    baseTables := ["diamond_entry"]
    body := s!"
SELECT {column} AS pkid,
    COUNT(*) AS diamond_count,
    COALESCE(SUM({worth}), 0) AS diamond_nanos
FROM diamond_entry
GROUP BY {column}"
    directives := [.hide] }

/-- The diamonds that each profile gave. -/
def given : SchemaObject :=
  perProfile "statistic_profile_diamonds_given" "sender_pkid"

/-- The diamonds that each profile received. -/
def received : SchemaObject :=
  perProfile "statistic_profile_diamonds_received" "receiver_pkid"

/-- What each account earned in diamonds. -/
def earned : SchemaObject :=
  { SchemaObject.materialized "statistic_profile_diamond_earnings" .keyed .light with
    uniqueKey := ["public_key"]
    dependsOn := ["statistic_profile_diamonds_received"]
    baseTables := ["account"]
    body := "
SELECT a.public_key, received.diamond_count, received.diamond_nanos AS diamond_earnings_nanos
FROM statistic_profile_diamonds_received received
JOIN account a ON a.pkid = received.pkid"
    directives := Directive.perAccount "profileDiamondEarningsStat" "diamondEarningsStats" }

end StatSchema.Statistics.Diamonds
