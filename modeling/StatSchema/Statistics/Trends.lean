import StatSchema.Catalog.Basic

/-!
# `StatSchema.Statistics.Trends` — figures per day and per month

## Contents
- **Buckets.** `Bucket`, its column and how far back its series reach.
- **Parts.** `numbered` gives each bucket a number; `trend` is the common record.
- **Families.** `transactionCounts`, `newWalletCounts`, `activeWalletCounts`.
- **All trends.** `objects`.
-/

namespace StatSchema.Statistics.Trends

/-! ## Buckets -/

/-- The span of time that one row stands for. -/
inductive Bucket where
  | day | month
  deriving DecidableEq, Repr

/-- The column that holds the start of the bucket. -/
def Bucket.column : Bucket → String
  | .day => "day"
  | .month => "month"

/-- How far back a series of such buckets reaches. -/
def Bucket.window : Bucket → String
  | .day => "1 month"
  | .month => "1 year"

/-! ## Parts -/

/-- Numbers the rows of a query that is grouped by buckets. -/
def numbered (bucket : Bucket) (value grouped : String) : String :=
  let column := bucket.column
  let inner := Text.trim grouped
  s!"SELECT ROW_NUMBER() OVER (ORDER BY {column}) AS id, {column}, {value}\nFROM (\n{inner}\n) buckets"

/-- A trend: the figure in the column `value` of the query `grouped`, published under `publicName`. -/
def trend (name publicName : String) (bucket : Bucket) (cost : Cost)
    (dependsOn baseTables : List String) (value grouped : String) : SchemaObject :=
  { SchemaObject.materialized name .series cost with
    uniqueKey := [bucket.column], dependsOn, baseTables
    body := numbered bucket value grouped
    directives := [.rename publicName, .unique [bucket.column]] }

/-! ## Families -/

/-- The transactions of each bucket. -/
def transactionCounts (name publicName : String) (bucket : Bucket) : SchemaObject :=
  let column := bucket.column
  let window := bucket.window
  trend name publicName bucket .heavy [] ["transaction", "block"] "transaction_count"
    s!"
    SELECT date_trunc('{column}', b.timestamp) AS {column}, COUNT(*) AS transaction_count
    FROM transaction t
    JOIN block b ON b.block_hash = t.block_hash
    WHERE b.timestamp > date_trunc('{column}', NOW() - INTERVAL '{window}')
    GROUP BY 1"

/-- The public keys that appeared first in each bucket. -/
def newWalletCounts (name publicName : String) (bucket : Bucket) : SchemaObject :=
  let column := bucket.column
  let window := bucket.window
  trend name publicName bucket .medium ["public_key_first_transaction"] [] "wallet_count"
    s!"
    SELECT date_trunc('{column}', timestamp) AS {column}, COUNT(*) AS wallet_count
    FROM public_key_first_transaction
    WHERE timestamp > date_trunc('{column}', NOW() - INTERVAL '{window}')
    GROUP BY 1"

/-- The public keys that made a transaction on each day. -/
def activeWalletCounts : SchemaObject :=
  trend "statistic_active_wallet_count_daily" "dailyActiveWalletCountStat" .day .heavy
    [] ["transaction_partitioned"] "wallet_count"
    "
    SELECT date_trunc('day', tp.timestamp) AS day, COUNT(DISTINCT tp.public_key) AS wallet_count
    FROM transaction_partitioned tp
    WHERE tp.timestamp > date_trunc('day', NOW() - INTERVAL '1 month')
    GROUP BY 1"

/-! ## All trends -/

/-- The objects of the group, in creation order. -/
def objects : List SchemaObject :=
  [transactionCounts "statistic_txn_count_monthly" "monthlyTxnCountStat" .month,
   newWalletCounts "statistic_wallet_count_monthly" "monthlyNewWalletCountStat" .month,
   transactionCounts "statistic_txn_count_daily" "dailyTxnCountStat" .day,
   newWalletCounts "statistic_new_wallet_count_daily" "dailyNewWalletCountStat" .day,
   activeWalletCounts]

end StatSchema.Statistics.Trends
