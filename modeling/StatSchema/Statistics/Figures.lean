import StatSchema.Catalog.Basic
import StatSchema.Partition
import StatSchema.Text.Split

/-!
# `StatSchema.Statistics.Figures` — single figures and the dashboard that shows them

Each figure is kept in a materialized view of its own, with one row, whose `id` is zero. The dashboard is
a plain view that joins them all into one row, with a column for each.

## Contents
- **Parts.** `Figure`, `figure`. `estimate`, the estimated size of a table. `countOf`.
- **Figures.** `categoryCount`, `figures`, and their views in `objects`.
- **Dashboard.** `dashboardColumn`, `dashboard`.
-/

namespace StatSchema.Statistics.Figures

/-! ## Parts -/

/-- A view of one row and the column that holds the figure. -/
structure Figure where
  view : SchemaObject
  column : String

/-- The figure in the column `column` of the row that `body` yields. -/
def figure (name : String) (cost : Cost) (dependsOn baseTables : List String)
    (column body : String) : Figure :=
  { column
    view :=
      { SchemaObject.materialized name .singleton cost with
        dependsOn, baseTables, body, directives := [.hide] } }

/-- The estimated number of rows of a table, from the statistics that the database keeps. -/
def estimate (table : String) : String :=
  s!"COALESCE((SELECT reltuples::BIGINT FROM pg_class WHERE relname = '{table}'), 0)"

/-- The query for a row whose count is one expression. -/
def countOf (expression : String) : String :=
  s!"SELECT 0 AS id, {expression} AS count"

/-! ## Figures -/

/-- The estimated number of transactions of one category. -/
def categoryCount (name : String) (category : TransactionCategory) : Figure :=
  figure name .light ["get_transaction_count"] [] "count" (countOf category.countExpression)

/-- The table that holds posts as transactions. -/
def postTable : String := TransactionKind.submitPost.table

/-- All figures, in the order of the dashboard. -/
def figures : List Figure :=
  [figure "statistic_txn_count_all" .light ["get_transaction_count"] [] "count"
     s!"SELECT 0 AS id, SUM(get_transaction_count(partition_id))::BIGINT AS count\nFROM generate_series(1, {partitionCount}) AS partition_id",
   figure "statistic_txn_count_30_d" .heavy [] ["transaction", "block"] "count"
     "
SELECT 0 AS id, COUNT(*) AS count
FROM transaction t
JOIN block b ON b.block_hash = t.block_hash
WHERE b.timestamp > NOW() - INTERVAL '30 days'",
   figure "statistic_block_height_current" .light [] ["block"] "height"
     "
SELECT 0 AS id, COALESCE((SELECT height FROM block ORDER BY height DESC LIMIT 1), 0) AS height",
   figure "statistic_txn_count_pending" .medium [] ["transaction"] "count"
     "SELECT 0 AS id, COUNT(*) AS count FROM transaction WHERE block_hash = ''",
   figure "statistic_txn_fee_1_d" .medium [] [postTable] "fee_nanos"
     s!"
SELECT 0 AS id, COALESCE(AVG(fee_nanos), 0)::BIGINT AS fee_nanos
FROM {postTable}
WHERE fee_nanos > 0 AND timestamp > NOW() - INTERVAL '1 day'",
   figure "statistic_total_supply" .medium [] ["deso_balance_entry"] "total_supply"
     "SELECT 0 AS id, COALESCE(SUM(balance_nanos), 0) AS total_supply FROM deso_balance_entry",
   figure "statistic_post_count" .medium [] ["post_entry"] "count"
     "
SELECT 0 AS id, COUNT(*) AS count
FROM post_entry
WHERE parent_post_hash IS NULL
    AND reposted_post_hash IS NULL
    AND NOT COALESCE(extra_data ? 'BlogDeltaRtfFormat', false)",
   figure "statistic_post_longform_count" .medium [] ["post_entry"] "count"
     "
SELECT 0 AS id, COUNT(*) AS count
FROM post_entry
WHERE parent_post_hash IS NULL
    AND reposted_post_hash IS NULL
    AND COALESCE(extra_data ? 'BlogDeltaRtfFormat', false)",
   figure "statistic_comment_count" .medium [] ["post_entry"] "count"
     "SELECT 0 AS id, COUNT(*) AS count FROM post_entry WHERE parent_post_hash IS NOT NULL",
   figure "statistic_repost_count" .medium [] ["post_entry"] "count"
     "
SELECT 0 AS id, COUNT(*) AS count
FROM post_entry
WHERE reposted_post_hash IS NOT NULL AND parent_post_hash IS NULL",
   categoryCount "statistic_txn_count_creator_coin" .creatorCoin,
   categoryCount "statistic_txn_count_nft" .nft,
   categoryCount "statistic_txn_count_dex" .dex,
   categoryCount "statistic_txn_count_social" .social,
   figure "statistic_follow_count" .light [] ["pg_class", "follow_entry"] "count"
     (countOf (estimate "follow_entry")),
   -- Messages are kept in two tables; the two estimates are summed into one row.
   figure "statistic_message_count" .light [] ["pg_class", "message_entry", "new_message_entry"]
     "count"
     "
SELECT 0 AS id, COALESCE(SUM(reltuples), 0)::BIGINT AS count
FROM (
    SELECT reltuples FROM pg_class WHERE relname = 'message_entry'
    UNION ALL
    SELECT reltuples FROM pg_class WHERE relname = 'new_message_entry'
) estimates",
   figure "statistic_wallet_count_all" .light ["public_key_first_transaction"] ["pg_class"] "count"
     (countOf (estimate "public_key_first_transaction")),
   figure "statistic_new_wallet_count_30_d" .medium ["public_key_first_transaction"] [] "count"
     "
SELECT 0 AS id, COUNT(*) AS count
FROM public_key_first_transaction
WHERE timestamp > NOW() - INTERVAL '30 days'",
   figure "statistic_active_wallet_count_30_d" .heavy [] ["transaction", "block"] "count"
     "
SELECT 0 AS id, COUNT(DISTINCT t.public_key) AS count
FROM transaction t
JOIN block b ON b.block_hash = t.block_hash
WHERE b.timestamp > NOW() - INTERVAL '30 days'"]

/-- The views of the figures, in creation order. -/
def objects : List SchemaObject :=
  figures.map (·.view)

/-! ## Dashboard -/

/-- The column of a figure on the dashboard: the name of its view without the stem. -/
def dashboardColumn (view : String) : String :=
  match Text.dropLeading? "statistic_".toList view.toList with
  | some rest => String.ofList rest
  | none => view

/-- The one row of all figures. -/
def dashboard : SchemaObject :=
  let columns := ",\n    ".intercalate (figures.map fun f =>
    dashboardColumn f.view.name ++ "." ++ f.column ++ " AS " ++ dashboardColumn f.view.name)
  let sources := "\nCROSS JOIN ".intercalate (figures.map fun f =>
    f.view.name ++ " " ++ dashboardColumn f.view.name)
  { SchemaObject.view "statistic_dashboard" .singleton with
    dependsOn := figures.map (·.view.name)
    body := "SELECT\n    " ++ columns ++ "\nFROM " ++ sources
    directives := [.rename "dashboardStat"] }

end StatSchema.Statistics.Figures
