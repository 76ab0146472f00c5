import StatSchema.Partition
import StatSchema.Statistics.Market
import StatSchema.Statistics.Rollup

/-!
# `StatSchema.Statistics.Rankings` — the leaders of the last thirty days

## Contents
- **Social signals.** `SocialSignal`, `socialSignals`: what counts towards the social ranking.
- **Rankings.** `signalLeaders`, `socialLeaders`, `nftLeaders`, `orderLeaders`.
- **All rankings.** `objects`.
-/

namespace StatSchema.Statistics.Rankings

/-- The number of places in a ranking. -/
def size : Nat := 10

/-! ## Social signals -/

/-- A kind of attention that the author of a post receives. -/
structure SocialSignal where
  view : String
  kind : TransactionKind
  /-- The key under which the transaction names the post. -/
  postKey : String
  /-- Which transactions of the kind count. -/
  condition : String
  column : String

/-- The signals of the social ranking, in the order of its columns. -/
def socialSignals : List SocialSignal :=
  [{ view := "statistic_social_leaderboard_likes"
     kind := .like
     postKey := "PostHashHex"
     condition := "t.tx_index_metadata ->> 'IsUnlike' = 'false'"
     column := "like_count" },
   { view := "statistic_social_leaderboard_reactions"
     kind := .createPostAssociation
     postKey := "PostHashHex"
     condition := "t.tx_index_metadata ->> 'AssociationType' = 'REACTION'"
     column := "reaction_count" },
   { view := "statistic_social_leaderboard_diamonds"
     kind := .basicTransfer
     postKey := "PostHashHex"
     condition := "t.tx_index_metadata ->> 'DiamondLevel' IS NOT NULL"
     column := "diamond_count" },
   { view := "statistic_social_leaderboard_reposts"
     kind := .submitPost
     postKey := "RepostedPostHashHex"
     condition := "COALESCE(t.tx_index_metadata ->> 'RepostedPostHashHex', '') <> ''"
     column := "repost_count" },
   { view := "statistic_social_leaderboard_comments"
     kind := .submitPost
     postKey := "ParentPostHashHex"
     condition := "COALESCE(t.tx_index_metadata ->> 'ParentPostHashHex', '') <> ''"
     column := "comment_count" }]

/-! ## Rankings -/

/-- The authors who received most of one signal. -/
def signalLeaders (signal : SocialSignal) : SchemaObject :=
  let column := signal.column
  let partition := signal.kind.table
  let key := signal.postKey
  let condition := signal.condition
  { SchemaObject.materialized signal.view .keyed .medium with
    uniqueKey := ["poster_public_key"]
    baseTables := [partition, "post_entry"]
    body := s!"
SELECT pe.poster_public_key, COUNT(*) AS {column}
FROM {partition} t
JOIN post_entry pe ON pe.post_hash = t.tx_index_metadata ->> '{key}'
WHERE t.timestamp > NOW() - INTERVAL '30 days'
    AND {condition}
GROUP BY pe.poster_public_key
ORDER BY {column} DESC, pe.poster_public_key
LIMIT {size}"
    directives := [.hide] }

/-- The authors with a profile who received most signals in all. -/
def socialLeaders : SchemaObject :=
  let columns := socialSignals.map (·.column)
  let branches := "\n        UNION ALL\n".intercalate (socialSignals.map fun signal =>
    "        SELECT poster_public_key, "
      ++ Rollup.selection columns [signal.column] ++ " FROM " ++ signal.view)
  let sums := ",\n        ".intercalate (columns.map fun column => s!"SUM({column}) AS {column}")
  let total := " + ".intercalate columns
  let selected := ", ".intercalate (columns.map ("totals." ++ ·))
  { SchemaObject.materialized "statistic_social_leaderboard" .keyed .light with
    uniqueKey := ["public_key"]
    dependsOn := socialSignals.map (·.view)
    baseTables := ["profile_entry"]
    body := s!"
WITH totals AS (
    SELECT poster_public_key,
        {sums},
        SUM({total}) AS total_count
    FROM (
{branches}
    ) signals
    GROUP BY poster_public_key
)
SELECT pe.public_key, pe.username, {selected}, totals.total_count
FROM totals
JOIN profile_entry pe ON pe.public_key = totals.poster_public_key
ORDER BY totals.total_count DESC, pe.public_key
LIMIT {size}"
    directives :=
      [.rename "socialLeaderboardStat", .unique ["public_key"],
       .toAccount "public_key" "socialLeaderboardStats"] }

/-- The owners of the tokens on which most was bid in accepted bids. -/
def nftLeaders : SchemaObject :=
  let partition := TransactionKind.acceptNftBid.table
  { SchemaObject.materialized "statistic_nft_leaderboard" .keyed .medium with
    uniqueKey := ["public_key", "username"]
    baseTables := [partition, "nft_entry", "profile_entry"]
    body := s!"
SELECT pe.public_key, pe.username,
    SUM((t.tx_index_metadata ->> 'BidAmountNanos')::NUMERIC) AS total_bid_amount_nanos
FROM {partition} t
JOIN nft_entry ne
    ON ne.nft_post_hash = t.tx_index_metadata ->> 'NFTPostHashHex'
    AND ne.serial_number = (t.tx_index_metadata ->> 'SerialNumber')::BIGINT
JOIN profile_entry pe ON pe.pkid = ne.owner_pkid
WHERE t.timestamp > NOW() - INTERVAL '30 days'
GROUP BY pe.public_key, pe.username
ORDER BY total_bid_amount_nanos DESC, pe.public_key
LIMIT {size}"
    directives :=
      [.rename "nftLeaderboardStat", .unique ["public_key", "username"],
       .toAccount "public_key" "nftLeaderboardStats"] }

/-- The buyers with the highest score in orders that pay the base coin.

    A limit order scores, at its price, the quantity that is no longer open in the book. An order that is
    filled at once or not at all, `FillType` 2, scores its quantity. An order that any transaction of the
    window cancels scores nothing, whatever else that transaction does. -/
def orderLeaders : SchemaObject :=
  let partition := TransactionKind.daoCoinLimitOrder.table
  let base := Market.baseCoin
  { SchemaObject.materialized "statistic_defi_leaderboard" .keyed .medium with
    uniqueKey := ["buying_public_key"]
    dependsOn := ["hex_to_numeric"]
    baseTables := [partition, "dao_coin_limit_order_entry"]
    body := s!"
WITH orders AS (
    SELECT
        t.transaction_hash AS order_id,
        t.public_key AS buying_public_key,
        NULLIF(t.txn_meta ->> 'CancelOrderID', '') AS cancel_order_id,
        t.txn_meta ->> 'FillType' AS fill_type,
        hex_to_numeric(t.txn_meta ->> 'QuantityToFillInBaseUnits') AS quantity,
        hex_to_numeric(t.txn_meta ->> 'ScaledExchangeRateCoinsToSellPerCoinToBuy') AS scaled_rate
    FROM {partition} t
    WHERE t.timestamp > NOW() - INTERVAL '30 days'
        AND t.tx_index_metadata ->> 'SellingDAOCoinCreatorPublicKey' = '{base}'
        AND t.txn_meta ->> 'OperationType' = '2'
),
cancelled AS (
    SELECT DISTINCT t.txn_meta ->> 'CancelOrderID' AS cancel_order_id
    FROM {partition} t
    WHERE t.timestamp > NOW() - INTERVAL '30 days'
        AND NULLIF(t.txn_meta ->> 'CancelOrderID', '') IS NOT NULL
),
scored AS (
    SELECT
        o.buying_public_key,
        CASE
            WHEN o.cancel_order_id IS NOT NULL OR c.cancel_order_id IS NOT NULL THEN 0
            WHEN o.fill_type = '2' THEN o.quantity
            ELSE (o.quantity - COALESCE(open_order.quantity_to_fill_in_base_units_numeric, 0))
                * o.scaled_rate / 1e38
        END AS score
    FROM orders o
    LEFT JOIN cancelled c ON c.cancel_order_id = o.order_id
    LEFT JOIN dao_coin_limit_order_entry open_order ON open_order.order_id = o.order_id
)
SELECT buying_public_key, SUM(score) AS score
FROM scored
GROUP BY buying_public_key
ORDER BY score DESC, buying_public_key
LIMIT {size}"
    directives :=
      [.rename "defiLeaderboardStat", .unique ["buying_public_key"],
       .relation ⟨["buying_public_key"], "account", ["public_key"], "defiLeaderboardStats", "account"⟩] }

/-! ## All rankings -/

/-- The objects of the group, in creation order. -/
def objects : List SchemaObject :=
  socialSignals.map signalLeaders ++ [socialLeaders, nftLeaders, orderLeaders]

end StatSchema.Statistics.Rankings
