import StatSchema.Catalog.Basic
import StatSchema.Partition

/-!
# `StatSchema.Statistics.Activity` — what public keys did, by kind of transaction

## Contents
- **Counts and sums.** `Activity`, `creatorJoin`, `bidderJoin`, `view`: one activity each.
- **Lists.** `earning`, the activities that earn something; `trading`, the purchases and sales.
- **Orders.** `tokenOrders`: the limit orders of one kind.
- **Whole accounts.** `transactions`, `topOwners`.
-/

namespace StatSchema.Statistics

/-! ## Counts and sums -/

/-- A count and a sum of nanos over the transactions of one kind. -/
structure Activity where
  name : String
  kind : TransactionKind
  /-- The public key that a transaction is credited to. -/
  subject : String
  /-- A further table, joined under the alias `apk`. -/
  join : Option String
  /-- Which transactions of the kind count. -/
  condition : String
  count : String
  countColumn : String
  nanos : String
  nanosColumn : String

namespace Activity

/-- Joins the creator of the coin that a transaction trades. -/
def creatorJoin : String :=
  "JOIN affected_public_key apk ON apk.transaction_hash = t.transaction_hash AND apk.metadata = 'CreatorPublicKey'"

/-- Joins the bidder whose bid a transaction accepts. -/
def bidderJoin : String :=
  "JOIN affected_public_key apk ON apk.transaction_hash = t.transaction_hash AND apk.metadata = 'NFTBidderPublicKeyBase58Check'"

/-- The view of one activity. -/
def view (activity : Activity) : SchemaObject :=
  let subject := activity.subject
  let count := activity.count
  let countColumn := activity.countColumn
  let nanos := activity.nanos
  let nanosColumn := activity.nanosColumn
  let partition := activity.kind.table
  let join := (activity.join.map ("\n" ++ ·)).getD ""
  let condition := activity.condition
  { SchemaObject.materialized activity.name .keyed .heavy with
    uniqueKey := ["public_key"]
    baseTables := partition :: (if activity.join.isSome then ["affected_public_key"] else [])
    body := s!"
SELECT {subject} AS public_key,
    {count} AS {countColumn},
    COALESCE(SUM({nanos}), 0) AS {nanosColumn}
FROM {partition} t{join}
WHERE {condition}
    AND {subject} IS NOT NULL
GROUP BY {subject}"
    directives := [.hide] }

/-! ## Lists -/

/-- The activities that earn something. Of a purchase of creator coins, the part that is not locked into
    the curve is the creator's reward. -/
def earning : List Activity :=
  [{ name := "statistic_profile_cc_royalties"
     kind := .creatorCoin
     subject := "apk.public_key"
     join := some creatorJoin
     condition := "t.tx_index_metadata ->> 'OperationType' = 'buy'"
     count := "COUNT(*)"
     countColumn := "cc_royalty_count"
     nanos := "(t.tx_index_metadata ->> 'DeSoToSellNanos')::NUMERIC - (t.tx_index_metadata ->> 'DESOLockedNanosDiff')::NUMERIC"
     nanosColumn := "cc_royalty_nanos" },
   { name := "statistic_profile_nft_bid_royalty_earnings"
     kind := .acceptNftBid
     subject := "t.tx_index_metadata ->> 'CreatorPublicKeyBase58Check'"
     join := none
     condition := "(t.tx_index_metadata ->> 'CreatorRoyaltyNanos')::NUMERIC > 0"
     count := "COUNT(*)"
     countColumn := "nft_bid_royalty_count"
     nanos := "(t.tx_index_metadata ->> 'CreatorRoyaltyNanos')::NUMERIC"
     nanosColumn := "nft_bid_royalty_nanos" },
   { name := "statistic_profile_nft_buy_now_royalty_earnings"
     kind := .nftBid
     subject := "t.tx_index_metadata ->> 'CreatorPublicKeyBase58Check'"
     join := none
     condition := "t.tx_index_metadata ->> 'IsBuyNowBid' = 'true' AND (t.tx_index_metadata ->> 'CreatorRoyaltyNanos')::NUMERIC > 0"
     count := "COUNT(*)"
     countColumn := "nft_buy_now_royalty_count"
     nanos := "(t.tx_index_metadata ->> 'CreatorRoyaltyNanos')::NUMERIC"
     nanosColumn := "nft_buy_now_royalty_nanos" }]

/-- The purchases and sales that earnings are broken down into. -/
def trading : List Activity :=
  [{ name := "statistic_profile_cc_buyers"
     kind := .creatorCoin
     subject := "apk.public_key"
     join := some creatorJoin
     condition := "t.tx_index_metadata ->> 'OperationType' = 'buy'"
     count := "COUNT(DISTINCT t.public_key)"
     countColumn := "cc_buyer_count"
     nanos := "(t.tx_index_metadata ->> 'DeSoToSellNanos')::NUMERIC"
     nanosColumn := "cc_buy_nanos" },
   { name := "statistic_profile_cc_sellers"
     kind := .creatorCoin
     subject := "apk.public_key"
     join := some creatorJoin
     condition := "t.tx_index_metadata ->> 'OperationType' = 'sell'"
     count := "COUNT(DISTINCT t.public_key)"
     countColumn := "cc_seller_count"
     nanos := "(t.tx_index_metadata ->> 'DeSoToAddNanos')::NUMERIC"
     nanosColumn := "cc_sell_nanos" },
   { name := "statistic_profile_nft_bid_buys"
     kind := .acceptNftBid
     subject := "apk.public_key"
     join := some bidderJoin
     condition := "true"
     count := "COUNT(*)"
     countColumn := "nft_bid_buy_count"
     nanos := "(t.tx_index_metadata ->> 'BidAmountNanos')::NUMERIC"
     nanosColumn := "nft_bid_buy_nanos" },
   { name := "statistic_profile_nft_bid_sales"
     kind := .acceptNftBid
     subject := "t.public_key"
     join := none
     condition := "true"
     count := "COUNT(*)"
     countColumn := "nft_bid_sale_count"
     nanos := "(t.tx_index_metadata ->> 'BidAmountNanos')::NUMERIC"
     nanosColumn := "nft_bid_sale_nanos" },
   { name := "statistic_profile_nft_buy_now_buys"
     kind := .nftBid
     subject := "t.public_key"
     join := none
     condition := "t.tx_index_metadata ->> 'IsBuyNowBid' = 'true'"
     count := "COUNT(*)"
     countColumn := "nft_buy_now_buy_count"
     nanos := "(t.tx_index_metadata ->> 'BidAmountNanos')::NUMERIC"
     nanosColumn := "nft_buy_now_buy_nanos" },
   { name := "statistic_profile_nft_buy_now_sales"
     kind := .nftBid
     subject := "t.tx_index_metadata ->> 'OwnerPublicKeyBase58Check'"
     join := none
     condition := "t.tx_index_metadata ->> 'IsBuyNowBid' = 'true'"
     count := "COUNT(*)"
     countColumn := "nft_buy_now_sale_count"
     nanos := "(t.tx_index_metadata ->> 'BidAmountNanos')::NUMERIC"
     nanosColumn := "nft_buy_now_sale_nanos" }]

/-! ## Orders -/

/-- The limit orders of one kind that each account placed, with the quantity filled for it. -/
def tokenOrders (name : String) (operation : Nat) (filledKey countColumn filledColumn : String) :
    SchemaObject :=
  let partition := TransactionKind.daoCoinLimitOrder.table
  { SchemaObject.materialized name .keyed .heavy with
    uniqueKey := ["public_key"]
    dependsOn := ["hex_to_numeric"]
    baseTables := [partition]
    body := s!"
SELECT t.public_key,
    COUNT(DISTINCT t.transaction_hash) AS {countColumn},
    COALESCE(SUM(hex_to_numeric(fill.value ->> '{filledKey}')), 0) AS {filledColumn}
FROM {partition} t
LEFT JOIN LATERAL jsonb_array_elements(
    CASE
        WHEN jsonb_typeof(t.tx_index_metadata -> 'FilledDAOCoinLimitOrdersMetadata') = 'array'
            THEN t.tx_index_metadata -> 'FilledDAOCoinLimitOrdersMetadata'
        ELSE '[]'::JSONB
    END
) AS fill(value) ON fill.value ->> 'TransactorPublicKeyBase58Check' = t.public_key
WHERE t.txn_meta ->> 'OperationType' = '{operation}'
GROUP BY t.public_key"
    directives := [.hide] }

/-! ## Whole accounts -/

/-- The transactions of each account. -/
def transactions : SchemaObject :=
  { SchemaObject.materialized "statistic_profile_transactions" .keyed .heavy with
    uniqueKey := ["public_key"]
    baseTables := ["transaction"]
    body := "
SELECT public_key,
    COUNT(*) AS count,
    COALESCE(SUM(fee_nanos), 0) AS total_fees,
    MIN(timestamp) AS first_transaction_timestamp,
    MAX(timestamp) AS latest_transaction_timestamp
FROM transaction
GROUP BY public_key"
    afterCreate :=
      ["CREATE INDEX statistic_profile_transactions_latest_idx ON statistic_profile_transactions (latest_transaction_timestamp DESC)"]
    directives := Directive.perAccount "profileTransactionStat" "transactionStats" }

/-- Who owns how many of the unique tokens that a profile made. -/
def topOwners : SchemaObject :=
  { SchemaObject.materialized "statistic_profile_top_nft_owners" .keyed .heavy with
    uniqueKey := ["public_key", "owner_public_key"]
    baseTables := ["nft_entry", "post_entry", "account"]
    body := "
SELECT pe.poster_public_key AS public_key,
    owner.public_key AS owner_public_key,
    owner.username AS owner_username,
    COUNT(DISTINCT ne.nft_post_hash) AS nft_count
FROM nft_entry ne
JOIN post_entry pe ON pe.post_hash = ne.nft_post_hash
JOIN account owner ON owner.pkid = ne.owner_pkid
WHERE ne.is_pending = false
GROUP BY pe.poster_public_key, owner.public_key, owner.username"
    directives :=
      [.rename "profileNftTopOwnerStat", .unique ["public_key", "owner_public_key"], .hideListings,
       .toAccount "public_key" "nftTopOwnerStats"] }

end Activity

end StatSchema.Statistics
