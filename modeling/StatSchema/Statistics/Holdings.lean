import StatSchema.Statistics.Market

/-!
# `StatSchema.Statistics.Holdings` — what an account holds is worth

Values are in nanos of the native coin.

## Contents
- **Holdings.** `creatorCoins`, `nfts`, `tokens`: one kind of holding each.
- **Sum.** `portfolioValue`, and all in `objects`.
-/

namespace StatSchema.Statistics.Holdings

/-! ## Holdings -/

/-- Creator coins are worth what selling them would yield. -/
def creatorCoins : SchemaObject :=
  { SchemaObject.materialized "statistic_cc_balance_totals" .keyed .heavy with
    uniqueKey := ["pkid"]
    dependsOn := ["cc_nanos_total_sell_value"]
    baseTables := ["balance_entry", "profile_entry"]
    body := "
SELECT be.hodler_pkid AS pkid,
    COALESCE(SUM(cc_nanos_total_sell_value(
        be.balance_nanos,
        pe.deso_locked_nanos,
        pe.cc_coins_in_circulation_nanos
    )), 0) AS cc_value_nanos
FROM balance_entry be
JOIN profile_entry pe ON pe.pkid = be.creator_pkid
WHERE be.is_dao_coin = false
    AND be.balance_nanos > 0
    AND be.balance_nanos <= pe.cc_coins_in_circulation_nanos
GROUP BY be.hodler_pkid"
    directives := [.hide] }

/-- A unique token is worth its best open bid, or else what its copies sold for last. -/
def nfts : SchemaObject :=
  { SchemaObject.materialized "statistic_nft_balance_totals" .keyed .heavy with
    uniqueKey := ["pkid"]
    baseTables := ["nft_entry", "nft_bid_entry"]
    body := "
SELECT pkid, COALESCE(SUM(post_value), 0) AS nft_value_nanos
FROM (
    SELECT ne.owner_pkid AS pkid,
        ne.nft_post_hash,
        COALESCE(MAX(nbe.bid_amount_nanos), AVG(ne.last_accepted_bid_amount_nanos)) AS post_value
    FROM nft_entry ne
    LEFT JOIN nft_bid_entry nbe
        ON nbe.nft_post_hash = ne.nft_post_hash
        AND nbe.serial_number = ne.serial_number
    WHERE ne.is_pending = false
    GROUP BY ne.owner_pkid, ne.nft_post_hash
) held
GROUP BY pkid"
    directives := [.hide] }

/-- Other coins are worth their market price in the base coin; balances count units of 1e-18. -/
def tokens : SchemaObject :=
  let base := Market.baseCoin
  { SchemaObject.materialized "statistic_deso_token_balance_totals" .keyed .medium with
    uniqueKey := ["pkid"]
    dependsOn := ["dao_coin_limit_order_bid_asks"]
    baseTables := ["balance_entry"]
    body := s!"
SELECT be.hodler_pkid AS pkid,
    COALESCE(SUM(be.balance_nanos * ba.market_price / 1e9), 0) AS deso_token_value_nanos
FROM balance_entry be
JOIN dao_coin_limit_order_bid_asks ba
    ON ba.buying_creator_pkid = be.creator_pkid
    AND ba.selling_creator_pkid = '{base}'
WHERE be.is_dao_coin = true
GROUP BY be.hodler_pkid"
    directives := [.hide] }

/-! ## Sum -/

/-- Every account with the value of all it holds. -/
def portfolioValue : SchemaObject :=
  { SchemaObject.materialized "statistic_portfolio_value" .keyed .medium with
    uniqueKey := ["public_key"]
    dependsOn :=
      ["statistic_cc_balance_totals", "statistic_nft_balance_totals",
       "statistic_deso_token_balance_totals"]
    baseTables := ["account", "deso_balance_entry"]
    body := "
SELECT a.public_key,
    COALESCE(dbe.balance_nanos, 0) AS deso_balance_nanos,
    COALESCE(cc.cc_value_nanos, 0) AS cc_value_nanos,
    COALESCE(nft.nft_value_nanos, 0) AS nft_value_nanos,
    COALESCE(token.deso_token_value_nanos, 0) AS deso_token_value_nanos,
    COALESCE(dbe.balance_nanos, 0)
        + COALESCE(cc.cc_value_nanos, 0)
        + COALESCE(nft.nft_value_nanos, 0)
        + COALESCE(token.deso_token_value_nanos, 0) AS total_value_nanos
FROM account a
LEFT JOIN deso_balance_entry dbe ON dbe.public_key = a.public_key
LEFT JOIN statistic_cc_balance_totals cc ON cc.pkid = a.pkid
LEFT JOIN statistic_nft_balance_totals nft ON nft.pkid = a.pkid
LEFT JOIN statistic_deso_token_balance_totals token ON token.pkid = a.pkid"
    directives :=
      [.rename "portfolioValueStat", .unique ["public_key"], .hideListings,
       .toAccount "public_key" "portfolioValueStats"] }

/-- The objects of the group, in creation order. -/
def objects : List SchemaObject :=
  [creatorCoins, nfts, tokens, portfolioValue]

end StatSchema.Statistics.Holdings
