import StatSchema.Catalog.Basic

/-!
# `StatSchema.Statistics.Market` — the best prices of the open limit orders

Prices are in the base coin per whole coin. The order book stores scaled rates: a rate carries a factor
of 1e38, coins are counted in units of 1e-18 and the base coin in units of 1e-9. So the rate of a bid is
divided by 1e29, and the rate of an ask is inverted and multiplied by 1e47.

## Contents
- `baseCoin`: the coin that prices are quoted against.
- **Views.** `maxBids`, `minAsks`, `bidAsks`, and all in `objects`.
-/

namespace StatSchema.Statistics.Market

/-- The key of the coin that prices are quoted against. -/
def baseCoin : String := "BC1YLbnP7rndL92x7DbLp6bkUpCgKmgoHgKdwD"

/-- How an order to buy is marked. -/
def bidOperation : Nat := 2

/-- How an order to sell is marked. -/
def askOperation : Nat := 1

/-! ## Views -/

/-- The best bid for each pair of coins. -/
def maxBids : SchemaObject :=
  { SchemaObject.view "dao_coin_limit_order_max_bids" .keyed with
    baseTables := ["dao_coin_limit_order_entry"]
    body := s!"
SELECT
    selling_dao_coin_creator_pkid AS selling_creator_pkid,
    buying_dao_coin_creator_pkid AS buying_creator_pkid,
    MAX(scaled_exchange_rate_coins_to_sell_per_coin_to_buy_numeric) / 1e29 AS max_bid_price,
    SUM(quantity_to_fill_in_base_units_numeric) AS bid_quantity
FROM dao_coin_limit_order_entry
WHERE operation_type = {bidOperation}
GROUP BY selling_dao_coin_creator_pkid, buying_dao_coin_creator_pkid"
    directives := [.hide] }

/-- The best ask for each pair of coins. -/
def minAsks : SchemaObject :=
  { SchemaObject.view "dao_coin_limit_order_min_asks" .keyed with
    baseTables := ["dao_coin_limit_order_entry"]
    body := s!"
SELECT
    selling_dao_coin_creator_pkid AS selling_creator_pkid,
    buying_dao_coin_creator_pkid AS buying_creator_pkid,
    MIN(1 / NULLIF(scaled_exchange_rate_coins_to_sell_per_coin_to_buy_numeric, 0) * 1e47) AS min_ask_price,
    SUM(quantity_to_fill_in_base_units_numeric) AS ask_quantity
FROM dao_coin_limit_order_entry
WHERE operation_type = {askOperation}
GROUP BY selling_dao_coin_creator_pkid, buying_dao_coin_creator_pkid"
    directives := [.hide] }

/-- Bid and ask of each pair; an ask for one coin in another stands opposite a bid for the other in it. -/
def bidAsks : SchemaObject :=
  { SchemaObject.view "dao_coin_limit_order_bid_asks" .keyed with
    dependsOn := ["dao_coin_limit_order_max_bids", "dao_coin_limit_order_min_asks"]
    body := "
SELECT
    bids.selling_creator_pkid,
    bids.buying_creator_pkid,
    bids.max_bid_price,
    bids.bid_quantity,
    asks.min_ask_price,
    asks.ask_quantity,
    (bids.max_bid_price + asks.min_ask_price) / 2 AS market_price
FROM dao_coin_limit_order_max_bids bids
JOIN dao_coin_limit_order_min_asks asks
    ON asks.selling_creator_pkid = bids.buying_creator_pkid
    AND asks.buying_creator_pkid = bids.selling_creator_pkid"
    directives := [.hide] }

/-- The objects of the group, in creation order. -/
def objects : List SchemaObject :=
  [maxBids, minAsks, bidAsks]

end StatSchema.Statistics.Market
