import StatSchema.Statistics.Activity
import StatSchema.Statistics.Diamonds
import StatSchema.Statistics.Rollup

/-!
# `StatSchema.Statistics.Earnings` — what profiles earn and how

## Contents
- **Earnings.** `sources`, `earnings`: what each profile earned, by origin and in all.
- **Breakdown.** `breakdownSources`, `breakdown`: the counts and sums behind it.
- **All views about profiles.** `objects`.
-/

namespace StatSchema.Statistics.Earnings

/-! ## Earnings -/

/-- What earnings are summed from. -/
def sources : List Rollup.Source :=
  [⟨"statistic_profile_diamond_earnings", ["diamond_earnings_nanos"]⟩,
   ⟨"statistic_profile_cc_royalties", ["cc_royalty_nanos"]⟩,
   ⟨"statistic_profile_nft_bid_royalty_earnings", ["nft_bid_royalty_nanos"]⟩,
   ⟨"statistic_profile_nft_buy_now_royalty_earnings", ["nft_buy_now_royalty_nanos"]⟩]

/-- What each profile earned, by origin and in all. -/
def earnings : SchemaObject :=
  { SchemaObject.materialized "statistic_profile_earnings" .keyed .light with
    uniqueKey := ["public_key"]
    dependsOn := sources.map (·.view)
    body := Rollup.rollup sources (some "total_earnings_nanos")
    directives := Directive.perAccount "profileEarningsStat" "earningsStats" }

/-! ## Breakdown -/

/-- What the breakdown of earnings is gathered from. -/
def breakdownSources : List Rollup.Source :=
  [⟨"statistic_profile_cc_buyers", ["cc_buyer_count", "cc_buy_nanos"]⟩,
   ⟨"statistic_profile_cc_sellers", ["cc_seller_count", "cc_sell_nanos"]⟩,
   ⟨"statistic_profile_nft_bid_buys", ["nft_bid_buy_count", "nft_bid_buy_nanos"]⟩,
   ⟨"statistic_profile_nft_bid_sales", ["nft_bid_sale_count", "nft_bid_sale_nanos"]⟩,
   ⟨"statistic_profile_nft_buy_now_buys", ["nft_buy_now_buy_count", "nft_buy_now_buy_nanos"]⟩,
   ⟨"statistic_profile_nft_buy_now_sales", ["nft_buy_now_sale_count", "nft_buy_now_sale_nanos"]⟩,
   ⟨"statistic_profile_deso_token_buy_orders",
     ["token_buy_order_count", "token_buy_order_nanos_filled"]⟩,
   ⟨"statistic_profile_deso_token_sell_orders",
     ["token_sell_order_count", "token_sell_order_nanos_filled"]⟩]

/-- The counts and sums behind the earnings of each profile. -/
def breakdown : SchemaObject :=
  { SchemaObject.materialized "statistic_profile_earnings_breakdown_counts" .keyed .light with
    uniqueKey := ["public_key"]
    dependsOn := breakdownSources.map (·.view)
    body := Rollup.rollup breakdownSources none
    directives := Directive.perAccount "profileEarningsBreakdownStat" "earningsBreakdownStats" }

/-! ## All views about profiles -/

/-- The objects of the group, in creation order. -/
def objects : List SchemaObject :=
  [Activity.transactions, Activity.topOwners, Diamonds.given, Diamonds.received, Diamonds.earned]
  ++ Activity.earning.map (·.view)
  ++ [earnings]
  ++ Activity.trading.map (·.view)
  ++ [Activity.tokenOrders "statistic_profile_deso_token_buy_orders" 2
        "CoinQuantityInBaseUnitsBought" "token_buy_order_count" "token_buy_order_nanos_filled",
      Activity.tokenOrders "statistic_profile_deso_token_sell_orders" 1
        "CoinQuantityInBaseUnitsSold" "token_sell_order_count" "token_sell_order_nanos_filled",
      breakdown]

end StatSchema.Statistics.Earnings
