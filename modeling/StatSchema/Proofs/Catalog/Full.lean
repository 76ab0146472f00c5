import StatSchema.Proofs.Catalog.Spelling
import StatSchema.Statistics.Full

/-!
# `StatSchema.Proofs.Catalog.Full` — the statistics schema is accepted

Every operation on the whole schema begins with its check, so that the schema passes is what makes the
other operations possible at all. All texts of the schema are composed of literals, so each is spelled by
the laws of composition, and the rules are checked on the spelled catalog.

## Contents
- `Lexicon.standard`: the tables that the statistics may read, spelled.
- `Figures.spells_dashboardColumn`: the law for the one way to compose texts that only the dashboard uses.
- `Catalog.full_valid`.
-/

namespace StatSchema

open Text (Spells SpellsAll)
open Statistics

/-- The tables that the statistics may read, spelled. -/
def Lexicon.standard : Lexicon := by
  apply Lexicon.mk
  case tables_spelled =>
    unfold baseTables
    repeat' first | apply SpellsAll.nil | apply SpellsAll.cons | apply Spells.literal
  case stem_spelled => exact Spells.literal _
  case uniqueIndex_spelled => exact Spells.literal _

/-- A dashboard column is spelled like its view, without the stem. -/
theorem Statistics.Figures.spells_dashboardColumn {view : String} {stem cs : List Char}
    (hstem : Spells "statistic_" stem) (hview : Spells view cs) :
    Spells (dashboardColumn view) ((Text.dropLeading? stem cs).getD cs) := by
  unfold Spells at *
  unfold dashboardColumn
  rw [hstem, hview]
  cases Text.dropLeading? stem cs with
  | none => exact hview
  | some rest => exact String.toList_ofList

set_option maxRecDepth 10000 in
/-- **The statistics schema keeps every rule of a catalog.** The definitions of the schema are unfolded
    until its texts are composed of literals; then each law of spelling takes one such step back. -/
theorem Catalog.full_valid : Catalog.full.validate = .ok () := by
  apply validate_of_fit
  case lexicon => exact Lexicon.standard
  case spelled =>
    dsimp only [Catalog.full, groups, FirstAppearance.objects, FirstAppearance.table,
      FirstAppearance.topUp, FirstAppearance.tableName, FirstAppearance.insertion,
      FirstAppearance.watermark, SqlFunctions.objects, SqlFunctions.transactionCount,
      SqlFunctions.totalSellValue, SqlFunctions.hexToNumeric, SqlFunctions.reserveRatio,
      Figures.objects, Figures.figures, Figures.figure, Figures.categoryCount, Figures.countOf,
      Figures.estimate, Figures.dashboard, Figures.postTable, TransactionCategory.countExpression,
      TransactionCategory.kinds, TransactionKind.table, partitionTable, partitionStem, Trends.objects,
      Trends.trend, Trends.transactionCounts, Trends.newWalletCounts, Trends.activeWalletCounts,
      Trends.Bucket.column, Trends.Bucket.window, Trends.numbered, Rankings.objects,
      Rankings.socialSignals, Rankings.signalLeaders, Rankings.socialLeaders, Rankings.nftLeaders,
      Rankings.orderLeaders, Market.objects, Market.maxBids, Market.minAsks, Market.bidAsks,
      Market.baseCoin, Earnings.objects, Earnings.sources, Earnings.earnings,
      Earnings.breakdownSources, Earnings.breakdown, Activity.view, Activity.earning,
      Activity.trading, Activity.creatorJoin, Activity.bidderJoin, Activity.tokenOrders,
      Activity.transactions, Activity.topOwners, Diamonds.perProfile, Diamonds.given,
      Diamonds.received, Diamonds.earned, Diamonds.caseTable, Diamonds.tiers, Rollup.rollup,
      Rollup.columns, Rollup.select, Rollup.selection, Rollup.branch, Rollup.sums, Holdings.objects,
      Holdings.creatorCoins, Holdings.nfts, Holdings.tokens, Holdings.portfolioValue, Stakes.objects,
      Stakes.stakeSummary, Stakes.stakingSummary, Stakes.validatorStats, SchemaObject.function,
      SchemaObject.materialized, SchemaObject.view, SchemaObject.table, List.flatten, List.append,
      List.map, List.flatMap, List.cons_append, List.nil_append, Option.map_some, Option.map_none,
      Option.getD_some, Option.getD_none, Option.isSome_some, Option.isSome_none,
      Option.toList_some, Option.toList_none]
    repeat' first
      | with_reducible apply List.Forall₂.nil
      | with_reducible apply List.Forall₂.cons
      | (with_reducible apply SchemaObject.SpelledBy.of_fields) <;> try dsimp only
      | with_reducible apply SpellsAll.nil
      | with_reducible apply SpellsAll.cons
      | with_reducible apply Spells.append
      | with_reducible apply Spells.text
      | with_reducible apply Spells.number
      | with_reducible apply Spells.integer
      | with_reducible apply Spells.padded
      | with_reducible apply Spells.trim
      | with_reducible apply Spells.ite
      | with_reducible apply Spells.intercalate
      | with_reducible apply Figures.spells_dashboardColumn
      | apply Spells.literal
      | apply SpellsAll.ite
  case named => decide +kernel
  case fit => decide +kernel

end StatSchema
