import StatSchema.Statistics.Earnings
import StatSchema.Statistics.Figures
import StatSchema.Statistics.FirstAppearance
import StatSchema.Statistics.Holdings
import StatSchema.Statistics.Market
import StatSchema.Statistics.Rankings
import StatSchema.Statistics.SqlFunctions
import StatSchema.Statistics.Stakes
import StatSchema.Statistics.Trends

/-!
# `StatSchema.Statistics.Full` — the whole statistics schema

## Contents
- `groups`: the groups of objects, in the order in which they are installed.
- `Catalog.full`: all their objects.
-/

namespace StatSchema

/-- The groups of objects, in the order in which they are installed. -/
def Statistics.groups : List (List SchemaObject) :=
  [FirstAppearance.objects, SqlFunctions.objects, Figures.objects, Trends.objects,
   Rankings.objects, Market.objects, Earnings.objects, Holdings.objects, [Figures.dashboard],
   Stakes.objects]

/-- Every object of the statistics schema, in creation order. -/
def Catalog.full : Catalog :=
  ⟨Statistics.groups.flatten⟩

end StatSchema
