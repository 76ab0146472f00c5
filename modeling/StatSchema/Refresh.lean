import StatSchema.Block.Statements
import StatSchema.Catalog.Problem
import StatSchema.Catalog.RefreshPlan
import StatSchema.Statistics.Full

/-!
# `StatSchema.Refresh` — bringing the statistics up to date

A refresh first adds the public keys that are new, unless it is told not to, and then recomputes the
materialized views up to a given cost, each after its sources. Every view is a block of its own, so a
failure keeps what was refreshed before it.

## Contents
- `topUpStatement`, `Failure`.
- **Parts.** `openConnection`, `topUp`, `refreshEach`, `refreshCatalog`.
- **Whole.** `refresh`.
-/

namespace StatSchema.Refresh

/-- The statement that adds new public keys. -/
def topUpStatement : String := "SELECT refresh_public_key_first_transaction()"

/-- Why a refresh ended early. -/
inductive Failure where
  | connection (error : ConnectionError)
  | schema (error : SchemaError)
  deriving DecidableEq

/-- Reads the address of the explorer's database and connects to it. -/
def openConnection (env : Environment) : Run (Except Failure Unit) := do
  match Connection.ofVariable env Connection.explorerVariable with
  | .error error =>
    Run.log (.badConnection error)
    return .error (.connection error)
  | .ok connection =>
    Run.report (.connected connection.redacted)
    return .ok ()

/-- Adds new public keys, or warns that they are not. -/
def topUp (skipped : Bool) : Run (Except SchemaError Unit) := do
  if skipped then
    Run.log .skippingTopUp
    return .ok ()
  else
    Run.log .toppingUp
    runStatements .standard "public_key_first_transaction top-up" [topUpStatement]

/-- Refreshes the views in order, up to the first that fails. -/
def refreshEach : List (String × String) → Run (Except SchemaError Unit)
  | [] => do
    Run.log .refreshed
    return .ok ()
  | (name, statement) :: rest => do
    Run.log (.refreshing name)
    match ← runStatements .standard name [statement] with
    | .error error => return .error error
    | .ok () => refreshEach rest

/-- Refreshes the views of a catalog up to a cost. -/
def refreshCatalog (catalog : Catalog) (maxCost : Cost) (skipTopUp : Bool) :
    Run (Except SchemaError Unit) :=
  match catalog.validate with
  | .error error => return .error error
  | .ok () => do
    match ← topUp skipTopUp with
    | .error error => return .error error
    | .ok () =>
    match catalog.refreshStatements maxCost with
    | .error fault => return .error (.outOfRange fault)
    | .ok statements =>
      Run.log (.refreshingAll statements.length maxCost)
      refreshEach statements

/-- Connects to the explorer's database and refreshes its statistics up to a cost. -/
def refresh (env : Environment) (maxCost : Cost) (skipTopUp : Bool) :
    Run (Except Failure Unit) := do
  match ← openConnection env with
  | .error error => return .error error
  | .ok () => return (← refreshCatalog .full maxCost skipTopUp).mapError .schema

end StatSchema.Refresh
