import StatSchema.Catalog.Basic
import StatSchema.Publication.Publisher

/-!
# `StatSchema.Publication.Statements` — statistics on a subscriber's database

A subscriber reaches the publisher through a foreign server. The published objects are imported as
foreign tables, which are hidden from the public schema, and each is shown through a local view that
carries the publisher's directives.

## Contents
- **Names.** `extensionName`, `serverName`, `publishedNames`, `remoteViewName`.
- **Installation.** `connectionStatements`, `viewStatements`, `createStatements`.
- **Removal.** `dropStatements`.
-/

namespace StatSchema.Publication

/-! ## Names -/

/-- The database extension that gives access to foreign servers. -/
def extensionName : String := "postgres_fdw"

/-- The name of the foreign server. -/
def serverName : String := "statistics_publisher"

/-- The objects that are published, in the order in which they are imported. -/
def publishedNames : List String :=
  ["statistic_dashboard", "statistic_txn_count_monthly", "statistic_wallet_count_monthly",
   "statistic_txn_count_daily", "statistic_new_wallet_count_daily",
   "statistic_active_wallet_count_daily", "statistic_social_leaderboard",
   "statistic_nft_leaderboard", "statistic_defi_leaderboard", "statistic_profile_transactions",
   "statistic_profile_top_nft_owners", "statistic_profile_earnings",
   "statistic_profile_earnings_breakdown_counts", "statistic_portfolio_value",
   "statistic_profile_diamond_earnings"]

/-- The local view that shows the foreign table `name`. -/
def remoteViewName (name : String) : String :=
  name ++ "_remote_view"

/-! ## Installation -/

/-- The statements that make the publisher's tables available. -/
def connectionStatements (publisher : Publisher) : List String :=
  ["CREATE EXTENSION IF NOT EXISTS " ++ extensionName,
   "CREATE SERVER " ++ serverName ++ " FOREIGN DATA WRAPPER " ++ extensionName
     ++ " OPTIONS (host " ++ Text.Literal.quote publisher.host
     ++ ", port " ++ Text.Literal.quote (toString publisher.port)
     ++ ", dbname " ++ Text.Literal.quote publisher.database ++ ")",
   "CREATE USER MAPPING FOR CURRENT_USER SERVER " ++ serverName
     ++ " OPTIONS (user " ++ Text.Literal.quote publisher.user
     ++ ", password " ++ Text.Literal.quote publisher.password ++ ")",
   "IMPORT FOREIGN SCHEMA public LIMIT TO (" ++ ", ".intercalate publishedNames
     ++ ") FROM SERVER " ++ serverName ++ " INTO public"]

/-- The directives that a local view takes over: all but the one that hides the object. -/
def shownDirectives (directives : List Directive) : List Directive :=
  directives.filter (· ≠ .hide)

/-- The statements that hide the foreign table of `o` and show it through a local view. -/
def viewStatements (name : String) (o : SchemaObject) : List String :=
  let shown := shownDirectives o.directives
  [Directive.commentStatement "FOREIGN TABLE" name [.hide],
   "CREATE VIEW " ++ remoteViewName name ++ " AS SELECT * FROM " ++ name]
  ++ if shown.isEmpty then []
     else [Directive.commentStatement "VIEW" (remoteViewName name) shown]

/-- The statements of `viewStatements` for each of `names`, if the catalog has them all. -/
def allViewStatements (catalog : Catalog) : List String → Except SchemaError (List String)
  | [] => .ok []
  | name :: names =>
    match catalog.find? name with
    | none => .error (.catalog ("published object " ++ name ++ " is not in the catalog"))
    | some o => (allViewStatements catalog names).map (viewStatements name o ++ ·)

/-- The statements that install the published objects on a subscriber. -/
def createStatements (publisher : Publisher) (catalog : Catalog) :
    Except SchemaError (List String) :=
  (allViewStatements catalog publishedNames).map (connectionStatements publisher ++ ·)

/-! ## Removal -/

/-- The statements that remove everything that `createStatements` installs, the last first. -/
def dropStatements : List String :=
  publishedNames.reverse.map (fun name => "DROP VIEW IF EXISTS " ++ remoteViewName name)
  ++ publishedNames.reverse.map (fun name => "DROP FOREIGN TABLE IF EXISTS " ++ name)
  ++ ["DROP USER MAPPING IF EXISTS FOR CURRENT_USER SERVER " ++ serverName,
      "DROP SERVER IF EXISTS " ++ serverName,
      "DROP EXTENSION IF EXISTS " ++ extensionName]

end StatSchema.Publication
