import StatSchema.Text.Decimal
import StatSchema.Text.Split

/-!
# `StatSchema.Partition` — transaction kinds and the tables that hold them

The explorer stores transactions in one table per kind, numbered by the value that stands for the kind
on the wire. A statistic that concerns one kind reads only its table.

## Contents
- **Kinds.** `TransactionKind` and its `partition`; `label`, the derived name under which a kind is shown, and
  `all`, the kinds that these names belong to.
- **Tables.** `partitionTable`, its inverse `parsePartitionTable?`, `TransactionKind.table`.
- **Categories.** `TransactionCategory`: the groups of kinds that the dashboard counts together.
-/

namespace StatSchema

/-- The number of tables that hold transactions. -/
def partitionCount : Nat := 33

/-! ## Kinds -/

/-- What a transaction does. -/
inductive TransactionKind where
  | blockReward | basicTransfer | bitcoinExchange | privateMessage | submitPost | updateProfile
  | unassigned | updateBitcoinUsdExchangeRate | follow | like | creatorCoin | swapIdentity
  | updateGlobalParams | creatorCoinTransfer | createNft | updateNft | acceptNftBid | nftBid
  | nftTransfer | acceptNftTransfer | burnNft | authorizeDerivedKey | messagingGroup | daoCoin
  | daoCoinTransfer | daoCoinLimitOrder | createUserAssociation | deleteUserAssociation
  | createPostAssociation | deletePostAssociation | accessGroup | accessGroupMembers | newMessage
  deriving DecidableEq, Repr

namespace TransactionKind

/-- Every kind, in the order of its partition: the kinds whose names (`label`) may be shown. No statistic goes
    through all of them. -/
def all : List TransactionKind :=
  [.blockReward, .basicTransfer, .bitcoinExchange, .privateMessage, .submitPost, .updateProfile,
   .unassigned, .updateBitcoinUsdExchangeRate, .follow, .like, .creatorCoin, .swapIdentity,
   .updateGlobalParams, .creatorCoinTransfer, .createNft, .updateNft, .acceptNftBid, .nftBid,
   .nftTransfer, .acceptNftTransfer, .burnNft, .authorizeDerivedKey, .messagingGroup, .daoCoin,
   .daoCoinTransfer, .daoCoinLimitOrder, .createUserAssociation, .deleteUserAssociation,
   .createPostAssociation, .deletePostAssociation, .accessGroup, .accessGroupMembers,
   .newMessage]

/-- The number of the table that holds the kind. -/
def partition : TransactionKind → Nat
  | .blockReward => 1
  | .basicTransfer => 2
  | .bitcoinExchange => 3
  | .privateMessage => 4
  | .submitPost => 5
  | .updateProfile => 6
  | .unassigned => 7
  | .updateBitcoinUsdExchangeRate => 8
  | .follow => 9
  | .like => 10
  | .creatorCoin => 11
  | .swapIdentity => 12
  | .updateGlobalParams => 13
  | .creatorCoinTransfer => 14
  | .createNft => 15
  | .updateNft => 16
  | .acceptNftBid => 17
  | .nftBid => 18
  | .nftTransfer => 19
  | .acceptNftTransfer => 20
  | .burnNft => 21
  | .authorizeDerivedKey => 22
  | .messagingGroup => 23
  | .daoCoin => 24
  | .daoCoinTransfer => 25
  | .daoCoinLimitOrder => 26
  | .createUserAssociation => 27
  | .deleteUserAssociation => 28
  | .createPostAssociation => 29
  | .deletePostAssociation => 30
  | .accessGroup => 31
  | .accessGroupMembers => 32
  | .newMessage => 33

/-- The derived name of the kind, under which it is shown. No statement contains it: in these a kind stands
    as the number of its partition. -/
def label : TransactionKind → String
  | .blockReward => "BlockReward"
  | .basicTransfer => "BasicTransfer"
  | .bitcoinExchange => "BitcoinExchange"
  | .privateMessage => "PrivateMessage"
  | .submitPost => "SubmitPost"
  | .updateProfile => "UpdateProfile"
  | .unassigned => "Unassigned"
  | .updateBitcoinUsdExchangeRate => "UpdateBitcoinUsdExchangeRate"
  | .follow => "Follow"
  | .like => "Like"
  | .creatorCoin => "CreatorCoin"
  | .swapIdentity => "SwapIdentity"
  | .updateGlobalParams => "UpdateGlobalParams"
  | .creatorCoinTransfer => "CreatorCoinTransfer"
  | .createNft => "CreateNft"
  | .updateNft => "UpdateNft"
  | .acceptNftBid => "AcceptNftBid"
  | .nftBid => "NftBid"
  | .nftTransfer => "NftTransfer"
  | .acceptNftTransfer => "AcceptNftTransfer"
  | .burnNft => "BurnNft"
  | .authorizeDerivedKey => "AuthorizeDerivedKey"
  | .messagingGroup => "MessagingGroup"
  | .daoCoin => "DaoCoin"
  | .daoCoinTransfer => "DaoCoinTransfer"
  | .daoCoinLimitOrder => "DaoCoinLimitOrder"
  | .createUserAssociation => "CreateUserAssociation"
  | .deleteUserAssociation => "DeleteUserAssociation"
  | .createPostAssociation => "CreatePostAssociation"
  | .deletePostAssociation => "DeletePostAssociation"
  | .accessGroup => "AccessGroup"
  | .accessGroupMembers => "AccessGroupMembers"
  | .newMessage => "NewMessage"

end TransactionKind

/-! ## Tables -/

/-- What the names of the partition tables begin with. -/
def partitionStem : String := "transaction_partition_"

/-- The name of a partition table: its number stands in at least two digits. -/
def partitionTable (partition : Nat) : String :=
  partitionStem ++ Text.padded 2 partition

/-- The number of the partition table called `name`, if there is one: two characters that read as a
    number from 1 to `partitionCount` follow the stem. -/
def parsePartitionTable? (name : String) : Option Nat :=
  match Text.dropLeading? partitionStem.toList name.toList with
  | some [tens, ones] =>
    (Text.unsigned? partitionCount [tens, ones]).filter (1 ≤ ·)
  | _ => none

/-- The table that holds the kind. -/
def TransactionKind.table (kind : TransactionKind) : String :=
  partitionTable kind.partition

/-! ## Categories -/

/-- A group of kinds that the dashboard counts together. -/
inductive TransactionCategory where
  | creatorCoin | nft | dex | social
  deriving DecidableEq, Repr

namespace TransactionCategory

/-- The kinds of the category. -/
def kinds : TransactionCategory → List TransactionKind
  | .creatorCoin => [.creatorCoin, .creatorCoinTransfer]
  | .nft =>
    [.createNft, .updateNft, .acceptNftBid, .nftBid, .nftTransfer, .acceptNftTransfer, .burnNft]
  | .dex => [.daoCoin, .daoCoinTransfer, .daoCoinLimitOrder]
  | .social =>
    [.privateMessage, .submitPost, .updateProfile, .follow, .like, .messagingGroup,
     .createUserAssociation, .deleteUserAssociation, .createPostAssociation, .deletePostAssociation,
     .accessGroup, .accessGroupMembers, .newMessage]

/-- The SQL expression that sums the estimated sizes of the category's partitions. -/
def countExpression (category : TransactionCategory) : String :=
  " + ".intercalate
    (category.kinds.map fun kind => "get_transaction_count(" ++ toString kind.partition ++ ")")

end TransactionCategory

end StatSchema
