/-
**Records of any kind.**

The marketplace stores five kinds of records.  A scan tells them apart by their size alone, which
works because no two kinds have the same size.

Main definitions:

* `RecordKind` — the kinds, with name, size and header;
* `Record` — a record of some kind;
* `Record.decode`, `Record.encode` — records as bytes;
* `Record.isLive` — whether a scan returns the record;
* `Record.toJson` — a record as a JSON value.

Main results:

* `RecordKind.size_injective` — the size tells the kind.
-/

import AssetMarket.Json
import AssetMarket.Record.Auction
import AssetMarket.Record.GlobalConfig
import AssetMarket.Record.Listing
import AssetMarket.Record.Offer
import AssetMarket.Record.UserAccount

set_option relaxedAutoImplicit false
set_option autoImplicit false

namespace AssetMarket

/-! ### Kinds -/

/-- The kinds of records. -/
inductive RecordKind where
  | globalConfig
  | listing
  | offer
  | auction
  | userAccount
  deriving DecidableEq, Repr

namespace RecordKind

/-- All kinds. -/
def all : List RecordKind := [.globalConfig, .listing, .offer, .auction, .userAccount]

/-- The name of a kind. -/
def name : RecordKind → String
  | .globalConfig => GlobalConfig.kindName
  | .listing => Listing.kindName
  | .offer => Offer.kindName
  | .auction => Auction.kindName
  | .userAccount => UserAccount.kindName

/-- The bytes of a record of a kind. -/
def size : RecordKind → Nat
  | .globalConfig => GlobalConfig.size
  | .listing => Listing.size
  | .offer => Offer.size
  | .auction => Auction.size
  | .userAccount => UserAccount.size

/-- The first bytes of a record of a kind. -/
def header : RecordKind → Bytes
  | .globalConfig => GlobalConfig.header
  | .listing => Listing.header
  | .offer => Offer.header
  | .auction => Auction.header
  | .userAccount => UserAccount.header

theorem mem_all (k : RecordKind) : k ∈ all := by cases k <;> decide

theorem size_injective {j k : RecordKind} (h : j.size = k.size) : j = k := by
  revert h
  cases j <;> cases k <;> decide

/-- Whether bytes begin with the header of a kind. -/
def hasHeader (k : RecordKind) (bs : Bytes) : Bool := k.header.isPrefixOf bs

/-- The kind that a word on the command line means; letters count in either case. -/
def ofName? (s : String) : Option RecordKind :=
  let word := String.ofList (s.toList.map fun c => if c = '_' then '-' else c.toLower)
  if word ∈ ["global", "global-config"] then some .globalConfig
  else if word ∈ ["listing", "sell"] then some .listing
  else if word = "offer" then some .offer
  else if word = "auction" then some .auction
  else if word ∈ ["user", "user-account"] then some .userAccount
  else none

/-- Refuse kinds of which two have the same size, naming the first such pair. -/
def checkSizes : List RecordKind → Except MarketError Unit
  | [] => .ok ()
  | k :: ks =>
      match ks.find? (·.size == k.size) with
      | some other =>
          .error (.invalidArgument "record kinds"
            s!"{k.name} and {other.name} are both {k.size} bytes")
      | none => checkSizes ks

end RecordKind

/-! ### Records -/

/-- A record of some kind. -/
inductive Record where
  | globalConfig (r : GlobalConfig)
  | listing (r : Listing)
  | offer (r : Offer)
  | auction (r : Auction)
  | userAccount (r : UserAccount)
  deriving DecidableEq

namespace Record

/-- The kind of a record. -/
def kind : Record → RecordKind
  | .globalConfig _ => .globalConfig
  | .listing _ => .listing
  | .offer _ => .offer
  | .auction _ => .auction
  | .userAccount _ => .userAccount

/-- Read a record of a given kind. -/
def decode (kind : RecordKind) (bs : Bytes) : Except MarketError Record :=
  match kind with
  | .globalConfig => (GlobalConfig.decode bs).map .globalConfig
  | .listing => (Listing.decode bs).map .listing
  | .offer => (Offer.decode bs).map .offer
  | .auction => (Auction.decode bs).map .auction
  | .userAccount => (UserAccount.decode bs).map .userAccount

/-- Write a record. -/
def encode : Record → Bytes
  | .globalConfig r => r.encode
  | .listing r => r.encode
  | .offer r => r.encode
  | .auction r => r.encode
  | .userAccount r => r.encode

/-- Whether a scan returns the record.  Settings and user accounts are never closed. -/
def isLive : Record → Bool
  | .globalConfig _ => true
  | .listing r => r.isLive
  | .offer r => r.isLive
  | .auction r => r.isLive
  | .userAccount _ => true

/-! ### As JSON -/

/-- An address as JSON. -/
def jsonAddress (a : Address) : Json := .str a.text

/-- An unsigned integer as JSON. -/
def jsonU64 (x : UInt64) : Json := .int x.toNat

/-- A signed integer as JSON. -/
def jsonI64 (x : Int64) : Json := .int x.toInt

/-- The treasury as JSON, with the slots that are not in use. -/
def jsonTreasury (t : Treasury) : Json :=
  .record
    [("count", .int t.count),
     ("addresses", .array (t.slots.map fun slot => jsonAddress slot.1)),
     ("rates", .array (t.slots.map fun slot => jsonU64 slot.2))]

/-- The fields of a record with their names. -/
def jsonFields : Record → List (String × Json)
  | .globalConfig r =>
      [("super_admin", jsonAddress r.superAdmin), ("market_fee_sol", jsonU64 r.marketFee),
       ("treasury", jsonTreasury r.treasury)]
  | .listing r =>
      [("mint", jsonAddress r.mint), ("seller", jsonAddress r.seller),
       ("collection", jsonAddress r.collection), ("price", jsonU64 r.price),
       ("listed_date", jsonI64 r.listedDate), ("active", jsonU64 r.active)]
  | .offer r =>
      [("mint", jsonAddress r.mint), ("buyer", jsonAddress r.buyer),
       ("offer_price", jsonU64 r.offerPrice), ("offer_listing_date", jsonI64 r.offerListingDate),
       ("active", jsonU64 r.active)]
  | .auction r =>
      [("mint", jsonAddress r.mint), ("creator", jsonAddress r.creator),
       ("start_price", jsonU64 r.startPrice), ("min_increase", jsonU64 r.minIncrease),
       ("start_date", jsonI64 r.startDate), ("last_bid_date", jsonI64 r.lastBidDate),
       ("last_bidder", jsonAddress r.lastBidder), ("highest_bid", jsonU64 r.highestBid),
       ("duration", jsonI64 r.duration), ("status", jsonU64 r.statusCode)]
  | .userAccount r =>
      [("address", jsonAddress r.address), ("traded_volume", jsonU64 r.tradedVolume),
       ("escrow_sol_balance", jsonU64 r.escrowBalance)]

/-- A record as a JSON value, its kind first. -/
def toJson (r : Record) : Json := .record (("kind", .str r.kind.name) :: r.jsonFields)

end Record

end AssetMarket
