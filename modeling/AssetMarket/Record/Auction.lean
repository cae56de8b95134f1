/-
**The auction.**

Main definitions:

* `AuctionStatus` — the stages of an auction, with their codes;
* `Auction` — an auction of a mint;
* `Auction.decode`, `Auction.encode` — the record as bytes;
* `Auction.isLive` — whether the auction is running.

Main results:

* `AuctionStatus.ofCode?_code` — a stage is found by its code.
-/

import AssetMarket.Record.Fields
import AssetMarket.Saturate

set_option relaxedAutoImplicit false
set_option autoImplicit false

namespace AssetMarket

/-- The stages of an auction. -/
inductive AuctionStatus where
  | cancelled
  | started
  | claimed
  /-- Running, while the mint is also listed for sale. -/
  | reserved
  deriving DecidableEq, Repr

namespace AuctionStatus

/-- The code of a stage. -/
def code : AuctionStatus → UInt64
  | .cancelled => 0
  | .started => 1
  | .claimed => 2
  | .reserved => 3

/-- The stage of a code. -/
def ofCode? (code : UInt64) : Option AuctionStatus :=
  if code = 0 then some .cancelled
  else if code = 1 then some .started
  else if code = 2 then some .claimed
  else if code = 3 then some .reserved
  else none

/-- The name of a stage. -/
def name : AuctionStatus → String
  | .cancelled => "Cancelled"
  | .started => "Started"
  | .claimed => "Claimed"
  | .reserved => "Reserved"

/-- Whether bids are taken in a stage. -/
def isLive : AuctionStatus → Bool
  | .started => true
  | .reserved => true
  | _ => false

@[simp] theorem ofCode?_code (s : AuctionStatus) : ofCode? s.code = some s := by
  cases s <;> rfl

end AuctionStatus

/-- An auction of a mint. -/
@[ext]
structure Auction where
  mint : Address
  creator : Address
  startPrice : UInt64
  minIncrease : UInt64
  startDate : Int64
  lastBidDate : Int64
  lastBidder : Address
  highestBid : UInt64
  duration : Int64
  /-- The code of the stage as it is stored; it may be none of the known ones. -/
  statusCode : UInt64
  deriving DecidableEq

namespace Auction

/-- The name of the kind. -/
def kindName : String := "Auction"

/-- The bytes of a record. -/
def size : Nat := 160

/-- The first bytes of a record. -/
def header : Bytes := [72, 15, 100, 35, 242, 55, 1, 93]

/-- Read a record. -/
def decode (bs : Bytes) : Except MarketError Auction := do
  Record.checkLength kindName size bs.length
  return {
    mint := bs.addressAt 8
    creator := bs.addressAt 40
    startPrice := bs.u64At 72
    minIncrease := bs.u64At 80
    startDate := bs.i64At 88
    lastBidDate := bs.i64At 96
    lastBidder := bs.addressAt 104
    highestBid := bs.u64At 136
    duration := bs.i64At 144
    statusCode := bs.u64At 152 }

/-- Write a record. -/
def encode (r : Auction) : Bytes :=
  header ++ r.mint.bytes ++ r.creator.bytes ++ Bytes.ofU64 r.startPrice
    ++ Bytes.ofU64 r.minIncrease ++ Bytes.ofI64 r.startDate ++ Bytes.ofI64 r.lastBidDate
    ++ r.lastBidder.bytes ++ Bytes.ofU64 r.highestBid ++ Bytes.ofI64 r.duration
    ++ Bytes.ofU64 r.statusCode

/-- The stage of the auction, if its code is a known one. -/
def status (r : Auction) : Option AuctionStatus := AuctionStatus.ofCode? r.statusCode

/-- Whether the auction is running. -/
def isLive (r : Auction) : Bool := r.status.any AuctionStatus.isLive

/-- Whether anybody has bid yet. -/
def hasBid (r : Auction) : Bool := r.lastBidder != Address.zero

/-- When the auction ends. -/
def endDate (r : Auction) : Int64 := saturatingAddSigned r.startDate r.duration

/-- The record of a mint that was never up for auction. -/
def blank (mint : Address) : Auction :=
  { mint := mint
    creator := Address.zero
    startPrice := 0
    minIncrease := 0
    startDate := 0
    lastBidDate := 0
    lastBidder := Address.zero
    highestBid := 0
    duration := 0
    statusCode := 0 }

@[simp] theorem isLive_blank (mint : Address) : (blank mint).isLive = false := rfl

end Auction

end AssetMarket
