/-
**The offer.**

Main definitions:

* `Offer` — what a buyer offers for a mint;
* `Offer.decode`, `Offer.encode` — the record as bytes;
* `Offer.isLive` — whether the offer stands.
-/

import AssetMarket.Record.Fields

set_option relaxedAutoImplicit false
set_option autoImplicit false

namespace AssetMarket

/-- What a buyer offers for a listed mint. -/
@[ext]
structure Offer where
  mint : Address
  buyer : Address
  offerPrice : UInt64
  offerListingDate : Int64
  active : UInt64
  deriving DecidableEq

namespace Offer

/-- The name of the kind. -/
def kindName : String := "Offer"

/-- The bytes of a record. -/
def size : Nat := 96

/-- The first bytes of a record. -/
def header : Bytes := [100, 210, 219, 73, 49, 238, 125, 31]

/-- Read a record. -/
def decode (bs : Bytes) : Except MarketError Offer := do
  Record.checkLength kindName size bs.length
  return {
    mint := bs.addressAt 8
    buyer := bs.addressAt 40
    offerPrice := bs.u64At 72
    offerListingDate := bs.i64At 80
    active := bs.u64At 88 }

/-- Write a record. -/
def encode (r : Offer) : Bytes :=
  header ++ r.mint.bytes ++ r.buyer.bytes ++ Bytes.ofU64 r.offerPrice
    ++ Bytes.ofI64 r.offerListingDate ++ Bytes.ofU64 r.active

/-- Whether the offer stands. -/
def isLive (r : Offer) : Bool := r.active == 1

/-- The record of a buyer who never made an offer for a mint. -/
def blank (mint buyer : Address) : Offer := ⟨mint, buyer, 0, 0, 0⟩

@[simp] theorem isLive_blank (mint buyer : Address) : (blank mint buyer).isLive = false := rfl

end Offer

end AssetMarket
