/-
**The sale listing.**

Main definitions:

* `Listing` — the sale of a mint at a price;
* `Listing.decode`, `Listing.encode` — the record as bytes;
* `Listing.isLive` — whether the sale is open.
-/

import AssetMarket.Record.Fields

set_option relaxedAutoImplicit false
set_option autoImplicit false

namespace AssetMarket

/-- The sale of a mint.  The record stays on the ledger after the sale is closed. -/
@[ext]
structure Listing where
  mint : Address
  seller : Address
  collection : Address
  price : UInt64
  listedDate : Int64
  active : UInt64
  deriving DecidableEq

namespace Listing

/-- The name of the kind. -/
def kindName : String := "Listing"

/-- The bytes of a record. -/
def size : Nat := 128

/-- The first bytes of a record. -/
def header : Bytes := [40, 65, 228, 85, 42, 150, 106, 168]

/-- Read a record. -/
def decode (bs : Bytes) : Except MarketError Listing := do
  Record.checkLength kindName size bs.length
  return {
    mint := bs.addressAt 8
    seller := bs.addressAt 40
    collection := bs.addressAt 72
    price := bs.u64At 104
    listedDate := bs.i64At 112
    active := bs.u64At 120 }

/-- Write a record. -/
def encode (r : Listing) : Bytes :=
  header ++ r.mint.bytes ++ r.seller.bytes ++ r.collection.bytes ++ Bytes.ofU64 r.price
    ++ Bytes.ofI64 r.listedDate ++ Bytes.ofU64 r.active

/-- Whether the sale is open. -/
def isLive (r : Listing) : Bool := r.active == 1

/-- The record of a mint that was never listed. -/
def blank (mint : Address) : Listing := ⟨mint, Address.zero, Address.zero, 0, 0, 0⟩

@[simp] theorem isLive_blank (mint : Address) : (blank mint).isLive = false := rfl

end Listing

end AssetMarket
