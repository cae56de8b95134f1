/-
**The user account.**

Main definitions:

* `UserAccount` — what the marketplace keeps about a user;
* `UserAccount.decode`, `UserAccount.encode` — the record as bytes.
-/

import AssetMarket.Record.Fields

set_option relaxedAutoImplicit false
set_option autoImplicit false

namespace AssetMarket

/-- What the marketplace keeps about a user. -/
@[ext]
structure UserAccount where
  address : Address
  tradedVolume : UInt64
  escrowBalance : UInt64
  deriving DecidableEq

namespace UserAccount

/-- The name of the kind. -/
def kindName : String := "UserAccount"

/-- The bytes of a record. -/
def size : Nat := 56

/-- The first bytes of a record. -/
def header : Bytes := [139, 248, 167, 203, 253, 220, 210, 221]

/-- Read a record. -/
def decode (bs : Bytes) : Except MarketError UserAccount := do
  Record.checkLength kindName size bs.length
  return {
    address := bs.addressAt 8
    tradedVolume := bs.u64At 40
    escrowBalance := bs.u64At 48 }

/-- Write a record. -/
def encode (r : UserAccount) : Bytes :=
  header ++ r.address.bytes ++ Bytes.ofU64 r.tradedVolume ++ Bytes.ofU64 r.escrowBalance

/-- The record of a user who has not traded. -/
def blank (address : Address) : UserAccount := ⟨address, 0, 0⟩

end UserAccount

end AssetMarket
