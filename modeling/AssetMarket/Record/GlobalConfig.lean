/-
**The settings record.**

Main definitions:

* `GlobalConfig` — who runs the marketplace, its fee and its treasury;
* `GlobalConfig.decode`, `GlobalConfig.encode` — the record as bytes.
-/

import AssetMarket.Record.Fields
import AssetMarket.Record.Treasury

set_option relaxedAutoImplicit false
set_option autoImplicit false

namespace AssetMarket

/-- The settings of the marketplace, of which there is one record. -/
@[ext]
structure GlobalConfig where
  superAdmin : Address
  marketFee : UInt64
  treasury : Treasury
  deriving DecidableEq

namespace GlobalConfig

/-- The name of the kind. -/
def kindName : String := "GlobalConfig"

/-- The bytes of a record. -/
def size : Nat := 376

/-- The first bytes of a record. -/
def header : Bytes := [162, 244, 124, 37, 148, 94, 28, 50]

/-- The offset of the first of eight addresses. -/
def addressesOffset : Nat := 56

/-- The offset of the first of eight rates. -/
def ratesOffset : Nat := 312

/-- The slot at a position of the treasury. -/
def slotAt (bs : Bytes) (i : Nat) : TreasurySlot :=
  (bs.addressAt (addressesOffset + 32 * i), bs.u64At (ratesOffset + 8 * i))

/-- Read a record.  A count of recipients beyond the capacity is refused. -/
def decode (bs : Bytes) : Except MarketError GlobalConfig := do
  Record.checkLength kindName size bs.length
  let count := (bs.u64At 48).toNat
  if h : count ≤ treasuryCapacity then
    return {
      superAdmin := bs.addressAt 8
      marketFee := bs.u64At 40
      treasury :=
        { count := count
          slots := (List.range treasuryCapacity).map (slotAt bs)
          length_slots := by simp
          count_le := h } }
  else throw (.treasuryCapacity treasuryCapacity count)

/-- Write a record. -/
def encode (r : GlobalConfig) : Bytes :=
  header ++ r.superAdmin.bytes ++ Bytes.ofU64 r.marketFee
    ++ Bytes.ofU64 (UInt64.ofNat r.treasury.count)
    ++ r.treasury.slots.flatMap (·.1.bytes)
    ++ r.treasury.slots.flatMap (fun slot => Bytes.ofU64 slot.2)

end GlobalConfig

end AssetMarket
