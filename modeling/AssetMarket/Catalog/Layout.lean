/-
**The layout of the records, as it is published.**

The catalog tells other programs where the fields of each record stand.  It lists the fields with
their types; offsets follow from the widths, starting behind the header.

Main definitions:

* `FieldType` — the types of record fields;
* `RecordKind.layout` — the fields of a kind, in order;
* `RecordKind.offsets` — the same with the offset of each.

Main results:

* `RecordKind.layout_fills` — the header and the fields make up the whole record.
-/

import AssetMarket.Instruction.Signature
import AssetMarket.Record

set_option relaxedAutoImplicit false
set_option autoImplicit false

namespace AssetMarket

/-- The type of a record field: a single value, or eight of one type. -/
inductive FieldType where
  | one (type : ArgType)
  | eight (type : ArgType)
  deriving DecidableEq, Repr

namespace FieldType

/-- The name of a type. -/
def name : FieldType → String
  | .one type => type.name
  | .eight type => "[" ++ type.name ++ "; 8]"

/-- The bytes of a field. -/
def width : FieldType → Nat
  | .one type => type.width
  | .eight type => 8 * type.width

end FieldType

namespace RecordKind

/-- The fields of a kind with their types, in order. -/
def layout : RecordKind → List (String × FieldType)
  | .globalConfig =>
      [("super_admin", .one .publicKey), ("market_fee_sol", .one .u64), ("team_count", .one .u64),
       ("team_treasury", .eight .publicKey), ("treasury_rate", .eight .u64)]
  | .listing =>
      [("mint", .one .publicKey), ("seller", .one .publicKey), ("collection", .one .publicKey),
       ("price", .one .u64), ("listed_date", .one .i64), ("active", .one .u64)]
  | .offer =>
      [("mint", .one .publicKey), ("buyer", .one .publicKey), ("offer_price", .one .u64),
       ("offer_listing_date", .one .i64), ("active", .one .u64)]
  | .auction =>
      [("mint", .one .publicKey), ("creator", .one .publicKey), ("start_price", .one .u64),
       ("min_increase", .one .u64), ("start_date", .one .i64), ("last_bid_date", .one .i64),
       ("last_bidder", .one .publicKey), ("highest_bid", .one .u64), ("duration", .one .i64),
       ("status", .one .u64)]
  | .userAccount =>
      [("address", .one .publicKey), ("traded_volume", .one .u64),
       ("escrow_sol_balance", .one .u64)]

/-- A field of a record: name, type and offset. -/
structure Field where
  name : String
  type : FieldType
  offset : Nat
  deriving DecidableEq, Repr

/-- Fields placed one after the other from an offset on. -/
def place (offset : Nat) : List (String × FieldType) → List Field
  | [] => []
  | (name, type) :: rest => ⟨name, type, offset⟩ :: place (offset + type.width) rest

/-- The fields of a kind with their offsets. -/
def offsets (k : RecordKind) : List Field := place Record.headerLength k.layout

theorem layout_fills (k : RecordKind) :
    Record.headerLength + (k.layout.map fun field => field.2.width).sum = k.size := by
  cases k <;> decide

end RecordKind

end AssetMarket
