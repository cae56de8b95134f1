/-
**Fields at fixed offsets.**

A record is a header of eight bytes that tells its kind, followed by fields at fixed offsets.  Bytes
after the last field are allowed and mean nothing.

Main definitions:

* `Record.headerLength` — the bytes of the header;
* `Record.checkLength` — whether there are bytes enough for a record;
* `Record.headerOf` — the header the storage layer gives to a record type;
* `Bytes.addressAt`, `Bytes.u64At`, `Bytes.i64At` — the field at an offset.

Main results:

* `Bytes.addressAt_append_left`, `Bytes.addressAt_append_right` and their companions — a field is
  read where it was written;
* `Bytes.bytes_addressAt`, `Bytes.ofU64_u64At`, `Bytes.ofI64_i64At` — a field that is written again
  gives the bytes it was read from.
-/

import AssetMarket.Address
import AssetMarket.Crypto.Sha256
import AssetMarket.Error

set_option relaxedAutoImplicit false
set_option autoImplicit false

namespace AssetMarket

namespace Record

/-- The number of bytes in front of the first field. -/
def headerLength : Nat := 8

/-- Refuse bytes that are too few for a record of this kind. -/
def checkLength (kind : String) (expected actual : Nat) : Except MarketError Unit :=
  if actual < expected then .error (.malformedRecord kind expected actual) else .ok ()

/-- The header that the storage layer derives from the name of a record type. -/
def headerOf (typeName : String) : Bytes :=
  (Sha256.digest (Bytes.ofText "account:" ++ Bytes.ofText typeName)).take headerLength

end Record

namespace Bytes

/-- The address at an offset. -/
def addressAt (bs : Bytes) (offset : Nat) : Address := address (bs.drop offset)

/-- The unsigned integer at an offset. -/
def u64At (bs : Bytes) (offset : Nat) : UInt64 := u64 (bs.drop offset)

/-- The signed integer at an offset. -/
def i64At (bs : Bytes) (offset : Nat) : Int64 := i64 (bs.drop offset)

/-! ### Reading what was written -/

variable {front : Bytes} {offset : Nat}

theorem drop_append_left (h : front.length ≤ offset) (back : Bytes) :
    (front ++ back).drop offset = back.drop (offset - front.length) := by
  rw [List.drop_append, List.drop_eq_nil_of_le h, List.nil_append]

theorem addressAt_append_left (h : front.length ≤ offset) (back : Bytes) :
    (front ++ back).addressAt offset = back.addressAt (offset - front.length) := by
  rw [addressAt, addressAt, drop_append_left h]

theorem u64At_append_left (h : front.length ≤ offset) (back : Bytes) :
    (front ++ back).u64At offset = back.u64At (offset - front.length) := by
  rw [u64At, u64At, drop_append_left h]

theorem i64At_append_left (h : front.length ≤ offset) (back : Bytes) :
    (front ++ back).i64At offset = back.i64At (offset - front.length) := by
  rw [i64At, i64At, drop_append_left h]

@[simp] theorem addressAt_append_right (a : Address) (rest : Bytes) :
    (a.bytes ++ rest).addressAt 0 = a := address_bytes_append a rest

@[simp] theorem u64At_append_right (x : UInt64) (rest : Bytes) :
    (ofU64 x ++ rest).u64At 0 = x := u64_ofU64 x rest

@[simp] theorem i64At_append_right (x : Int64) (rest : Bytes) :
    (ofI64 x ++ rest).i64At 0 = x := i64_ofI64 x rest

@[simp] theorem u64At_ofU64 (x : UInt64) : (ofU64 x).u64At 0 = x := by
  simpa using u64At_append_right x []

/-! ### Writing what was read -/

variable {bs : Bytes}

theorem bytes_addressAt (h : offset + 32 ≤ bs.length) :
    (bs.addressAt offset).bytes = bs.slice offset 32 :=
  bytes_address _ (by rw [List.length_drop]; omega)

theorem ofU64_u64At (h : offset + 8 ≤ bs.length) : ofU64 (bs.u64At offset) = bs.slice offset 8 :=
  ofU64_u64 (by rw [List.length_drop]; omega)

theorem ofI64_i64At (h : offset + 8 ≤ bs.length) : ofI64 (bs.i64At offset) = bs.slice offset 8 :=
  ofI64_i64 (by rw [List.length_drop]; omega)

end Bytes

end AssetMarket
