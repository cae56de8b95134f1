/-
**Byte strings and the little-endian numbers inside them.**

Records, instruction data and metadata are all byte strings in which integers stand lowest byte
first.  This module fixes that reading once: `Bytes.number` is the number a byte string denotes,
`Bytes.littleEndian` the byte string of a given width that denotes a number, and the fixed-width
integers of the ledger (`UInt16`, `UInt32`, `UInt64`, `Int64`) go through these two.

Main definitions:

* `Bytes.number`, `Bytes.littleEndian` — the little-endian reading and writing of numbers;
* `Bytes.slice` — the bytes of a range, fewer where the string is shorter;
* `Bytes.ofU64`, `Bytes.u64`, `Bytes.ofI64`, `Bytes.i64` — 64-bit integers;
* `Bytes.ofText` — the UTF-8 bytes of a text.

Main results:

* `Bytes.number_littleEndian`, `Bytes.littleEndian_number` — the two are inverse to each other on
  numbers below `256 ^ width` and strings of length `width`;
* `Bytes.u64_ofU64`, `Bytes.i64_ofI64` — what is written is read back;
* `Bytes.ofU64_u64`, `Bytes.ofI64_i64` — what is read is written again.
-/

import AssetMarket.Number

set_option relaxedAutoImplicit false
set_option autoImplicit false

namespace AssetMarket

/-- A byte string. -/
abbrev Bytes := List UInt8

namespace Bytes

/-! ### Little-endian numbers -/

/-- The number a byte string denotes, lowest byte first. -/
def number : Bytes → Nat
  | [] => 0
  | b :: bs => b.toNat + 256 * number bs

/-- The lowest `width` bytes of a number, lowest first. -/
def littleEndian : Nat → Nat → Bytes
  | 0, _ => []
  | width + 1, n => UInt8.ofNat n :: littleEndian width (n / 256)

@[simp] theorem length_littleEndian (width n : Nat) : (littleEndian width n).length = width := by
  induction width generalizing n with
  | zero => rfl
  | succ width ih => simp [littleEndian, ih]

theorem number_littleEndian (width n : Nat) (h : n < 256 ^ width) :
    number (littleEndian width n) = n := by
  induction width generalizing n with
  | zero => simp [littleEndian, number]; simp at h; omega
  | succ width ih =>
      have hd : n / 256 < 256 ^ width := by
        rw [Nat.div_lt_iff_lt_mul (by decide)]
        rw [Nat.pow_succ] at h
        exact h
      simp only [littleEndian, number, ih _ hd, UInt8.toNat_ofNat']
      omega

theorem littleEndian_number (bs : Bytes) : littleEndian bs.length (number bs) = bs := by
  induction bs with
  | nil => rfl
  | cons b bs ih =>
      have hb := b.toNat_lt
      have hdiv : (b.toNat + 256 * number bs) / 256 = number bs := by omega
      have hlow : UInt8.ofNat (b.toNat + 256 * number bs) = b := by
        apply UInt8.toNat.inj
        rw [UInt8.toNat_ofNat']
        omega
      simp only [List.length_cons, littleEndian, number, hdiv, hlow, ih]

theorem number_lt (bs : Bytes) : number bs < 256 ^ bs.length := by
  induction bs with
  | nil => simp [number]
  | cons b bs ih =>
      have hb := b.toNat_lt
      simp only [number, List.length_cons, Nat.pow_succ]
      omega

theorem number_append (as bs : Bytes) :
    number (as ++ bs) = number as + 256 ^ as.length * number bs := by
  induction as with
  | nil => simp [number]
  | cons a as ih =>
      simp only [List.cons_append, number, ih, List.length_cons, Nat.pow_succ, Nat.mul_add]
      rw [Nat.mul_comm (256 ^ as.length) 256, Nat.mul_assoc]
      omega

/-! ### Ranges -/

/-- The `len` bytes from position `offset` on, fewer where the string ends before. -/
def slice (bs : Bytes) (offset len : Nat) : Bytes := (bs.drop offset).take len

theorem length_slice (bs : Bytes) (offset len : Nat) :
    (slice bs offset len).length = min len (bs.length - offset) := by
  simp [slice]

/-- Two ranges that touch make one range. -/
theorem slice_append_slice (bs : Bytes) (offset len more : Nat) :
    slice bs offset len ++ slice bs (offset + len) more = slice bs offset (len + more) := by
  simp [slice, List.take_add, List.drop_drop]

/-- A range that is one part of a byte string. -/
theorem slice_append_append (front part back : Bytes) :
    slice (front ++ (part ++ back)) front.length part.length = part := by
  rw [slice, List.drop_left, List.take_left]

/-- Ranges of one width that follow each other make one range. -/
theorem flatMap_range_slice (bs : Bytes) (offset width count : Nat) :
    (List.range count).flatMap (fun i => slice bs (offset + width * i) width)
      = slice bs offset (width * count) := by
  induction count with
  | zero => simp [slice]
  | succ count ih =>
      rw [List.range_succ, List.flatMap_append, ih, List.flatMap_singleton, slice_append_slice,
        Nat.mul_succ]

/-! ### Fixed-width integers -/

/-- The eight bytes of an unsigned 64-bit integer. -/
def ofU64 (x : UInt64) : Bytes := littleEndian 8 x.toNat

/-- The unsigned 64-bit integer that the first eight bytes denote. -/
def u64 (bs : Bytes) : UInt64 := UInt64.ofNat (number (bs.take 8))

/-- The eight bytes of a signed 64-bit integer, in two's complement. -/
def ofI64 (x : Int64) : Bytes := ofU64 x.toUInt64

/-- The signed 64-bit integer that the first eight bytes denote in two's complement. -/
def i64 (bs : Bytes) : Int64 := (u64 bs).toInt64

/-- The two bytes of an unsigned 16-bit integer. -/
def ofU16 (x : UInt16) : Bytes := littleEndian 2 x.toNat

/-- The four bytes of an unsigned 32-bit integer. -/
def ofU32 (x : UInt32) : Bytes := littleEndian 4 x.toNat

@[simp] theorem length_ofU64 (x : UInt64) : (ofU64 x).length = 8 := length_littleEndian 8 _

@[simp] theorem length_ofI64 (x : Int64) : (ofI64 x).length = 8 := length_littleEndian 8 _

@[simp] theorem length_ofU16 (x : UInt16) : (ofU16 x).length = 2 := length_littleEndian 2 _

@[simp] theorem length_ofU32 (x : UInt32) : (ofU32 x).length = 4 := length_littleEndian 4 _

@[simp] theorem u64_ofU64 (x : UInt64) (rest : Bytes) : u64 (ofU64 x ++ rest) = x := by
  have hx := x.toNat_lt
  have htake : (ofU64 x ++ rest).take 8 = ofU64 x := by
    rw [List.take_append_of_le_length (by simp)]
    simp [List.take_of_length_le]
  rw [u64, htake, ofU64, number_littleEndian 8 x.toNat (by omega)]
  simp

@[simp] theorem i64_ofI64 (x : Int64) (rest : Bytes) : i64 (ofI64 x ++ rest) = x := by
  simp [i64, ofI64]

/-- Eight bytes are the bytes of the integer they denote. -/
theorem ofU64_u64 {bs : Bytes} (h : 8 ≤ bs.length) : ofU64 (u64 bs) = bs.take 8 := by
  have hlen : (bs.take 8).length = 8 := by simp [h]
  have hlt : number (bs.take 8) < 2 ^ 64 := by
    have hnumber := number_lt (bs.take 8)
    rw [hlen] at hnumber
    exact hnumber
  have hback := littleEndian_number (bs.take 8)
  rw [hlen] at hback
  rw [ofU64, u64, UInt64.toNat_ofNat_of_lt' hlt, hback]

/-- Eight bytes are the bytes of the signed integer they denote. -/
theorem ofI64_i64 {bs : Bytes} (h : 8 ≤ bs.length) : ofI64 (i64 bs) = bs.take 8 := by
  rw [ofI64, i64, UInt64.toUInt64_toInt64, ofU64_u64 h]

/-! ### Text as bytes -/

/-- The UTF-8 bytes of a text. -/
def ofText (s : String) : Bytes := s.toUTF8.data.toList

end Bytes

end AssetMarket
