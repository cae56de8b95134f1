/-
**Addition that stops at the ends of the range.**

Sums of balances and ends of periods never wrap: a sum beyond the largest value is the largest
value, and for signed numbers the same holds below the smallest.

Main definitions:

* `saturatingAdd` — for unsigned 64-bit integers;
* `saturatingAddSigned` — for signed 64-bit integers.

Main results:

* `toNat_saturatingAdd` — the sum is the exact one or the largest value, whichever is less;
* `toNat_foldl_saturatingAdd` — so is the sum of a list;
* `saturatingAddSigned_eq_clamp` — the exact sum, brought into the range.
-/

import AssetMarket.Number

set_option relaxedAutoImplicit false
set_option autoImplicit false

namespace AssetMarket

/-- The sum of two unsigned integers, or the largest one where the sum is beyond it. -/
def saturatingAdd (x y : UInt64) : UInt64 :=
  if x.toNat + y.toNat < 2 ^ 64 then x + y else UInt64.ofNat (2 ^ 64 - 1)

theorem toNat_saturatingAdd (x y : UInt64) :
    (saturatingAdd x y).toNat = min (2 ^ 64 - 1) (x.toNat + y.toNat) := by
  unfold saturatingAdd
  split
  · rw [UInt64.toNat_add]
    omega
  · have hmax : (UInt64.ofNat (2 ^ 64 - 1)).toNat = 2 ^ 64 - 1 := by decide
    rw [hmax]
    omega

/-- A running sum is the exact one or the largest value, whichever is less. -/
theorem toNat_foldl_saturatingAdd (amounts : List UInt64) (start : UInt64) :
    (amounts.foldl saturatingAdd start).toNat =
      min (2 ^ 64 - 1) (start.toNat + (amounts.map UInt64.toNat).sum) := by
  induction amounts generalizing start with
  | nil =>
      have hs := start.toNat_lt
      simp
      omega
  | cons x xs ih =>
      simp only [List.foldl_cons, ih, toNat_saturatingAdd, List.map_cons, List.sum_cons]
      omega

/-- The sum of two signed integers, or the end of the range that it lies beyond. -/
def saturatingAddSigned (x y : Int64) : Int64 :=
  let sum := x.toInt + y.toInt
  if sum < -2 ^ 63 then Int64.ofInt (-2 ^ 63)
  else if 2 ^ 63 ≤ sum then Int64.ofInt (2 ^ 63 - 1)
  else Int64.ofInt sum

theorem saturatingAddSigned_eq_clamp (x y : Int64) :
    saturatingAddSigned x y
      = Int64.ofInt (max (-2 ^ 63) (min (2 ^ 63 - 1) (x.toInt + y.toInt))) := by
  rw [saturatingAddSigned]
  split
  · congr 1
    omega
  · split
    · congr 1
      omega
    · congr 1
      omega

end AssetMarket
