/-
**Fingerprints of instruction data.**

Ledger nodes show instruction data in base 58, and the head of that text is enough to recognise an
instruction: the opcode and the number of bytes together decide it.  Two methods once had one
argument less, so they have two fingerprints each.

Main definitions:

* `Fingerprint` — a head with the method it belongs to and the place of its arguments;
* `Fingerprint.table` — the known heads;
* `Fingerprint.headOf?` — the head of some data;
* `Fingerprint.classify` — the entry that some data have.

Main results:

* `Fingerprint.head_of_classify` — the entry found has the head of the data.
-/

import AssetMarket.Instruction.Method
import AssetMarket.Text.Base58

set_option relaxedAutoImplicit false
set_option autoImplicit false

namespace AssetMarket

/-- A head with what it tells. -/
structure Fingerprint where
  head : String
  method : Method
  /-- The offset of the first argument that is not a bump. -/
  argsOffset : Nat
  /-- Whether the layout is one that is no longer written. -/
  legacy : Bool
  deriving DecidableEq, Repr

namespace Fingerprint

/-- A layout that is written today. -/
def current (head : String) (method : Method) (argsOffset : Nat) : Fingerprint :=
  ⟨head, method, argsOffset, false⟩

/-- A layout from before the bump of the auction became an argument. -/
def old (head : String) (method : Method) (argsOffset : Nat) : Fingerprint :=
  ⟨head, method, argsOffset, true⟩

/-- The known heads.  Of two entries with one head the first would count. -/
def table : List Fingerprint :=
  [.current "AsUkG8p1" .openMarket 10,
   .current "3BzKBJUk" .updateFee 9,
   .current "HY2XrSxn" .addTreasury 9,
   .current "AJbPzu2U" .removeTreasury 9,
   .current "PcLYN6YP" .initUser 9,
   .current "4G2WiD2C" .initListing 8,
   .current "H6XaU25j" .list 11,
   .current "6Ahuf6jr" .delist 10,
   .current "UJJfJRLD" .transfer 8,
   .current "5p6KPRCQ" .transferFromVault 10,
   .current "QPHXB9jL" .purchase 12,
   .current "BE4DeeJT" .deposit 10,
   .current "AnGz4SzU" .withdraw 10,
   .current "VcryEr2T" .initOffer 8,
   .current "3zENZMgC" .makeOffer 12,
   .current "2BWUiNsL" .cancelOffer 9,
   .current "2SaBBC7P" .acceptOffer 14,
   .current "ZkCkv1Hg" .initAuction 8,
   .current "2n4tpBZG" .createAuction 11,
   .current "AtH7do4b" .placeBid 10,
   .current "882wV271" .claimAuction 11,
   .current "9mtdhZPt" .cancelAuction 10,
   .current "9mE5kJpm" .setPrice 9,
   .current "Sc9FjYDt" .updateReserve 9,
   .old "4eW8amCV" .list 10,
   .old "QMNFmXsk" .createAuction 10]

/-- The number of characters of a head. -/
def headLength : Nat := 8

/-- The head of some data, unless their text is too short to have one. -/
def headOf? (data : Bytes) : Option String :=
  let chars := Base58.encodeChars data
  if chars.length < headLength then none else some (String.ofList (chars.take headLength))

/-- The entry that some data have. -/
def classify (data : Bytes) : Option Fingerprint := do
  let head ← headOf? data
  table.find? (·.head == head)

theorem length_table : table.length = 26 := rfl

theorem head_of_classify {data : Bytes} {f : Fingerprint} (h : classify data = some f) :
    headOf? data = some f.head := by
  cases hd : headOf? data with
  | none => simp [classify, hd] at h
  | some head =>
      simp only [classify, hd, Option.bind_eq_bind, Option.bind_some] at h
      have hf := List.find?_some h
      simp only [beq_iff_eq] at hf
      rw [hf]

end Fingerprint

end AssetMarket
