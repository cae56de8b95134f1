/-
**Addresses.**

Every account of the ledger, program or record, is named by thirty-two bytes.  Addresses are ordered
by their bytes, which is the order in which a ledger lists accounts.

Main definitions:

* `Address` — thirty-two bytes;
* `Address.ofBytes?`, `Address.ofNumber`, `Bytes.address` — addresses from bytes and numbers;
* `Address.text` — the address in base 58;
* `Address.marketplace` and its companions — the programs that take part.

Main results:

* `Address.ofBytes?_bytes` — the bytes of an address give the address back;
* the instances that make addresses usable as keys of an ordered map.
-/

import Std.Data.ExtTreeMap
import AssetMarket.Bytes
import AssetMarket.Text.Base58

set_option relaxedAutoImplicit false
set_option autoImplicit false

namespace AssetMarket

/-- The name of an account: thirty-two bytes. -/
@[ext]
structure Address where
  bytes : Bytes
  length_bytes : bytes.length = 32
  deriving DecidableEq

namespace Address

attribute [simp] length_bytes

/-! ### Making addresses -/

/-- The address that a byte string is, if it has the right length. -/
def ofBytes? (bs : Bytes) : Option Address :=
  if h : bs.length = 32 then some ⟨bs, h⟩ else none

/-- The address whose bytes are the big-endian digits of a number. -/
def ofNumber (n : Nat) : Address := ⟨(Bytes.littleEndian 32 n).reverse, by simp⟩

/-- The address of zero bytes only. -/
def zero : Address := ⟨List.replicate 32 0, rfl⟩

instance : Inhabited Address := ⟨zero⟩

@[simp] theorem ofBytes?_bytes (a : Address) : ofBytes? a.bytes = some a := by
  simp [ofBytes?]

theorem ofBytes?_eq_some_iff {bs : Bytes} {a : Address} : ofBytes? bs = some a ↔ bs = a.bytes := by
  constructor
  · intro h
    unfold ofBytes? at h
    split at h
    · simp only [Option.some.injEq] at h
      rw [← h]
    · simp at h
  · rintro rfl
    exact ofBytes?_bytes a

theorem ofBytes?_eq_none_iff {bs : Bytes} : ofBytes? bs = none ↔ bs.length ≠ 32 := by
  unfold ofBytes?
  split <;> simp_all

/-! ### Order -/

instance : Ord Address := ⟨compareOn bytes⟩

instance : Std.TransOrd Address := inferInstanceAs (Std.TransCmp (compareOn bytes))

instance : Std.LawfulEqOrd Address where
  eq_of_compare h := Address.ext (Std.LawfulEqOrd.eq_of_compare (show compare _ _ = _ from h))

/-! ### Text -/

/-- The address in base 58. -/
def text (a : Address) : String := Base58.encode a.bytes

instance : ToString Address := ⟨text⟩

/-! ### Known programs -/

/-- The marketplace program, `C29hER4SXQr3atHsuCrRmLAkXBpxvfLMCNeXg2TRTd9o`. -/
def marketplace : Address :=
  ofNumber 0xa3bbf788e0e58baac8b51067069238de3e7e00f3dbe5582195e37c129a0dda9e

/-- The program that owns token accounts, `TokenkegQfeZyiNwAJbNbGKPFXCWuBvf9Ss623VQ5DA`. -/
def tokenProgram : Address :=
  ofNumber 0x06ddf6e1d765a193d9cbe146ceeb79ac1cb485ed5f5b37913a8cf5857eff00a9

/-- The program that opens associated token accounts,
`ATokenGPvbdGVxr1b2hvZbsiqW5xWH25efTNsLJA8knL`. -/
def associatedTokenProgram : Address :=
  ofNumber 0x8c97258f4e2489f1bb3d1029148e0d830b5a1399daff1084048e7bd8dbe9f859

/-- The program that owns metadata records, `metaqbxxUerdq28cj1RbAWkYQm3ybzjb6a8bt518x1s`. -/
def metadataProgram : Address :=
  ofNumber 0x0b7065b1e3d17c45389d527f6b04c3cd58b86c731aa0fdb549b6d1bc03f82946

/-- The program that moves plain balances: zero bytes, in base 58 thirty-two ones. -/
def systemProgram : Address := zero

/-- The account that holds the rent rate, `SysvarRent111111111111111111111111111111111`. -/
def rentAccount : Address :=
  ofNumber 0x06a7d517192c5c51218cc94c3d4af17f58daee089ba1fd44e3dbd98a00000000

end Address

/-! ### Addresses inside byte strings -/

namespace Bytes

/-- The address that the first thirty-two bytes are; missing bytes count as zero. -/
def address (bs : Bytes) : Address :=
  ⟨(bs ++ List.replicate 32 0).take 32, by simp⟩

@[simp] theorem address_bytes_append (a : Address) (rest : Bytes) :
    address (a.bytes ++ rest) = a := by
  apply Address.ext
  simp [address]

theorem bytes_address (bs : Bytes) (h : 32 ≤ bs.length) : (address bs).bytes = bs.take 32 := by
  simp [address, List.take_append_of_le_length h]

end Bytes

end AssetMarket
