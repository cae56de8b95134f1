/-
**The opcodes as numbers.**

An opcode is the start of a hash, so nothing about it can be told from the name of its method.  This
module computes the twenty-four hashes once; whatever depends on the opcodes depends on their
numbers.

Main definitions:

* `Method.code` — the opcode of a method, read as a number with the highest byte first.

Main results:

* `Method.opcode_eq` — the opcode is the number, written in eight bytes;
* `Method.number_opcode_append` — the number that instruction data denote;
* `Method.ofData?_eq_some_iff` — instruction data call the method with whose opcode they begin.
-/

import Mathlib.Data.List.Nodup
import AssetMarket.Instruction.Method

set_option relaxedAutoImplicit false
set_option autoImplicit false

namespace AssetMarket

namespace Method

/-- The opcode of a method as a number, highest byte first. -/
def code : Method → Nat
  | .openMarket => 0xafaf6d1f0d989bed
  | .updateFee => 0xe8fdc3f794d449de
  | .addTreasury => 0x661ffc13a34510a2
  | .removeTreasury => 0x2a6bbcece7f124a8
  | .initUser => 0x1e9ff89c4919d6b3
  | .initListing => 0x0edc4cb62b87cd6f
  | .list => 0x57eb17d364eb4e27
  | .delist => 0x5bf9a5b9160777b0
  | .setPrice => 0x1013b608955348b5
  | .transfer => 0xa334c8e78c0345ba
  | .transferFromVault => 0x55a62f6b1a14c017
  | .purchase => 0x155d719ac1a0f2a8
  | .deposit => 0xf68639c7746544e0
  | .withdraw => 0xebced8fd2fa3a9e7
  | .initOffer => 0x827e07b85c5f4201
  | .makeOffer => 0xd66261233b0c2cb2
  | .cancelOffer => 0x5ccbdf285c593577
  | .acceptOffer => 0xe352ea8301123002
  | .initAuction => 0x954ef5feb7ae9d79
  | .createAuction => 0xea06c9f62fdbb06b
  | .placeBid => 0xee4d945bc8975c92
  | .claimAuction => 0x1cb7ba68bc014bbf
  | .updateReserve => 0x2efaf9f0a6361656
  | .cancelAuction => 0x9c2bc56eda698fb6

theorem opcode_eq (m : Method) : m.opcode = Sha256.bigEndian 8 m.code := by
  cases m <;> decide +kernel

theorem code_lt (m : Method) : m.code < 256 ^ 8 := by
  cases m <;> decide

/-- No opcode begins with a zero byte. -/
theorem exists_opcode_cons (m : Method) : ∃ b bs, b ≠ 0 ∧ m.opcode = b :: bs := by
  have hhead : (Sha256.bigEndian 8 m.code).head? ≠ some 0 := by
    cases m <;> decide
  rw [← opcode_eq] at hhead
  cases hop : m.opcode with
  | nil => simpa [hop] using m.length_opcode
  | cons b bs => exact ⟨b, bs, by simpa [hop] using hhead, rfl⟩

theorem opcode_injective {m m' : Method} (h : m.opcode = m'.opcode) : m = m' := by
  have hnodup : (all.map code).Nodup := by decide
  have hcode : m.code = m'.code := by
    rw [opcode_eq, opcode_eq, Sha256.bigEndian, Sha256.bigEndian, List.reverse_inj] at h
    rw [← Bytes.number_littleEndian 8 m.code m.code_lt, h,
      Bytes.number_littleEndian 8 m'.code m'.code_lt]
  exact List.inj_on_of_nodup_map hnodup m.mem_all m'.mem_all hcode

/-- Data that begin with two opcodes begin with one: all are of the same length. -/
theorem eq_of_begins {m m' : Method} {data : Bytes} (h : m.opcode <+: data)
    (h' : m'.opcode <+: data) : m = m' := by
  have hbegins : m.opcode <+: m'.opcode := List.prefix_of_prefix_length_le h h' (by simp)
  exact opcode_injective (hbegins.eq_of_length (by simp))

theorem ofData?_eq_find? (data : Bytes) :
    ofData? data = all.find? fun m => m.opcode.isPrefixOf data := by
  rw [ofData?, opcodes, List.find?_map, Option.map_map]
  exact Option.map_id'

/-- Instruction data call the method with whose opcode they begin. -/
theorem ofData?_eq_some_iff {data : Bytes} {m : Method} :
    ofData? data = some m ↔ m.opcode <+: data := by
  have begins {m' : Method} (h : ofData? data = some m') : m'.opcode <+: data := by
    rw [ofData?_eq_find?] at h
    have hbegins : m'.opcode.isPrefixOf data = true :=
      List.find?_some (p := fun m' : Method => m'.opcode.isPrefixOf data) h
    exact List.isPrefixOf_iff_prefix.1 hbegins
  refine ⟨begins, fun h => ?_⟩
  cases hfound : ofData? data with
  | none =>
      rw [ofData?_eq_find?] at hfound
      exact absurd (List.isPrefixOf_iff_prefix.2 h) (List.find?_eq_none.1 hfound m m.mem_all)
  | some m' => rw [eq_of_begins h (begins hfound)]

/-- Instruction data as a number, highest byte first: the opcode stands above the arguments. -/
theorem number_opcode_append (m : Method) (args : Bytes) :
    Bytes.number (m.opcode ++ args).reverse
      = Bytes.number args.reverse + m.code * 256 ^ args.length := by
  rw [List.reverse_append, Bytes.number_append, opcode_eq, Sha256.bigEndian, List.reverse_reverse,
    Bytes.number_littleEndian 8 m.code m.code_lt, List.length_reverse, Nat.mul_comm]

end Method

end AssetMarket
