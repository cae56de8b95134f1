/-
**The table of fingerprints is exact.**

Data of one layout share the opcode and differ in their arguments.  As numbers they lie between the
data whose arguments are zero bytes and those whose arguments are as large as can be, and both ends
have the same quotient by one power of 58, namely the head of the entry.  So every byte string in
between has this head, whatever its arguments are; and since no two entries have the same head, the
order of the table does not matter.

Main definitions:

* `Fingerprint.argsLength` — the bytes that follow the opcode in a layout;
* `Fingerprint.Pinned` — the two ends of a layout have the head of the entry.

Main results:

* `Fingerprint.pinned_of_mem` — the ends of all layouts of the table do;
* `Fingerprint.headOf?_opcode_append`, `Fingerprint.classify_opcode_append` — data of a layout have
  its head and are recognised by it;
* `PastTransaction.instructionEvent_eq_ok` — data of a layout make an event;
* `PastTransaction.eventAt_old_list`, `PastTransaction.eventAt_old_createAuction` — also where the
  layout is one that is no longer written;
* `Fingerprint.table_exact` — **the table is exact**, and data of the layouts that are no longer
  written are still read right.
-/

import Mathlib.Data.List.Nodup
import AssetMarket.Instruction.Signature
import AssetMarket.Proofs.Event.Decode
import AssetMarket.Proofs.Instruction.Opcode
import AssetMarket.Proofs.Text.Base58

set_option relaxedAutoImplicit false
set_option autoImplicit false

namespace AssetMarket

namespace Fingerprint

/-! ### Layouts as ranges of numbers -/

/-- The bytes that follow the opcode in a layout.  A layout that is no longer written lacks one
bump. -/
def argsLength (f : Fingerprint) : Nat :=
  if f.legacy then f.method.argsLength - 1 else f.method.argsLength

/-- The least number that data of a layout denote: all arguments are zero bytes. -/
def least (f : Fingerprint) : Nat := f.method.code * 256 ^ f.argsLength

/-- The characters behind the head in the text of the least data of a layout. -/
def tailLength (f : Fingerprint) : Nat := (Base58.numeral f.least).length - headLength

/-- The number that the head of the least data of a layout denotes. -/
def headNumber (f : Fingerprint) : Nat := f.least / 58 ^ f.tailLength

/-- The least and the greatest data of a layout have the same quotient, and this is the head of the
entry. -/
def Pinned (f : Fingerprint) : Prop :=
  (f.least + (256 ^ f.argsLength - 1)) / 58 ^ f.tailLength = f.headNumber ∧
    (Base58.numeral f.headNumber).length = headLength ∧
    String.ofList (Base58.numeral f.headNumber) = f.head

instance (f : Fingerprint) : Decidable f.Pinned := inferInstanceAs (Decidable (_ ∧ _ ∧ _))

theorem pinned_of_mem : ∀ f ∈ table, f.Pinned := by decide +kernel

/-! ### The head of all data of a layout -/

/-- All data of a pinned layout have the quotient of its ends. -/
theorem number_div_of_pinned {f : Fingerprint} (hf : f.Pinned) {args : Bytes}
    (hlen : args.length = f.argsLength) :
    Bytes.number (f.method.opcode ++ args).reverse / 58 ^ f.tailLength = f.headNumber := by
  have hargs : Bytes.number args.reverse < 256 ^ f.argsLength := by
    simpa [hlen] using Bytes.number_lt args.reverse
  rw [Method.number_opcode_append, hlen]
  -- Dividing is monotone, so the quotient lies between those of the two ends, which are equal.
  apply Nat.le_antisymm
  · rw [← hf.1]
    exact Nat.div_le_div_right (by rw [least]; omega)
  · exact Nat.div_le_div_right (by rw [least]; omega)

theorem headOf?_opcode_append {f : Fingerprint} (hf : f ∈ table) {args : Bytes}
    (hlen : args.length = f.argsLength) : headOf? (f.method.opcode ++ args) = some f.head := by
  have hpinned := pinned_of_mem f hf
  have hquot := number_div_of_pinned hpinned hlen
  -- No opcode begins with a zero byte, so the text of the data is the numeral of their number.
  obtain ⟨b, bs, hb, hop⟩ := f.method.exists_opcode_cons
  rw [hop, List.cons_append] at hquot ⊢
  obtain ⟨hle, htake⟩ := Base58.take_encodeChars hb (bs ++ args) hquot
  rw [hpinned.2.1] at hle htake
  rw [headOf?, if_neg (Nat.not_lt.2 hle), htake, hpinned.2.2]

/-! ### Recognition -/

theorem find?_head : ∀ f ∈ table, table.find? (·.head == f.head) = some f := by decide +kernel

theorem classify_opcode_append {f : Fingerprint} (hf : f ∈ table) {args : Bytes}
    (hlen : args.length = f.argsLength) : classify (f.method.opcode ++ args) = some f := by
  rw [classify, headOf?_opcode_append hf hlen]
  exact find?_head f hf

theorem nodup_heads : (table.map (·.head)).Nodup := by decide +kernel

/-- No other entry has the head of an entry. -/
theorem eq_of_head_eq {f g : Fingerprint} (hf : f ∈ table) (hg : g ∈ table)
    (h : g.head = f.head) : g = f :=
  List.inj_on_of_nodup_map nodup_heads hg hf h

end Fingerprint

/-! ### From a layout to its event -/

namespace PastTransaction

/-- **Data of a layout make an event.**  The layout may be one that is no longer written; what has
to fit are the bytes in front of the arguments and the accounts by which the call is told. -/
theorem instructionEvent_eq_ok {f : Fingerprint} (hf : f ∈ Fingerprint.table) {call : Call}
    (hmethod : f.method = call.method) {i : PastInstruction} {bumps rest : Bytes} {payer : Address}
    (hdata : i.data = call.method.opcode ++ (bumps ++ (call.fields ++ rest)))
    (hbumps : f.argsOffset = 8 + bumps.length)
    (hlen : (bumps ++ (call.fields ++ rest)).length = f.argsLength)
    (haccounts : ∀ e ∈ (0, call.actor) :: call.landmarks payer, i.accounts[e.1]? = some e.2)
    (tx : PastTransaction) (index : Nat) :
    tx.instructionEvent index i = .ok (some {
      signature := tx.signature
      blockTime := tx.blockTime
      signer := call.actor
      fingerprint := f.head
      action := call.action tx.blockTime (tx.transferredFrom index payer) }) := by
  have hhead : Fingerprint.headOf? i.data = some f.head := by
    rw [hdata, ← hmethod]
    exact Fingerprint.headOf?_opcode_append hf hlen
  have hclass : Fingerprint.classify i.data = some f := by
    rw [hdata, ← hmethod]
    exact Fingerprint.classify_opcode_append hf hlen
  have hactor : InstructionView.account ⟨i, f.method.name⟩ 0 = .ok call.actor :=
    InstructionView.account_eq_ok (haccounts _ (.head _))
  have hfront : f.argsOffset = (call.method.opcode ++ bumps).length := by
    rw [hbumps, List.length_append, Method.length_opcode]
  have haction := Action.decode_eq_ok (v := ⟨i, f.method.name⟩) hmethod hfront haccounts
    (by rw [hdata, List.append_assoc]) tx.blockTime (tx.transferredFrom index)
  simp only [instructionEvent, hhead, hclass, eventOf, haction, hactor]
  rfl

/-! ### Layouts that are no longer written -/

section

variable {tx : PastTransaction} {index : Nat} {i : PastInstruction} (h : 6 ≤ i.accounts.length)
  (hi : tx.instructions[index]? = some i)

include hi

theorem eventAt_old_list (bumps : Bytes) (hbumps : bumps.length = 2) (price : UInt64)
    (hdata : i.data = Method.list.opcode ++ (bumps ++ Bytes.ofU64 price)) :
    tx.eventAt index = .ok (some {
      signature := tx.signature
      blockTime := tx.blockTime
      signer := i.accounts[0]
      fingerprint := "4eW8amCV"
      action := .list i.accounts[5] price }) := by
  let call : Call := .list i.accounts[0] i.accounts[5] Address.zero price
  have hdata' : i.data = call.method.opcode ++ (bumps ++ (call.fields ++ [])) := by
    rw [List.append_nil]
    exact hdata
  have haccounts : ∀ e ∈ (0, call.actor) :: call.landmarks Address.zero,
      i.accounts[e.1]? = some e.2 := by
    simp [call, Call.landmarks, Call.actor]
  have hmem : Fingerprint.old "4eW8amCV" .list 10 ∈ Fingerprint.table := by decide
  have hlen : (bumps ++ (call.fields ++ [])).length = 10 := by
    simp [call, Call.fields, Call.values, hbumps]
  rw [eventAt, hi]
  exact instructionEvent_eq_ok hmem rfl hdata' (by rw [hbumps]; rfl) hlen haccounts tx index

theorem eventAt_old_createAuction (bumps : Bytes) (hbumps : bumps.length = 2)
    (startPrice minIncrease : UInt64) (duration : Int64) (reserved : UInt8)
    (hdata : i.data = Method.createAuction.opcode ++ (bumps ++ (Bytes.ofU64 startPrice
      ++ Bytes.ofU64 minIncrease ++ Bytes.ofI64 duration ++ [reserved]))) :
    tx.eventAt index = .ok (some {
      signature := tx.signature
      blockTime := tx.blockTime
      signer := i.accounts[0]
      fingerprint := "QMNFmXsk"
      action := .createAuction i.accounts[5] startPrice minIncrease duration
        (Action.endDate tx.blockTime duration) }) := by
  let call : Call := .createAuction i.accounts[0] i.accounts[5] Address.zero
    ⟨startPrice, minIncrease, duration, false⟩
  have hdata' : i.data = call.method.opcode ++ (bumps ++ (call.fields ++ [reserved])) := hdata
  have haccounts : ∀ e ∈ (0, call.actor) :: call.landmarks Address.zero,
      i.accounts[e.1]? = some e.2 := by
    simp [call, Call.landmarks, Call.actor]
  have hmem : Fingerprint.old "QMNFmXsk" .createAuction 10 ∈ Fingerprint.table := by decide
  have hlen : (bumps ++ (call.fields ++ [reserved])).length = 27 := by
    simp [call, Call.fields, hbumps]
  rw [eventAt, hi]
  exact instructionEvent_eq_ok hmem rfl hdata' (by rw [hbumps]; rfl) hlen haccounts tx index

end

end PastTransaction

namespace Fingerprint

/-- **The table is exact.**  All data of a layout have the head of its entry, are recognised by this
entry and by no other.  The layouts that are no longer written lack one bump; what their data tell
stands right behind the two that are there. -/
theorem table_exact :
    (∀ f ∈ table, ∀ args : Bytes, args.length = f.argsLength →
      headOf? (f.method.opcode ++ args) = some f.head ∧
        classify (f.method.opcode ++ args) = some f ∧
        ∀ g ∈ table, g.head = f.head → g = f) ∧
    (table.map (·.head)).Nodup ∧
    (∀ f ∈ table, f.legacy = false → f.argsLength = f.method.argsLength) ∧
    ((table.filter (·.legacy)).map fun f => (f.method, f.argsLength))
      = [(.list, 10), (.createAuction, 27)] ∧
    (∀ (tx : PastTransaction) (index : Nat) (i : PastInstruction) (h : 6 ≤ i.accounts.length)
      (bump₁ bump₂ : UInt8) (price : UInt64),
      tx.instructions[index]? = some i →
      i.data = Method.list.opcode ++ ([bump₁, bump₂] ++ Bytes.ofU64 price) →
      tx.eventAt index = .ok (some {
        signature := tx.signature
        blockTime := tx.blockTime
        signer := i.accounts[0]
        fingerprint := "4eW8amCV"
        action := .list i.accounts[5] price })) ∧
    (∀ (tx : PastTransaction) (index : Nat) (i : PastInstruction) (h : 6 ≤ i.accounts.length)
      (bump₁ bump₂ reserved : UInt8) (startPrice minIncrease : UInt64) (duration : Int64),
      tx.instructions[index]? = some i →
      i.data = Method.createAuction.opcode ++ ([bump₁, bump₂] ++ (Bytes.ofU64 startPrice
        ++ Bytes.ofU64 minIncrease ++ Bytes.ofI64 duration ++ [reserved])) →
      tx.eventAt index = .ok (some {
        signature := tx.signature
        blockTime := tx.blockTime
        signer := i.accounts[0]
        fingerprint := "QMNFmXsk"
        action := .createAuction i.accounts[5] startPrice minIncrease duration
          (Action.endDate tx.blockTime duration) })) := by
  refine ⟨?_, nodup_heads, ?_, by decide, ?_, ?_⟩
  · intro f hf args hlen
    exact ⟨headOf?_opcode_append hf hlen, classify_opcode_append hf hlen,
      fun g hg h => eq_of_head_eq hf hg h⟩
  · intro f hf hlegacy
    rw [argsLength, hlegacy]
    rfl
  · intro tx index i h bump₁ bump₂ price hi hdata
    exact PastTransaction.eventAt_old_list h hi [bump₁, bump₂] rfl price hdata
  · intro tx index i h bump₁ bump₂ reserved startPrice minIncrease duration hi hdata
    exact PastTransaction.eventAt_old_createAuction h hi [bump₁, bump₂] rfl startPrice minIncrease
      duration reserved hdata

end Fingerprint

end AssetMarket
