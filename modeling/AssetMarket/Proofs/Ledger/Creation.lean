/-
**Instructions that create records.**

A ledger in memory carries out instructions of one kind only, those that create a record of the
market.  `Instruction.Creates` says what such an instruction looks like and where its record goes,
without a word about how the ledger takes the instruction apart.

Main definitions:

* `Method.creators` — the methods that create a record;
* `Instruction.calls`, `Instruction.initializes` — whether an instruction calls a given method, and
  whether it calls one of the creators;
* `Instruction.Creates` — an instruction that creates a record at an address.

Main results:

* `MemoryLedger.creation?_eq_some_iff` — what the ledger makes of an instruction;
* `MemoryLedger.exists_creation?_iff` — **a record is created exactly for such an instruction**.
-/

import Mathlib.Data.Option.Basic
import AssetMarket.Ledger.Memory
import AssetMarket.Proofs.Instruction.Opcode

set_option relaxedAutoImplicit false
set_option autoImplicit false

namespace AssetMarket

/-! ### What such an instruction looks like -/

/-- The methods that create a record. -/
def Method.creators : List Method := [.initUser, .initListing, .initOffer, .initAuction]

namespace Instruction

/-- Whether an instruction calls a method of the market. -/
def calls (i : Instruction) (market : Address) (m : Method) : Bool :=
  i.program == market && m.opcode.isPrefixOf i.data

/-- Whether an instruction calls a method that creates a record. -/
def initializes (i : Instruction) (market : Address) : Bool :=
  Method.creators.any (i.calls market)

/-- An instruction that creates a record at an address.  The address is that of its second account,
and a record that is not a user's needs a mint behind the opcode. -/
structure Creates (i : Instruction) (market target : Address) : Prop where
  initializes : i.initializes market = true
  account : i.accounts[1]?.map (·.address) = some target
  mint : i.calls market .initUser = true ∨ Method.opcodeLength + 32 ≤ i.data.length

theorem calls_eq_true_iff {i : Instruction} {market : Address} {m : Method} :
    i.calls market m = true ↔ i.program = market ∧ m.opcode <+: i.data := by
  rw [calls, Bool.and_eq_true, beq_iff_eq, List.isPrefixOf_iff_prefix]

theorem initializes_eq_true_iff {i : Instruction} {market : Address} :
    i.initializes market = true ↔ ∃ m ∈ Method.creators, i.calls market m = true := by
  rw [initializes, List.any_eq_true]

/-- An instruction calls one method at most. -/
theorem eq_of_calls {i : Instruction} {market : Address} {m m' : Method}
    (h : i.calls market m = true) (h' : i.calls market m' = true) : m = m' :=
  Method.eq_of_begins (calls_eq_true_iff.1 h).2 (calls_eq_true_iff.1 h').2

end Instruction

/-! ### What the ledger makes of it -/

namespace MemoryLedger

/-- There is a mint behind the opcode as soon as there is room for one. -/
theorem exists_mintArgument?_iff {data : Bytes} :
    (∃ mint, mintArgument? data = some mint) ↔ Method.opcodeLength + 32 ≤ data.length := by
  rw [← Option.ne_none_iff_exists', mintArgument?, ne_eq, Address.ofBytes?_eq_none_iff,
    Bytes.length_slice, Method.opcodeLength]
  omega

theorem exists_blankRecord?_iff {payer : Address} {mint? : Option Address} {m : Method} :
    (∃ r, blankRecord? payer mint? m = some r) ↔
      m ∈ Method.creators ∧ (m = .initUser ∨ ∃ mint, mint? = some mint) := by
  cases m <;> cases mint? <;> simp [blankRecord?, Method.creators]

/-- The ledger reads the method, the one that pays, the address and the mint, in this order. -/
theorem creation?_eq_some_iff {l : MemoryLedger} {i : Instruction} {a : Address} {r : Record} :
    l.creation? i = some (a, r) ↔
      ∃ m payer target, i.calls l.market m = true ∧ i.accounts[0]? = some payer ∧
        i.accounts[1]? = some target ∧ target.address = a ∧
          blankRecord? payer.address (mintArgument? i.data) m = some r := by
  simp only [creation?, Option.bind_eq_bind, Option.bind_eq_some_iff, Method.ofData?_eq_some_iff,
    Instruction.calls_eq_true_iff]
  constructor
  · rintro ⟨_, hguard, m, hm, payer, hpayer, target, htarget, record, hrecord, h⟩
    obtain ⟨rfl, rfl⟩ := Prod.mk.inj (Option.some.inj h)
    have hprogram : i.program = l.market := by simpa [guard] using hguard
    exact ⟨m, payer, target, ⟨hprogram, hm⟩, hpayer, htarget, rfl, hrecord⟩
  · rintro ⟨m, payer, target, ⟨hprogram, hm⟩, hpayer, htarget, rfl, hrecord⟩
    have hguard : guard (i.program = l.market) = some () := by simp [guard, hprogram]
    exact ⟨(), hguard, m, hm, payer, hpayer, target, htarget, r, hrecord, rfl⟩

/-- **A record is created exactly for such an instruction**. -/
theorem exists_creation?_iff {l : MemoryLedger} {i : Instruction} {a : Address} :
    (∃ r, l.creation? i = some (a, r)) ↔ i.Creates l.market a := by
  simp only [creation?_eq_some_iff]
  constructor
  · rintro ⟨r, m, payer, target, hcalls, -, htarget, rfl, hrecord⟩
    obtain ⟨hm, hmint⟩ := exists_blankRecord?_iff.1 ⟨r, hrecord⟩
    refine ⟨Instruction.initializes_eq_true_iff.2 ⟨m, hm, hcalls⟩, by rw [htarget]; rfl, ?_⟩
    rcases hmint with rfl | hmint
    · exact .inl hcalls
    · exact .inr (exists_mintArgument?_iff.1 hmint)
  · rintro ⟨hinit, haccount, hmint⟩
    obtain ⟨m, hm, hcalls⟩ := Instruction.initializes_eq_true_iff.1 hinit
    obtain ⟨target, htarget, rfl⟩ := Option.map_eq_some_iff.1 haccount
    -- where there is a second account there is a first one
    obtain ⟨payer, hpayer⟩ : ∃ payer, i.accounts[0]? = some payer := by
      have hlt := (List.getElem?_eq_some_iff.1 htarget).1
      exact ⟨i.accounts[0], List.getElem?_eq_getElem (by omega)⟩
    have hblank : m = .initUser ∨ ∃ mint, mintArgument? i.data = some mint := by
      rcases hmint with huser | hlen
      · exact .inl (Instruction.eq_of_calls hcalls huser)
      · exact .inr (exists_mintArgument?_iff.2 hlen)
    obtain ⟨r, hr⟩ := exists_blankRecord?_iff.2 ⟨hm, hblank⟩
    exact ⟨r, m, payer, target, hcalls, hpayer, htarget, rfl, hr⟩

end MemoryLedger

end AssetMarket
