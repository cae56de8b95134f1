/-
**What is built is read back.**

An instruction that was built and then kept by the ledger is read as the call it was built from.
The two directions were written independently: one lays out accounts and arguments, the other looks
at positions and recognises the layout by its fingerprint.  They meet in three facts about each
method, namely that its entry in the table has the right offset, that the accounts by which a call
is told stand where they are looked for, and that bumps and arguments follow the opcode in this
order.

Main definitions:

* `Instruction.recorded` — an instruction as the ledger keeps it;
* `Method.fingerprint` — the entry of a method in the table;
* `Call.settler` — the account that pays for what is settled by a call.

Main results:

* `Call.landmarks_accountsAt` — the accounts of a call stand where they are looked for;
* `Call.exists_argsAt_eq` — so do its arguments;
* `Call.eventAt_of_build` — **a call that was built is read back**.
-/

import AssetMarket.Proofs.Event.Fingerprint
import AssetMarket.Proofs.Instruction.Layout

set_option relaxedAutoImplicit false
set_option autoImplicit false

namespace AssetMarket

/-- An instruction as the ledger keeps it. -/
def Instruction.recorded (i : Instruction) : PastInstruction :=
  { program := i.program, accounts := i.accounts.map (·.address), data := i.data }

/-! ### The entry of a method -/

namespace Method

/-- The entry of a method in the table. -/
def fingerprint (m : Method) : Fingerprint :=
  (Fingerprint.table.find? fun f => f.method == m).getD (.current "" m 0)

theorem fingerprint_mem (m : Method) : m.fingerprint ∈ Fingerprint.table := by
  cases m <;> decide

@[simp] theorem fingerprint_method (m : Method) : m.fingerprint.method = m := by
  cases m <;> decide

@[simp] theorem argsLength_fingerprint (m : Method) : m.fingerprint.argsLength = m.argsLength := by
  have hlegacy : m.fingerprint.legacy = false := by cases m <;> decide
  rw [Fingerprint.argsLength, hlegacy, fingerprint_method]
  rfl

end Method

/-! ### The positions of a call -/

namespace Call

/-- The account that pays for what is settled by a call.  It is the one that acts, unless the coins
are in escrow. -/
def settler (market : Address) : Call → Except MarketError Address
  | .acceptOffer .. => Place.escrow.address market
  | .claimAuction .. => Place.escrow.address market
  | call => .ok call.actor

section

variable (site : Place → Derived) (call : Call)

/-- The account that pays for what is settled by a call, given where the places are. -/
def settlerAt : Call → Address
  | .acceptOffer .. => (site .escrow).address
  | .claimAuction .. => (site .escrow).address
  | call => call.actor

theorem landmarks_accountsAt :
    ∀ e ∈ (0, call.actor) :: call.landmarks (settlerAt site call),
      ((accountsAt site call).map (·.address))[e.1]? = some e.2 := by
  cases call <;>
    simp [actor, landmarks, settlerAt, accountsAt, placeRef, AccountRef.signer, AccountRef.writable,
      AccountRef.readOnly]

/-- What tells a call stands at the offset that its entry in the table has.  Only where the record of
a mint is created do the bumps follow it. -/
theorem exists_argsAt_eq :
    ∃ bumps rest, argsAt site call = bumps ++ (call.fields ++ rest) ∧
      call.method.fingerprint.argsOffset = 8 + bumps.length := by
  obtain ⟨flag, hflag⟩ := call.exists_values_eq
  -- The offset of each entry is a number in the table; here it meets the number of bumps.
  cases call with
  | initListing payer mint => exact ⟨[], bumpsAt site (.initListing payer mint), rfl, rfl⟩
  | initOffer payer mint => exact ⟨[], bumpsAt site (.initOffer payer mint), rfl, rfl⟩
  | initAuction payer mint => exact ⟨[], bumpsAt site (.initAuction payer mint), rfl, rfl⟩
  | _ => exact ⟨bumpsAt site _, flag, congrArg (bumpsAt site _ ++ ·) hflag, rfl⟩

end

theorem settler_of_build {market : Address} {call : Call} {i : Instruction}
    (h : call.build market = .ok i) :
    call.settler market = .ok (settlerAt (Place.site market) call) := by
  have hplaces := (build_eq_ok_iff.1 h).1
  cases call with
  | acceptOffer seller buyer mint buyerAccount remaining =>
      rw [settler, Place.address, hplaces .escrow (by simp [places]), settlerAt, Except.map]
  | claimAuction bidder creator mint bidderAccount remaining =>
      rw [settler, Place.address, hplaces .escrow (by simp [places]), settlerAt, Except.map]
  | _ => rfl

theorem instructionEvent_of_build {market : Address} {call : Call} {i : Instruction}
    (h : call.build market = .ok i) (tx : PastTransaction) (index : Nat) :
    tx.instructionEvent index i.recorded = .ok (some {
      signature := tx.signature
      blockTime := tx.blockTime
      signer := call.actor
      fingerprint := call.method.fingerprint.head
      action := call.action tx.blockTime
        (tx.transferredFrom index (settlerAt (Place.site market) call)) }) := by
  have hbuilt := (build_eq_ok_iff.1 h).2
  obtain ⟨bumps, rest, hargs, hoffset⟩ := exists_argsAt_eq (Place.site market) call
  have hdata : i.recorded.data = call.method.opcode ++ (bumps ++ (call.fields ++ rest)) := by
    rw [← hbuilt, ← hargs]
    rfl
  have haccounts : i.recorded.accounts
      = (accountsAt (Place.site market) call).map (·.address) := by
    rw [← hbuilt]
    rfl
  have hlen : (bumps ++ (call.fields ++ rest)).length = call.method.fingerprint.argsLength := by
    rw [← hargs, length_argsAt, Method.argsLength_fingerprint]
  refine PastTransaction.instructionEvent_eq_ok call.method.fingerprint_mem
    call.method.fingerprint_method hdata hoffset hlen ?_ tx index
  rw [haccounts]
  exact landmarks_accountsAt (Place.site market) call

/-- **A call that was built is read back.**  What else the transaction holds does not matter; only
the coins that left the paying account while this instruction was carried out are the settled
price. -/
theorem eventAt_of_build {market : Address} {call : Call} {i : Instruction}
    (h : call.build market = .ok i) {tx : PastTransaction} {index : Nat}
    (hi : tx.instructions[index]? = some i.recorded) :
    ∃ payer, call.settler market = .ok payer ∧
      tx.eventAt index = .ok (some {
        signature := tx.signature
        blockTime := tx.blockTime
        signer := call.actor
        fingerprint := call.method.fingerprint.head
        action := call.action tx.blockTime (tx.transferredFrom index payer) }) := by
  refine ⟨settlerAt (Place.site market) call, settler_of_build h, ?_⟩
  rw [PastTransaction.eventAt, hi]
  exact instructionEvent_of_build h tx index

/-- A change of price, as the only instruction of its transaction. -/
theorem eventAt_of_build_setPrice :
    ∃ i, build Address.marketplace (.setPrice (.ofNumber 1) (.ofNumber 2) 5) = .ok i ∧
      PastTransaction.eventAt ⟨"signature", some 3, [i.recorded], []⟩ 0
        = .ok (some ⟨"signature", some 3, .ofNumber 1, "9mE5kJpm",
          .setPrice (.ofNumber 2) 5⟩) := by
  have hbuilds : (build Address.marketplace (.setPrice (.ofNumber 1) (.ofNumber 2) 5)).isOk := by
    decide +kernel
  cases h : build Address.marketplace (.setPrice (.ofNumber 1) (.ofNumber 2) 5) with
  | error e =>
      rw [h] at hbuilds
      cases hbuilds
  | ok i =>
      let tx : PastTransaction := ⟨"signature", some 3, [i.recorded], []⟩
      have hi : tx.instructions[0]? = some i.recorded := rfl
      obtain ⟨payer, -, hevent⟩ := eventAt_of_build h hi
      exact ⟨i, rfl, hevent⟩

end Call

end AssetMarket
