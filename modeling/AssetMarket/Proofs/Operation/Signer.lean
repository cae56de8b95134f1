/-
**Who signs a prepared transaction.**

Every instruction that a client makes is signed by its first account and by no other.  The first
account of a call is whoever acts, that of an opening is whoever pays, and in the transaction of an
operation both are the payer.  So it can be submitted with one signature, and nobody else is ever
asked for theirs: not a buyer, not a seller, not a treasury, not a creator, and not a place of the
market, which could not sign at all.

Main definitions:

* `Instruction.SignedBy` — the first account of an instruction signs, and no other.

Main results:

* `Instruction.SignedBy.address_eq` — no other signature is asked for;
* `Call.signedBy_of_build` — a call is signed by its actor;
* `Instruction.signedBy_opening` — an opening is signed by who pays for it;
* `Operation.signed_by_payer_alone` — **only the payer signs**.
-/

import AssetMarket.Proofs.Operation.Events
import AssetMarket.Proofs.Operation.Recipients

set_option relaxedAutoImplicit false
set_option autoImplicit false

namespace AssetMarket

/-- The first account of an instruction signs, it is the one given, and no other account signs. -/
def Instruction.SignedBy (i : Instruction) (a : Address) : Prop :=
  ∃ rest, i.accounts = .signer a :: rest ∧ ∀ ref ∈ rest, ref.isSigner = false

namespace Instruction

/-- Wherever such an instruction asks for a signature, it is that of the account given. -/
theorem SignedBy.address_eq {i : Instruction} {a : Address} (h : i.SignedBy a) {ref : AccountRef}
    (href : ref ∈ i.accounts) (hsigner : ref.isSigner = true) : ref.address = a := by
  obtain ⟨rest, haccounts, hrest⟩ := h
  rw [haccounts] at href
  rcases List.mem_cons.1 href with rfl | href
  · rfl
  · rw [hrest ref href] at hsigner
    cases hsigner

theorem signedBy_opening (payer owner mint account : Address) :
    (opening payer owner mint account).SignedBy payer :=
  ⟨_, rfl, by simp [AccountRef.writable, AccountRef.readOnly]⟩

end Instruction

namespace Call

/-- The first account of a call is whoever acts, and signs; places, other parties and those who
receive fees do not sign. -/
theorem exists_accountsAt_eq (site : Place → Derived) (call : Call) :
    ∃ rest, call.accountsAt site = .signer call.actor :: rest ∧
      ∀ ref ∈ rest, ref.isSigner = false := by
  cases call <;>
    exact ⟨_, rfl, by simp +contextual [placeRef, AccountRef.writable, AccountRef.readOnly]⟩

theorem signedBy_of_build {market : Address} {call : Call} {i : Instruction}
    (h : call.build market = .ok i) : i.SignedBy call.actor := by
  rw [Instruction.SignedBy, accounts_of_build h]
  exact exists_accountsAt_eq (Place.site market) call

end Call

namespace Operation

/-- **Only the payer signs.**  The transaction of an operation is paid by its payer, and each of its
instructions, whether it creates a record, opens an account or does what is wanted, is signed by its
first account, which is the payer, and by no other.  So wherever a signature is asked for, it is the
payer's. -/
theorem signed_by_payer_alone {ctx : Context} {source : CreatorSource} {payer : Address}
    {op : Operation} {d : Desk MemoryLedger} {tx : Transaction}
    (h : (op.prepare ctx source payer).answer d = .ok tx) :
    tx.payer = payer ∧ (∀ i ∈ tx.instructions, i.SignedBy payer) ∧
      ∀ i ∈ tx.instructions, ∀ ref ∈ i.accounts, ref.isSigner = true → ref.address = payer := by
  rw [Inquiry.answer_eq_eval] at h
  obtain ⟨creations, call, create, i, hcreations, hcall, hbuild, rfl⟩ := parts_of_eval_prepare h
  have hsigned : ∀ j ∈ creations ++ (create.toList ++ [i]), j.SignedBy payer := by
    refine forall_mem_parts ?_ ?_ (actor_of_assembles hcall ▸ Call.signedBy_of_build hbuild)
    · intro j hj
      obtain ⟨made, hmade, hj⟩ := exists_build_of_map_build hcreations hj
      obtain ⟨r, -, rfl⟩ := List.mem_map.1 hmade
      exact r.actor_call payer ▸ Call.signedBy_of_build hj
    · intro j hj
      obtain ⟨owner, mint, account, rfl⟩ := opening_of_assembles hcall j hj
      exact Instruction.signedBy_opening payer owner mint account
  exact ⟨rfl, hsigned, fun j hj ref => (hsigned j hj).address_eq⟩

/-- An asset is given to somebody who has no account for it yet.  The account is opened and the asset
moved without the recipient's signature. -/
theorem signed_by_payer_alone_transfer :
    ∃ tx, ((transfer (.ofNumber 19) (.ofNumber 5)).prepare .default .recorded
        (.ofNumber 1)).answer sellerDesk = .ok tx ∧
      tx.instructions.length = 2 ∧ ∀ i ∈ tx.instructions, i.SignedBy (.ofNumber 1) := by
  have hprepares : (((transfer (.ofNumber 19) (.ofNumber 5)).prepare .default .recorded
      (.ofNumber 1)).answer sellerDesk).toOption.map (·.instructions.length) = some 2 := by
    decide +kernel
  cases hprepare : ((transfer (.ofNumber 19) (.ofNumber 5)).prepare .default .recorded
      (.ofNumber 1)).answer sellerDesk with
  | error e =>
      rw [hprepare] at hprepares
      cases hprepares
  | ok tx =>
      rw [hprepare] at hprepares
      obtain ⟨-, hsigned, -⟩ := signed_by_payer_alone hprepare
      exact ⟨tx, rfl, Option.some.inj hprepares, hsigned⟩

end Operation

end AssetMarket
