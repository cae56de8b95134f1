/-
**What a prepared transaction does first, next and last.**

An operation that can be assembled can be prepared, if only its records have places: what else it
takes to create a record is there as soon as the place is.  The transaction creates the missing
records in the order of the operation, then opens the account that receives the asset, if that
account is absent, and last does what is wanted.  Who receives the asset is told by the operation
alone.

Main definitions:

* `Receiver` — who an asset goes to, with `Receiver.owner`, the owner of the account it goes to;
* `Operation.receiver?` — the receiver of an operation that moves an asset;
* `Receives` — an account is that of an owner, opened if it is absent and named by an instruction.

Main results:

* `LazyRecord.exists_eval_creations` — records that have places can be created;
* `Operation.exists_eval_prepare` — what can be assembled can be prepared;
* `Operation.create_of_assembles`, `Operation.receives_of_assembles` — the account that is opened;
* `Operation.prepared_in_sequence` — **the sequence of a prepared transaction**.
-/

import AssetMarket.Proofs.Operation.Acceptance
import AssetMarket.Proofs.Operation.Failure
import AssetMarket.Proofs.Operation.Ownership
import AssetMarket.Proofs.Operation.Recipients

set_option relaxedAutoImplicit false
set_option autoImplicit false

namespace AssetMarket

open Inquiry (eval eval_bind eval_bind_eq_ok_iff)

variable {read : Address → Option Bytes} {ctx : Context} {source : CreatorSource}
  {payer : Address} {op : Operation}

/-! ### Creations -/

namespace LazyRecord

/-- The call that creates a record looks for nothing but the place of the record. -/
theorem places_call (site : Place → Derived) (payer : Address) (r : LazyRecord) :
    (r.call payer).places site = [r.place payer] := by
  cases r <;> rfl

theorem exists_build_of_address {r : LazyRecord} {market a : Address}
    (h : (r.place payer).address market = .ok a) : ∃ i, (r.call payer).build market = .ok i := by
  refine ⟨_, Call.build_eq_ok_iff.2 ⟨?_, rfl⟩⟩
  intro p hp
  rw [places_call, List.mem_singleton] at hp
  rw [hp]
  exact Place.find_of_address h

/-- Records that have places can be created. -/
theorem exists_eval_creations (read : Address → Option Bytes) {rs : List LazyRecord}
    (h : ∀ r ∈ rs, ∃ a, (r.place payer).address ctx.market = .ok a) :
    ∃ is, (creations ctx payer rs).eval read = .ok is := by
  induction rs with
  | nil => exact ⟨[], rfl⟩
  | cons r rs ih =>
      obtain ⟨a, haddress⟩ := h r List.mem_cons_self
      obtain ⟨i, hbuild⟩ := exists_build_of_address haddress
      obtain ⟨is, hrest⟩ := ih fun r' hr' => h r' (List.mem_cons_of_mem r hr')
      have hcreate : (r.creation? ctx payer).eval read = .ok _ :=
        eval_creation?_eq_ok_iff.2 ⟨a, i, haddress, hbuild, rfl⟩
      exact ⟨_, eval_bind_eq_ok_iff.2 ⟨_, hcreate, eval_bind_eq_ok_iff.2 ⟨is, hrest, rfl⟩⟩⟩

end LazyRecord

namespace Operation

/-- What can be assembled can be prepared, if its records have places. -/
theorem exists_eval_prepare {set : InstructionSet}
    (hset : (op.assemble ctx source payer).eval read = .ok set)
    (hplaces : ∀ r ∈ op.lazyRecords, ∃ a, (r.place payer).address ctx.market = .ok a) :
    ∃ inits,
      (op.prepare ctx source payer).eval read
        = .ok { payer := payer, instructions := inits ++ (set.setup ++ [set.primary]) } ∧
      inits.map .ok = (op.missing read ctx.market payer).map fun r =>
        (r.call payer).build ctx.market := by
  obtain ⟨inits, hinits⟩ := LazyRecord.exists_eval_creations read hplaces
  refine ⟨inits, ?_, ?_⟩
  · rw [prepare, LazyKind.creations_lazyKinds]
    refine eval_bind_eq_ok_iff.2 ⟨set, hset, eval_bind_eq_ok_iff.2 ⟨inits, hinits, ?_⟩⟩
    rw [Transaction.ofSet, toList_foldr_prepend, InstructionSet.toList]
    rfl
  · rw [LazyRecord.build_of_eval_creations hinits, List.map_map]
    rfl

end Operation

/-! ### Receivers -/

/-- Who an asset goes to. -/
inductive Receiver where
  /-- The marketplace, which keeps the asset in its vault. -/
  | vault
  | party (owner : Address)
  deriving DecidableEq

/-- The owner of the account that an asset goes to. -/
def Receiver.owner (market : Address) : Receiver → Except MarketError Address
  | .vault => Place.global.address market
  | .party owner => .ok owner

/-- Who receives the asset of an operation, and which asset that is. -/
def Operation.receiver? (payer : Address) : Operation → Option (Receiver × Address)
  | .list mint _ => some (.vault, mint)
  | .delist mint => some (.party payer, mint)
  | .transfer mint recipient => some (.party recipient, mint)
  | .purchase mint => some (.party payer, mint)
  | .acceptOffer mint buyer => some (.party buyer, mint)
  | .createAuction mint _ => some (.vault, mint)
  | .claimAuction mint => some (.party payer, mint)
  | .cancelAuction mint => some (.party payer, mint)
  | _ => none

/-- An account receives an asset of an owner: it is opened if it is absent, and among the accounts
that an instruction names. -/
structure Receives (read : Address → Option Bytes) (payer owner mint : Address)
    (create : Option Instruction) (named : List AccountRef) (account : Address) : Prop where
  associated : associatedAccount owner mint = .ok account
  create_eq : create = if (read account).isSome then none
    else some (Instruction.opening payer owner mint account)
  mem : account ∈ named.map (·.address)

theorem receives_of_eval_ensureAccount {verbose : Bool} {owner mint account : Address}
    {create : Option Instruction} {named : List AccountRef}
    (h : (ensureAccount verbose payer owner mint).eval read = .ok (account, create))
    (hmem : account ∈ named.map (·.address)) :
    Receives read payer owner mint create named account := by
  obtain ⟨hassociated, hcreate⟩ := eval_ensureAccount_eq_ok_iff.1 h
  exact ⟨hassociated, hcreate, hmem⟩

namespace Operation

variable {call : Call} {create : Option Instruction} {i : Instruction}

/-- Where the vault is looked for, there the account is that was opened for it. -/
theorem exists_receives_vault {mint : Address}
    (h : (openVault? ctx payer mint).eval read = .ok create)
    (hmem : Call.placeRef (Place.site ctx.market) (Place.vault (Place.site ctx.market) mint)
      ∈ i.accounts) :
    ∃ owner account, Receiver.vault.owner ctx.market = .ok owner ∧
      Receives read payer owner mint create i.accounts account := by
  obtain ⟨global, account, hglobal, hensure⟩ := eval_openVault?_eq_ok_iff.1 h
  obtain ⟨hassociated, -⟩ := eval_ensureAccount_eq_ok_iff.1 hensure
  -- token accounts belong to no marketplace, so it does not matter which one is asked
  have haddress : (Place.tokenAccount global mint).address ctx.market = .ok account := by
    rw [Place.address, Place.find_tokenAccount]
    exact hassociated
  have hvault : (Call.placeRef (Place.site ctx.market)
      (Place.vault (Place.site ctx.market) mint)).address = account := by
    rw [Call.placeRef, AccountRef.writable, Place.vault, Place.address_site hglobal,
      Place.address_site haddress]
  refine ⟨global, account, hglobal, receives_of_eval_ensureAccount hensure ?_⟩
  exact hvault ▸ List.mem_map_of_mem hmem

/-- The account that receives the asset of an operation. -/
theorem receives_of_assembles (h : Assembles read ctx source payer op call create)
    (hbuild : call.build ctx.market = .ok i) {receiver : Receiver} {mint : Address}
    (hreceiver : op.receiver? payer = some (receiver, mint)) :
    ∃ owner account, receiver.owner ctx.market = .ok owner ∧
      Receives read payer owner mint create i.accounts account := by
  have haccounts := Call.accounts_of_build hbuild
  cases h with
  | direct hcall => cases op <;> cases hcall <;> cases hreceiver
  | placeBid hauction => cases hreceiver
  | list haccount hcreate =>
      cases hreceiver
      exact exists_receives_vault hcreate (by simp [haccounts, Call.accountsAt])
  | createAuction haccount hcreate =>
      cases hreceiver
      exact exists_receives_vault hcreate (by simp [haccounts, Call.accountsAt])
  | delist hlocation hcreate | cancelAuction hlocation hcreate
  | transfer hlocation hcreate hlisting hlive | transferFromVault hlocation hcreate hlisting hlive
  | acceptOffer hlocation hcreate hremaining | purchase hlisting hlocation hcreate hremaining
  | claimAuction hauction hlocation hcreate hremaining =>
      cases hreceiver
      refine ⟨_, _, rfl, receives_of_eval_ensureAccount hcreate ?_⟩
      simp [haccounts, Call.accountsAt, AccountRef.writable]

/-- Where no asset is received no account is opened. -/
theorem create_of_assembles (h : Assembles read ctx source payer op call create)
    (hnone : op.receiver? payer = none) : create = none := by
  cases h with
  | direct hcall => rfl
  | placeBid hauction => rfl
  | _ => cases hnone

/-! ### All of it -/

/-- **The sequence of a prepared transaction.**  An operation that is assembled and whose records
have places is prepared: its transaction creates the missing records in the order of the operation,
then carries out the setup and last the primary instruction.  The setup opens the account that
receives the asset if this account is absent, and is empty otherwise; the primary instruction names
the account.  An operation that moves no asset to anybody has an empty setup.  An operation that
cannot be assembled cannot be prepared, for the same reason, and no record ever lacks a mint. -/
theorem prepared_in_sequence (ctx : Context) (source : CreatorSource) (payer : Address)
    (op : Operation) (d : Desk MemoryLedger) :
    (∀ set, (op.assemble ctx source payer).answer d = .ok set →
      ((∀ r ∈ op.lazyRecords, ∃ a, (r.place payer).address ctx.market = .ok a) →
        ∃ inits,
          (op.prepare ctx source payer).answer d
            = .ok { payer := payer, instructions := inits ++ (set.setup ++ [set.primary]) } ∧
          inits.map .ok = (op.missing d.ledger.data? ctx.market payer).map fun r =>
            (r.call payer).build ctx.market) ∧
      (op.receiver? payer = none → set.setup = []) ∧
      ∀ receiver mint, op.receiver? payer = some (receiver, mint) →
        ∃ owner account create, receiver.owner ctx.market = .ok owner ∧
          associatedAccount owner mint = .ok account ∧
          createTokenAccount payer owner mint = .ok (create, account) ∧
          set.setup = (if (d.ledger.data? account).isSome then [] else [create]) ∧
          account ∈ set.primary.accounts.map (·.address)) ∧
    (∀ e, (op.assemble ctx source payer).answer d = .error e →
      (op.prepare ctx source payer).answer d = .error e) ∧
    (op.prepare ctx source payer).answer d
      ≠ .error (.invalidArgument "mint" "required for this record") := by
  simp only [Inquiry.answer_eq_eval]
  refine ⟨?_, fun e => eval_prepare_of_assemble_error, ?_⟩
  · intro set hset
    obtain ⟨call, create, i, hcall, hbuild, hparts⟩ := eval_assemble_eq_ok_iff.1 hset
    refine ⟨exists_eval_prepare hset, ?_, ?_⟩
    · intro hnone
      rw [hparts, create_of_assembles hcall hnone]
      rfl
    · intro receiver mint hreceiver
      obtain ⟨owner, account, howner, hreceives⟩ := receives_of_assembles hcall hbuild hreceiver
      refine ⟨owner, account, .opening payer owner mint account, howner, hreceives.associated, ?_, ?_,
        ?_⟩
      · rw [createTokenAccount_eq, hreceives.associated]
        rfl
      · rw [hparts, hreceives.create_eq]
        split <;> rfl
      · rw [hparts]
        exact hreceives.mem
  · intro hlacks
    have hown := (op.ownFailures_prepare ctx source payer).ofPreparation_of_eval hlacks
    cases hown

/-- A seller who has done nothing before lists an asset: three records are created and the vault's
account is opened. -/
theorem prepared_in_sequence_list :
    ∃ (set : InstructionSet) (inits : List Instruction) (create : Instruction),
      ((list (.ofNumber 19) 5).assemble .default .recorded (.ofNumber 1)).answer sellerDesk
        = .ok set ∧
      set.setup = [create] ∧ inits.length = 3 ∧
      ((list (.ofNumber 19) 5).prepare .default .recorded (.ofNumber 1)).answer sellerDesk
        = .ok { payer := .ofNumber 1, instructions := inits ++ [create, set.primary] } := by
  have hassembles : (((list (.ofNumber 19) 5).assemble .default .recorded
      (.ofNumber 1)).answer sellerDesk).isOk := by decide +kernel
  obtain ⟨set, hset⟩ := exists_eq_ok_of_isOk hassembles
  obtain ⟨hparts, -, -⟩ := prepared_in_sequence .default .recorded (.ofNumber 1)
    (list (.ofNumber 19) 5) sellerDesk
  obtain ⟨hprepare, -, hsetup⟩ := hparts set hset
  have hmissing : ∀ r ∈ (list (.ofNumber 19) 5).lazyRecords,
      r.isMissing sellerDesk.ledger.data? Address.marketplace (.ofNumber 1) = true := by
    decide +kernel
  obtain ⟨inits, hprepared, hinits⟩ := hprepare fun r hr =>
    (mem_missing_iff.1 (List.mem_filter.2 ⟨hr, hmissing r hr⟩)).2.imp fun _ h => h.1
  obtain ⟨owner, account, create, howner, hassociated, -, hopens, -⟩ :=
    hsetup .vault (.ofNumber 19) rfl
  have hglobal : Place.global.address Address.marketplace = .ok owner := howner
  have hvault : vaultAccount Address.marketplace (.ofNumber 19) = .ok account := by
    rw [vaultAccount, hglobal]
    exact hassociated
  have habsent : (vaultAccount Address.marketplace (.ofNumber 19)).toOption.bind
      sellerDesk.ledger.data? = none := by decide +kernel
  rw [hvault, Except.toOption, Option.bind_some] at habsent
  have hcreate : set.setup = [create] := by
    rw [hopens, habsent]
    rfl
  refine ⟨set, inits, create, hset, hcreate, ?_, ?_⟩
  · have hall : (list (.ofNumber 19) 5).missing sellerDesk.ledger.data? Context.default.market
        (.ofNumber 1) = (list (.ofNumber 19) 5).lazyRecords := List.filter_eq_self.2 hmissing
    have hlength := congrArg List.length hinits
    rw [hall, List.length_map, List.length_map] at hlength
    exact hlength
  · rw [hcreate] at hprepared
    exact hprepared

end Operation

end AssetMarket
