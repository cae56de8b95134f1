/-
**Who is paid, and in which order.**

Where an asset is sold, fees go to the treasury of the marketplace and royalties to the creators of
the asset.  The ledger pays them by their position: after the accounts that every such instruction
names stand the recipients, those of the treasury in the order of their slots, then the creators in
the order of the metadata.  Both come from bytes that the ledger stores, and without them there is
no instruction.

The fixed accounts stand in front whatever the recipients are, so that one argument serves the
three kinds of sale: only the number of fixed accounts differs.

Main definitions:

* `Operation.sale?` — the asset that an operation sells, and the number of fixed accounts;
* `storedConfig?`, `storedMetadata?` — the records that say who is paid;
* `recipients` — who is paid.

Main results:

* `eval_remainingAccounts_eq_ok_iff` — the further accounts are found exactly if both records are;
* `Operation.remaining_of_assembles` — the call of a sale names just those;
* `Operation.recipients_in_order` — **a sale names the recipients in order, or does not happen**.
-/

import AssetMarket.Proofs.Instruction.Catalog
import AssetMarket.Proofs.Operation.Ownership

set_option relaxedAutoImplicit false
set_option autoImplicit false

namespace AssetMarket

open Inquiry (eval eval_bind eval_liftM eval_bind_eq_ok_iff eval_content?_eq_ok_iff)

/-! ### The records that say who is paid -/

section

variable (read : Address → Option Bytes) (market mint : Address)

/-- The settings that the ledger stores. -/
def storedConfig? : Option GlobalConfig :=
  Place.global.stored? GlobalConfig.decode read market

/-- The metadata of a mint that the ledger stores. -/
def storedMetadata? : Option Metadata :=
  (Place.metadata mint).stored? Metadata.decode read Address.metadataProgram

end

/-- Who is paid: the slots of the treasury that are in use, then the creators. -/
def recipients (config : GlobalConfig) (metadata : Metadata) : List Address :=
  (config.treasury.slots.take config.treasury.count).map (·.1)
    ++ metadata.creators.map (·.address)

variable {read : Address → Option Bytes} {market mint : Address}

/-- Metadata are required like any record, only that they are looked at for another purpose. -/
theorem eval_assetMetadata_eq_ok_iff {metadata : Metadata} :
    (assetMetadata mint).eval read = .ok metadata ↔
      storedMetadata? read mint = some metadata := by
  simp only [assetMetadata, metadataAddress, storedMetadata?, Place.stored?, Option.bind_eq_bind,
    Option.bind_eq_some_iff, toOption_eq_some_iff, eval_bind_eq_ok_iff, eval_liftM,
    eval_content?_eq_ok_iff]
  constructor
  · rintro ⟨a, ha, content, ⟨-, rfl⟩ | ⟨bytes, m, hbytes, hdecode, rfl⟩, h⟩
    · cases h
    · cases h
      exact ⟨a, ha, bytes, hbytes, hdecode⟩
  · rintro ⟨a, ha, bytes, hbytes, hdecode⟩
    exact ⟨a, ha, some metadata, .inr ⟨bytes, metadata, hbytes, hdecode, rfl⟩, rfl⟩

/-- The further accounts are found exactly if both records are, and then they are the recipients. -/
theorem eval_remainingAccounts_eq_ok_iff {remaining : List Address} :
    (remainingAccounts market .recorded mint).eval read = .ok remaining ↔
      ∃ config metadata, storedConfig? read market = some config ∧
        storedMetadata? read mint = some metadata ∧ remaining = recipients config metadata := by
  constructor
  · intro h
    rw [remainingAccounts] at h
    obtain ⟨global, hglobal, h⟩ := eval_bind_eq_ok_iff.1 h
    obtain ⟨config, hconfig, h⟩ := eval_bind_eq_ok_iff.1 h
    obtain ⟨creators, hcreators, h⟩ := eval_bind_eq_ok_iff.1 h
    obtain ⟨metadata, hmetadata, hfound⟩ := eval_bind_eq_ok_iff.1 hcreators
    cases hfound
    cases h
    refine ⟨config, metadata, ?_, eval_assetMetadata_eq_ok_iff.1 hmetadata, rfl⟩
    exact stored?_of_eval_required (eval_bind_eq_ok_iff.2 ⟨global, hglobal, hconfig⟩)
  · rintro ⟨config, metadata, hstored, hmetadata, rfl⟩
    obtain ⟨global, hglobal, hconfig⟩ :=
      eval_bind_eq_ok_iff.1 (eval_required_of_stored? hstored GlobalConfig.kindName)
    have hcreators : (CreatorSource.recorded.creators mint).eval read
        = .ok metadata.creatorAddresses :=
      eval_bind_eq_ok_iff.2 ⟨metadata, eval_assetMetadata_eq_ok_iff.2 hmetadata, rfl⟩
    exact eval_bind_eq_ok_iff.2 ⟨global, hglobal,
      eval_bind_eq_ok_iff.2 ⟨config, hconfig, eval_bind_eq_ok_iff.2 ⟨_, hcreators, rfl⟩⟩⟩

namespace Operation

/-- The mint of the asset that an operation sells, and how many accounts its instruction names
before those who are paid. -/
def sale? : Operation → Option (Address × Nat)
  | .purchase mint => some (mint, 14)
  | .acceptOffer mint _ => some (mint, 16)
  | .claimAuction mint => some (mint, 14)
  | _ => none

variable {ctx : Context} {source : CreatorSource} {payer : Address} {op : Operation} {fixed : Nat}

/-- The call of a sale names the accounts that were found, after those that its method lists. -/
theorem remaining_of_assembles {call : Call} {create : Option Instruction}
    (h : Assembles read ctx source payer op call create) (hsale : op.sale? = some (mint, fixed)) :
    (remainingAccounts ctx.market source mint).eval read = .ok call.remaining ∧
      call.method.accounts.length = fixed := by
  cases h with
  | direct hcall => cases op <;> cases hcall <;> cases hsale
  | purchase _ _ _ hremaining | acceptOffer _ _ hremaining | claimAuction _ _ _ hremaining =>
      cases hsale
      exact ⟨hremaining, rfl⟩
  | _ => cases hsale

/-- Where the accounts of a sale are not found, it is not assembled. -/
theorem exists_error_of_sale (hsale : op.sale? = some (mint, fixed))
    (hnone : ∀ remaining, (remainingAccounts ctx.market source mint).eval read ≠ .ok remaining) :
    ∃ e, (op.assemble ctx source payer).eval read = .error e := by
  cases hassemble : (op.assemble ctx source payer).eval read with
  | error e => exact ⟨e, rfl⟩
  | ok set =>
      obtain ⟨call, create, i, hcall, -, -⟩ := eval_assemble_eq_ok_iff.1 hassemble
      exact absurd (remaining_of_assembles hcall hsale).1 (hnone _)

/-- **A sale names the recipients in order, or does not happen.**  At every state of the ledger the
instruction of a sale that is assembled names, after its fixed accounts, the addresses of as many
slots of the treasury as are in use, in the order of the slots, and then those of all creators in
the order of the metadata; an address that is there twice is named twice, and each may be written
and does not sign.  If the settings or the metadata are missing or cannot be read, no instruction is
assembled and no transaction prepared. -/
theorem recipients_in_order (d : Desk MemoryLedger) (ctx : Context) (payer : Address)
    (hsale : op.sale? = some (mint, fixed)) :
    (∀ set, (op.assemble ctx .recorded payer).answer d = .ok set →
      ∃ config metadata front, storedConfig? d.ledger.data? ctx.market = some config ∧
        storedMetadata? d.ledger.data? mint = some metadata ∧ front.length = fixed ∧
        set.primary.accounts = front
          ++ ((config.treasury.slots.take config.treasury.count).map (·.1)
            ++ metadata.creators.map (·.address)).map fun a =>
              { address := a, isSigner := false, isWritable := true }) ∧
    (storedConfig? d.ledger.data? ctx.market = none ∨
        storedMetadata? d.ledger.data? mint = none →
      (∃ e, (op.assemble ctx .recorded payer).answer d = .error e) ∧
        ∃ e, (op.prepare ctx .recorded payer).answer d = .error e) := by
  simp only [Inquiry.answer_eq_eval]
  constructor
  · intro set hset
    obtain ⟨call, create, i, hcall, hbuild, rfl⟩ := eval_assemble_eq_ok_iff.1 hset
    obtain ⟨hremaining, hlength⟩ := remaining_of_assembles hcall hsale
    obtain ⟨config, metadata, hconfig, hmetadata, hrecipients⟩ :=
      eval_remainingAccounts_eq_ok_iff.1 hremaining
    have haccounts : i.accounts = call.accountsAt (Place.site ctx.market) := by
      rw [← (Call.build_eq_ok_iff.1 hbuild).2, Call.instruction]
    have hfurther : i.accounts.drop fixed
        = (recipients config metadata).map AccountRef.writable := by
      rw [haccounts, ← hlength, Call.drop_accountsAt, hrecipients]
    have hfront : (i.accounts.take fixed).length = fixed := by
      have hflags := congrArg List.length (Call.flags_accountsAt (Place.site ctx.market) call)
      rwa [List.length_map, List.length_map, ← haccounts, hlength] at hflags
    refine ⟨config, metadata, i.accounts.take fixed, hconfig, hmetadata, hfront, ?_⟩
    exact (List.take_append_drop fixed i.accounts).symm.trans (congrArg _ hfurther)
  · intro hnone
    have hnotfound : ∀ remaining,
        (remainingAccounts ctx.market .recorded mint).eval d.ledger.data? ≠ .ok remaining := by
      intro remaining hremaining
      obtain ⟨config, metadata, hconfig, hmetadata, -⟩ :=
        eval_remainingAccounts_eq_ok_iff.1 hremaining
      rcases hnone with hnone | hnone
      · rw [hnone] at hconfig
        cases hconfig
      · rw [hnone] at hmetadata
        cases hmetadata
    obtain ⟨e, herror⟩ : ∃ e, (op.assemble ctx .recorded payer).eval d.ledger.data? = .error e :=
      exists_error_of_sale hsale hnotfound
    refine ⟨⟨e, herror⟩, e, ?_⟩
    rw [prepare, eval_bind, herror]
    rfl

/-- Settings with one slot of the treasury in use and a second one left over. -/
def leftoverConfig : GlobalConfig :=
  ⟨.ofNumber 9, 0,
    ⟨1, [(.ofNumber 20, 500), (.ofNumber 21, 300)] ++ List.replicate 6 Treasury.blankSlot, rfl,
      by decide⟩⟩

/-- Metadata of an asset with two creators, of whom the second is in the treasury too. -/
def sharedMetadata : Metadata :=
  ⟨.ofNumber 40, .ofNumber 19, "", "", "", 0,
    [⟨.ofNumber 41, true, 60⟩, ⟨.ofNumber 20, false, 40⟩]⟩

/-- The desk of a ledger where these are stored and a seller holds the asset. -/
def sellerDesk : Desk MemoryLedger :=
  ⟨[(Place.global.address Address.marketplace,
      ⟨Address.marketplace, 0, leftoverConfig.encode⟩),
    (metadataAddress (.ofNumber 19), ⟨Address.metadataProgram, 0, sharedMetadata.bytes⟩),
    (associatedAccount (.ofNumber 1) (.ofNumber 19),
      ⟨Address.tokenProgram, 0, (⟨.ofNumber 19, .ofNumber 1, 1⟩ : TokenAccount).encode⟩)].foldl
    (fun l entry => l.insertAccount (entry.1.toOption.getD .zero) entry.2)
    (.empty Address.marketplace), []⟩

/-- The seller can give the asset away there. -/
theorem exists_prepare_sellerDesk :
    ∃ tx, ((transfer (.ofNumber 19) (.ofNumber 5)).prepare .default .recorded
      (.ofNumber 1)).answer sellerDesk = .ok tx :=
  exists_eq_ok_of_isOk (by decide +kernel)

/-- Where an offer is accepted, who is both in the treasury and a creator is named twice. -/
theorem recipients_in_order_repeated :
    ∃ (set : InstructionSet) (front : List AccountRef),
      (acceptOffer (.ofNumber 19) (.ofNumber 5)).sale? = some (.ofNumber 19, 16) ∧
      ((acceptOffer (.ofNumber 19) (.ofNumber 5)).assemble .default .recorded
        (.ofNumber 1)).answer sellerDesk = .ok set ∧
      front.length = 16 ∧
      set.primary.accounts
        = front ++ [.ofNumber 20, .ofNumber 41, .ofNumber 20].map AccountRef.writable := by
  have hassembles : (((acceptOffer (.ofNumber 19) (.ofNumber 5)).assemble .default .recorded
      (.ofNumber 1)).answer sellerDesk).isOk := by decide +kernel
  obtain ⟨set, hset⟩ := exists_eq_ok_of_isOk hassembles
  have hconfig : storedConfig? sellerDesk.ledger.data? Address.marketplace
      = some leftoverConfig := by decide +kernel
  have hmetadata : storedMetadata? sellerDesk.ledger.data? (.ofNumber 19)
      = some sharedMetadata := by decide +kernel
  obtain ⟨hnames, -⟩ := recipients_in_order sellerDesk .default (.ofNumber 1)
    (rfl : (acceptOffer (.ofNumber 19) (.ofNumber 5)).sale? = some (.ofNumber 19, 16))
  obtain ⟨config, metadata, front, hconfig', hmetadata', hfront, haccounts⟩ := hnames set hset
  obtain rfl : leftoverConfig = config := Option.some.inj (hconfig.symm.trans hconfig')
  obtain rfl : sharedMetadata = metadata := Option.some.inj (hmetadata.symm.trans hmetadata')
  exact ⟨set, front, rfl, hset, hfront, haccounts⟩

end Operation

end AssetMarket
