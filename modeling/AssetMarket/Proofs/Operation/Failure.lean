/-
**What can go wrong while a transaction is prepared.**

A client that cannot prepare a transaction says why: an asset belongs to somebody else, a record is
missing or cannot be read, a place has no address.  It never says that a request to the ledger has
failed, so whoever reads a failure can tell one from the other, nor that anything was wrong with what
it was told to prepare.

Main definitions:

* `MarketError.ofRequest` — whether a failure is one that a request ends in;
* `MarketError.ofPreparation` — whether a failure is one that a preparation ends in;
* `OwnFailure`, `Inquiry.OwnFailures` — a computation, or an inquiry, that fails in no other way.

Main results:

* `Inquiry.OwnFailures.bind` — one inquiry after another;
* `Operation.ownFailures_prepare` — **a preparation fails in its own ways only**.
-/

import AssetMarket.Operation.Preparation
import AssetMarket.Ledger

set_option relaxedAutoImplicit false
set_option autoImplicit false

namespace AssetMarket

/-- Whether a failure is one that a request to the ledger ends in. -/
def MarketError.ofRequest : MarketError → Bool
  | .ledger _ => true
  | .timeout _ => true
  | .program .. => true
  | _ => false

theorem QueryError.ofRequest_toMarketError (e : QueryError) : e.toMarketError.ofRequest = true := by
  cases e with
  | alreadyInitialized address => rfl
  | transport reason => rfl
  | rejected reason =>
      rw [toMarketError]
      cases ProgramError.findCode? reason <;> rfl

/-- Whether a failure is one that the preparation of a transaction ends in. -/
def MarketError.ofPreparation : MarketError → Bool
  | .malformedRecord .. => true
  | .undecodable .. => true
  | .treasuryCapacity .. => true
  | .recordAbsent .. => true
  | .assetNotOwned .. => true
  | .derivationExhausted => true
  | .invalidSeeds _ => true
  | _ => false

theorem MarketError.ofRequest_of_ofPreparation {e : MarketError} (h : e.ofPreparation = true) :
    e.ofRequest = false := by
  cases e with
  | ledger | timeout | program => cases h
  | _ => rfl

/-! ### Computations that look at nothing -/

/-- A computation that fails only as a preparation does. -/
def OwnFailure {α : Type} (x : Except MarketError α) : Prop :=
  ∀ e, x = .error e → e.ofPreparation = true

section

variable {α β : Type}

theorem ownFailure_ok (a : α) : OwnFailure (.ok a) := nofun

theorem ownFailure_error {e : MarketError} (h : e.ofPreparation = true) :
    OwnFailure (.error e : Except MarketError α) := by
  rintro e' ⟨⟩
  exact h

theorem ownFailure_bind {x : Except MarketError α} {f : α → Except MarketError β}
    (hx : OwnFailure x) (hf : ∀ a, OwnFailure (f a)) : OwnFailure (x >>= f) := by
  cases x with
  | error e => exact ownFailure_error (hx e rfl)
  | ok a => exact hf a

theorem ownFailure_map {x : Except MarketError α} (f : α → β) (hx : OwnFailure x) :
    OwnFailure (x.map f) := by
  cases x with
  | error e => exact ownFailure_error (hx e rfl)
  | ok a => exact ownFailure_ok (f a)

theorem ownFailure_find (market : Address) (p : Place) : OwnFailure (p.find market) := by
  rw [Place.find]
  cases Address.derive p.seeds (p.owner market) with
  | ok d => exact ownFailure_ok d
  | error fault => exact ownFailure_error (by cases fault <;> rfl)

theorem ownFailure_address (market : Address) (p : Place) : OwnFailure (p.address market) :=
  ownFailure_map _ (ownFailure_find market p)

theorem ownFailure_vaultAccount (market mint : Address) : OwnFailure (vaultAccount market mint) :=
  ownFailure_bind (ownFailure_address market .global) fun _ => ownFailure_address _ _

/-- To build a call is to look for its places. -/
theorem ownFailure_build (market : Address) (call : Call) : OwnFailure (call.build market) := by
  cases call <;> simp only [Call.build, Call.moveEscrow] <;>
    repeat first
      | refine ownFailure_bind (ownFailure_find market _) fun _ => ?_
      | exact ownFailure_ok _

theorem ownFailure_checkLength (kind : String) (expected actual : Nat) :
    OwnFailure (Record.checkLength kind expected actual) := by
  rw [Record.checkLength]
  split
  · exact ownFailure_error rfl
  · exact ownFailure_ok ()

end

/-! ### Inquiries -/

namespace Inquiry

variable {α β : Type}

/-- An inquiry that fails only as a preparation does, whatever the accounts hold. -/
inductive OwnFailures : Inquiry α → Prop
  | done (a : α) : OwnFailures (.done a)
  | fail {e : MarketError} (h : e.ofPreparation = true) : OwnFailures (.fail e)
  | say {line : String} {next : Inquiry α} (h : OwnFailures next) : OwnFailures (.say line next)
  | look {purpose : Purpose} {address : Address} {next : Option Bytes → Inquiry α}
      (h : ∀ data, OwnFailures (next data)) : OwnFailures (.look purpose address next)

theorem OwnFailures.ofPreparation_of_eval {x : Inquiry α} (hx : x.OwnFailures)
    {read : Address → Option Bytes} {e : MarketError} (h : x.eval read = .error e) :
    e.ofPreparation = true := by
  induction hx with
  | done a => cases h
  | fail hfail =>
      cases h
      exact hfail
  | say _ ih => exact ih h
  | @look purpose address next _ ih => exact ih (read address) h

theorem OwnFailures.ofRequest_of_eval {x : Inquiry α} (hx : x.OwnFailures)
    {read : Address → Option Bytes} {e : MarketError} (h : x.eval read = .error e) :
    e.ofRequest = false := MarketError.ofRequest_of_ofPreparation (hx.ofPreparation_of_eval h)

theorem ownFailures_pure (a : α) : (pure a : Inquiry α).OwnFailures := .done a

theorem OwnFailures.bind {x : Inquiry α} {f : α → Inquiry β} (hx : x.OwnFailures)
    (hf : ∀ a, (f a).OwnFailures) : (x >>= f).OwnFailures := by
  induction hx with
  | done a => exact hf a
  | fail h => exact .fail h
  | say _ ih => exact .say ih
  | look _ ih => exact .look ih

theorem OwnFailures.lift {x : Except MarketError α} (hx : OwnFailure x) :
    (liftM x : Inquiry α).OwnFailures := by
  cases x with
  | error e => exact .fail (hx e rfl)
  | ok a => exact .done a

theorem ownFailures_remark (verbose : Bool) (line : String) :
    (remark verbose line).OwnFailures := by
  cases verbose with
  | false => exact .done ()
  | true => exact .say (.done ())

theorem ownFailures_data? (purpose : Purpose) (address : Address) :
    (data? purpose address).OwnFailures := .look .done

theorem ownFailures_content? {purpose : Purpose} {decode : Bytes → Except MarketError α}
    (hdecode : ∀ bytes, OwnFailure (decode bytes)) (address : Address) :
    (content? purpose decode address).OwnFailures := by
  refine .bind (ownFailures_data? purpose address) fun data => ?_
  cases data with
  | none => exact .done none
  | some bytes => exact .bind (.lift (hdecode bytes)) fun _ => ownFailures_pure _

theorem ownFailures_required {kind : String} {decode : Bytes → Except MarketError α}
    (hdecode : ∀ bytes, OwnFailure (decode bytes)) (address : Address) :
    (required kind decode address).OwnFailures := by
  refine .bind (ownFailures_content? hdecode address) fun r => ?_
  cases r with
  | none => exact .fail rfl
  | some r => exact .done r

end Inquiry

/-! ### Readers -/

section

variable (bytes : Bytes)

theorem ownFailure_decode_listing : OwnFailure (Listing.decode bytes) :=
  ownFailure_bind (ownFailure_checkLength _ _ _) fun _ => ownFailure_ok _

theorem ownFailure_decode_auction : OwnFailure (Auction.decode bytes) :=
  ownFailure_bind (ownFailure_checkLength _ _ _) fun _ => ownFailure_ok _

theorem ownFailure_decode_tokenAccount : OwnFailure (TokenAccount.decode bytes) :=
  ownFailure_bind (ownFailure_checkLength _ _ _) fun _ => ownFailure_ok _

theorem ownFailure_decode_globalConfig : OwnFailure (GlobalConfig.decode bytes) := by
  refine ownFailure_bind (ownFailure_checkLength _ _ _) fun _ => ?_
  dsimp only
  split
  · exact ownFailure_ok _
  · exact ownFailure_error rfl

theorem ownFailure_decode_metadata : OwnFailure (Metadata.decode bytes) := by
  rw [Metadata.decode]
  split
  · exact ownFailure_ok _
  · exact ownFailure_error rfl

end

/-! ### Assembling -/

section

open Inquiry (ownFailures_pure ownFailures_content? ownFailures_required ownFailures_remark
  ownFailures_data?)

variable (ctx : Context) (source : CreatorSource) (market payer owner mint : Address)

theorem ownFailures_holding? (account : Address) : (holding? account mint).OwnFailures :=
  .bind (ownFailures_content? ownFailure_decode_tokenAccount account) fun _ =>
    ownFailures_pure _

theorem ownFailures_listing? : (listing? market mint).OwnFailures :=
  .bind (.lift (ownFailure_address market _)) fun _ =>
    ownFailures_content? ownFailure_decode_listing _

theorem ownFailures_auction? : (auction? market mint).OwnFailures :=
  .bind (.lift (ownFailure_address market _)) fun _ =>
    ownFailures_content? ownFailure_decode_auction _

theorem ownFailures_requireListing : (requireListing market mint).OwnFailures :=
  .bind (.lift (ownFailure_address market _)) fun _ =>
    ownFailures_required ownFailure_decode_listing _

theorem ownFailures_requireAuction : (requireAuction market mint).OwnFailures :=
  .bind (.lift (ownFailure_address market _)) fun _ =>
    ownFailures_required ownFailure_decode_auction _

theorem ownFailures_depositors : (depositors market mint).OwnFailures :=
  .bind (ownFailures_listing? market mint) fun _ =>
    .bind (ownFailures_auction? market mint) fun _ => ownFailures_pure _

theorem ownFailures_locateInVault : (locateInVault market owner mint).OwnFailures := by
  rw [locateInVault]
  refine .bind (.lift (ownFailure_vaultAccount market mint)) fun vault => ?_
  refine .bind (ownFailures_holding? mint vault) fun holding => ?_
  cases holding with
  | none => exact .fail rfl
  | some token =>
      -- what is in the vault is nobody's but its depositors'
      refine .bind (ownFailures_depositors market mint) fun owners => ?_
      by_cases howner : owner ∈ owners
      · simp only [howner, if_true]
        exact .done _
      · simp only [howner, if_false]
        exact .fail rfl

theorem ownFailures_locate : (locate market owner mint).OwnFailures := by
  rw [locate]
  refine .bind (.lift (ownFailure_address _ _)) fun wallet => ?_
  refine .bind (ownFailures_holding? mint wallet) fun holding => ?_
  cases holding with
  | none => exact ownFailures_locateInVault market owner mint
  | some token =>
      have hcheck : OwnFailure (TokenAccount.checkOwner token.owner owner mint) := by
        rw [TokenAccount.checkOwner]
        split
        · exact ownFailure_ok ()
        · exact ownFailure_error rfl
      exact .bind (.lift hcheck) fun _ => ownFailures_pure _

theorem ownFailures_ensureAccount (verbose : Bool) :
    (ensureAccount verbose payer owner mint).OwnFailures := by
  refine .bind (.lift (ownFailure_address _ _)) fun account => ?_
  refine .bind (ownFailures_data? _ account) fun data => ?_
  cases data with
  | some bytes => exact .done _
  | none =>
      refine .bind (ownFailures_remark verbose _) fun _ => ?_
      have hcreate : OwnFailure (createTokenAccount payer owner mint) :=
        ownFailure_bind (ownFailure_address _ _) fun _ => ownFailure_ok _
      exact .bind (.lift hcreate) fun _ => ownFailures_pure _

theorem ownFailures_creators : (source.creators mint).OwnFailures := by
  cases source with
  | fixed creators => exact .done creators
  | recorded =>
      refine .bind ?_ fun _ => ownFailures_pure _
      refine .bind (.lift (ownFailure_address _ _)) fun address => ?_
      refine .bind (ownFailures_content? ownFailure_decode_metadata address) fun m => ?_
      cases m with
      | none => exact .fail rfl
      | some m => exact .done m

theorem ownFailures_remainingAccounts : (remainingAccounts market source mint).OwnFailures :=
  .bind (.lift (ownFailure_address market _)) fun global =>
    .bind (ownFailures_required ownFailure_decode_globalConfig global) fun _ =>
      .bind (ownFailures_creators source mint) fun _ => ownFailures_pure _

theorem ownFailures_depositSource : (depositSource market owner mint).OwnFailures := by
  refine .bind (ownFailures_locate market owner mint) fun location => ?_
  cases location with
  | wallet account => exact .done account
  | vault account => exact .lift (ownFailure_address _ _)

theorem ownFailures_openVault? : (openVault? ctx payer mint).OwnFailures :=
  .bind (.lift (ownFailure_address _ _)) fun global =>
    .bind (ownFailures_ensureAccount payer global mint _) fun _ => ownFailures_pure _

theorem ownFailures_after (call : Call) (create : Option Instruction) :
    (liftM (call.after market create) : Inquiry InstructionSet).OwnFailures :=
  .lift (ownFailure_bind (ownFailure_build market call) fun _ =>
    ownFailure_ok _)

theorem ownFailures_assemble (op : Operation) : (op.assemble ctx source payer).OwnFailures := by
  cases op with
  | list mint price =>
      exact .bind (ownFailures_depositSource _ payer mint) fun _ =>
        .bind (ownFailures_openVault? ctx payer mint) fun _ => ownFailures_after _ _ _
  | delist mint =>
      exact .bind (ownFailures_locate _ payer mint) fun _ =>
        .bind (ownFailures_ensureAccount payer payer mint _) fun _ => ownFailures_after _ _ _
  | transfer mint recipient =>
      refine .bind (ownFailures_locate _ payer mint) fun _ =>
        .bind (ownFailures_ensureAccount payer recipient mint _) fun _ =>
          .bind (ownFailures_listing? _ mint) fun listing => ?_
      cases listing.any (·.isLive) with
      | false => exact ownFailures_after _ _ _
      | true => exact ownFailures_after _ _ _
  | purchase mint =>
      exact .bind (ownFailures_requireListing _ mint) fun _ =>
        .bind (ownFailures_locate _ _ mint) fun _ =>
          .bind (ownFailures_ensureAccount payer payer mint _) fun _ =>
            .bind (ownFailures_remainingAccounts source _ mint) fun _ => ownFailures_after _ _ _
  | acceptOffer mint buyer =>
      exact .bind (ownFailures_locate _ payer mint) fun _ =>
        .bind (ownFailures_ensureAccount payer buyer mint _) fun _ =>
          .bind (ownFailures_remainingAccounts source _ mint) fun _ => ownFailures_after _ _ _
  | createAuction mint terms =>
      exact .bind (ownFailures_depositSource _ payer mint) fun _ =>
        .bind (ownFailures_openVault? ctx payer mint) fun _ => ownFailures_after _ _ _
  | placeBid mint price =>
      exact .bind (ownFailures_requireAuction _ mint) fun _ => ownFailures_after _ _ _
  | claimAuction mint =>
      exact .bind (ownFailures_requireAuction _ mint) fun _ =>
        .bind (ownFailures_locate _ _ mint) fun _ =>
          .bind (ownFailures_ensureAccount payer payer mint _) fun _ =>
            .bind (ownFailures_remainingAccounts source _ mint) fun _ => ownFailures_after _ _ _
  | cancelAuction mint =>
      exact .bind (ownFailures_locate _ payer mint) fun _ =>
        .bind (ownFailures_ensureAccount payer payer mint _) fun _ => ownFailures_after _ _ _
  | _ => exact ownFailures_after _ _ _

theorem ownFailures_creation? (r : LazyRecord) : (r.creation? ctx payer).OwnFailures := by
  refine .bind (.lift (ownFailure_address _ _)) fun address => ?_
  refine .bind (.lift (ownFailure_build _ _)) fun create => ?_
  refine .bind (ownFailures_data? _ address) fun data => ?_
  cases data with
  | some bytes => exact .done none
  | none => exact .bind (ownFailures_remark _ _) fun _ => ownFailures_pure _

theorem ownFailures_creations (rs : List LazyRecord) :
    (LazyRecord.creations ctx payer rs).OwnFailures := by
  induction rs with
  | nil => exact .done []
  | cons r rs ih =>
      exact .bind (ownFailures_creation? ctx payer r) fun _ => .bind ih fun _ => ownFailures_pure _

/-- **A preparation fails in its own ways only.** -/
theorem Operation.ownFailures_prepare (op : Operation) :
    (op.prepare ctx source payer).OwnFailures := by
  rw [prepare, LazyKind.creations_lazyKinds]
  exact .bind (ownFailures_assemble ctx source payer op) fun _ =>
    .bind (ownFailures_creations ctx payer op.lazyRecords) fun _ => ownFailures_pure _

end

end AssetMarket
