/-
**Where a transfer takes the asset from.**

Two records that know nothing of each other decide about a transfer.  The listing decides which of
two calls is made: an asset that is on sale leaves the vault, any other one moves from wallet to
wallet.  The search for the asset decides which account the second call names.  The search finds an
asset in the vault for the creator of a live auction as well as for a seller.  So an asset that is
being auctioned and not on sale is moved by the direct call, which then draws on the vault.

Main definitions:

* `OnSale`, `AuctionedBy` — what the stored records say of an asset;
* `auctionDesk` — a ledger with an asset that is being auctioned.

Main results:

* `InVault.auctionedBy` — what is in the vault and not on sale is being auctioned;
* `InWallet.eq_or_collision` — a wallet is not the vault;
* `Operation.transfer_source` — **where a transfer takes the asset from**.
-/

import AssetMarket.Proofs.Address.Place
import AssetMarket.Proofs.Operation.Creation
import AssetMarket.Proofs.Operation.Recipients

set_option relaxedAutoImplicit false
set_option autoImplicit false

namespace AssetMarket

/-! ### What the records say -/

section

variable (read : Address → Option Bytes) (market owner mint : Address)

/-- An asset is on sale. -/
def OnSale : Prop :=
  ∃ listing, storedListing? read market mint = some listing ∧ listing.isLive = true

/-- An asset is being auctioned by an owner. -/
def AuctionedBy : Prop :=
  ∃ auction, storedAuction? read market mint = some auction ∧
    auction.isLive = true ∧ auction.creator = owner

end

variable {read : Address → Option Bytes} {market owner mint a : Address}

theorem onSale_iff_any :
    OnSale read market mint ↔ (storedListing? read market mint).any (·.isLive) = true := by
  simp [OnSale, Option.any_eq_true]

/-- What is in the vault and not on sale is being auctioned. -/
theorem InVault.auctionedBy (h : InVault read market owner mint a)
    (hsale : ¬OnSale read market mint) : AuctionedBy read market owner mint := by
  rcases h.deposited with ⟨listing, hlisting, hlive, -⟩ | hauction
  · exact absurd ⟨listing, hlisting, hlive⟩ hsale
  · exact hauction

/-- A wallet is not the vault, but for the owner of the vault itself. -/
theorem InWallet.eq_or_collision (h : InWallet read owner mint a)
    (hvault : vaultAccount market mint = .ok a) :
    ∃ global, Place.global.address market = .ok global ∧
      (owner = global ∨ ∃ bump bump',
        Sha256.Collision ((Place.tokenAccount owner mint).material market bump)
          ((Place.tokenAccount global mint).material market bump')) := by
  obtain ⟨global, hglobal, haccount⟩ := vaultAccount_eq_ok_iff.1 hvault
  refine ⟨global, hglobal, ?_⟩
  rcases Place.eq_or_collision_of_address h.account haccount with ⟨hplace, -⟩ | hcollision
  · cases hplace
    exact .inl rfl
  · exact .inr hcollision

namespace Operation

/-- **Where a transfer takes the asset from.**  An asset that is on sale is called out of the vault.
Any other one is moved by the direct call, out of the account that it names at its second position.
This is the wallet of the payer, which is not the vault's account unless the payer owns the vault or
the hash has a collision; or, if the wallet has none, it is the vault's account, and then the asset
is being auctioned by the payer. -/
theorem transfer_source (d : Desk MemoryLedger) (ctx : Context) (source : CreatorSource)
    (payer mint recipient : Address) {set : InstructionSet}
    (h : ((transfer mint recipient).assemble ctx source payer).answer d = .ok set) :
    (OnSale d.ledger.data? ctx.market mint →
      set.primary.calls ctx.market .transferFromVault = true) ∧
    (¬OnSale d.ledger.data? ctx.market mint →
      set.primary.calls ctx.market .transfer = true ∧
      ∃ account, set.primary.accounts[1]? = some (.writable account) ∧
        (InWallet d.ledger.data? payer mint account ∧
            (vaultAccount ctx.market mint = .ok account →
              ∃ global, Place.global.address ctx.market = .ok global ∧
                (payer = global ∨ ∃ bump bump',
                  Sha256.Collision ((Place.tokenAccount payer mint).material ctx.market bump)
                    ((Place.tokenAccount global mint).material ctx.market bump'))) ∨
          InVault d.ledger.data? ctx.market payer mint account ∧
            AuctionedBy d.ledger.data? ctx.market payer mint)) := by
  rw [Inquiry.answer_eq_eval] at h
  obtain ⟨call, create, i, hcall, hbuild, rfl⟩ := eval_assemble_eq_ok_iff.1 h
  rw [onSale_iff_any]
  cases hcall with
  | direct hdirect => cases hdirect
  | @transfer _ _ account location _ listing hlocation _ hlisting hlive =>
      have hsale : (storedListing? d.ledger.data? ctx.market mint).any (·.isLive) = false := by
        rw [storedListing?, stored?_of_eval_record? hlisting, hlive]
      refine ⟨fun hon => absurd hon (by simp [hsale]), fun hoff => ⟨?_, location.account, ?_, ?_⟩⟩
      · rw [Call.calls_of_build hbuild]
        rfl
      · rw [Call.accounts_of_build hbuild]
        rfl
      · rcases inWallet_or_inVault_of_eval hlocation with hwallet | hvault
        · exact .inl ⟨hwallet, hwallet.eq_or_collision⟩
        · exact .inr ⟨hvault, hvault.auctionedBy (onSale_iff_any.not.2 hoff)⟩
  | @transferFromVault _ _ account location _ listing _ _ hlisting hlive =>
      have hsale : (storedListing? d.ledger.data? ctx.market mint).any (·.isLive) = true := by
        rw [storedListing?, stored?_of_eval_record? hlisting, hlive]
      refine ⟨fun _ => ?_, fun hoff => absurd hsale hoff⟩
      rw [Call.calls_of_build hbuild]
      rfl

/-- What a seller has in his wallet and has not put on sale is moved out of the wallet. -/
theorem transfer_source_wallet :
    ∃ (set : InstructionSet) (wallet : Address),
      ((transfer (.ofNumber 19) (.ofNumber 5)).assemble .default .recorded
        (.ofNumber 1)).answer sellerDesk = .ok set ∧
      set.primary.calls Address.marketplace .transfer = true ∧
      associatedAccount (.ofNumber 1) (.ofNumber 19) = .ok wallet ∧
      set.primary.accounts[1]? = some (.writable wallet) := by
  obtain ⟨tx, htx⟩ := exists_prepare_sellerDesk
  rw [Inquiry.answer_eq_eval] at htx
  obtain ⟨set, hset, -⟩ := Inquiry.eval_bind_eq_ok_iff.1 htx
  rw [← Inquiry.answer_eq_eval] at hset
  obtain ⟨hlisting, hauction⟩ :
      storedListing? sellerDesk.ledger.data? Address.marketplace (.ofNumber 19) = none ∧
        storedAuction? sellerDesk.ledger.data? Address.marketplace (.ofNumber 19) = none := by
    decide +kernel
  obtain ⟨-, hdirect⟩ := transfer_source sellerDesk .default .recorded (.ofNumber 1) (.ofNumber 19)
    (.ofNumber 5) hset
  have hoff : ¬OnSale sellerDesk.ledger.data? Address.marketplace (.ofNumber 19) := by
    rintro ⟨listing, hstored, -⟩
    rw [hlisting] at hstored
    cases hstored
  obtain ⟨hcalls, wallet, hnames, ⟨hwallet, -⟩ | ⟨-, auction, hstored, -⟩⟩ := hdirect hoff
  · exact ⟨set, wallet, hset, hcalls, hwallet.account, hnames⟩
  · have hnone := hauction.symm.trans hstored
    cases hnone

/-- The desk of a ledger where an asset lies in the vault and is being auctioned.  Somebody has bid
for it. -/
def auctionDesk : Desk MemoryLedger :=
  let global := (Place.global.address Address.marketplace).toOption.getD .zero
  let auction : Auction :=
    ⟨.ofNumber 19, .ofNumber 1, 100, 10, 1000, 1050, .ofNumber 6, 120, 3600, AuctionStatus.started.code⟩
  ⟨[((Place.auction (.ofNumber 19)).address Address.marketplace,
      ⟨Address.marketplace, 0, auction.encode⟩),
    (vaultAccount Address.marketplace (.ofNumber 19),
      ⟨Address.tokenProgram, 0, (⟨.ofNumber 19, global, 1⟩ : TokenAccount).encode⟩)].foldl
    (fun l entry => l.insertAccount (entry.1.toOption.getD .zero) entry.2)
    (.empty Address.marketplace), []⟩

/-- An asset that its creator auctions, and that is not on sale, is moved by the direct call out of
the vault. -/
theorem transfer_draws_on_vault :
    ∃ (set : InstructionSet) (vault : Address),
      ((transfer (.ofNumber 19) (.ofNumber 5)).assemble .default .recorded
        (.ofNumber 1)).answer auctionDesk = .ok set ∧
      vaultAccount Address.marketplace (.ofNumber 19) = .ok vault ∧
      ¬OnSale auctionDesk.ledger.data? Address.marketplace (.ofNumber 19) ∧
      set.primary.calls Address.marketplace .transfer = true ∧
      set.primary.accounts[1]? = some (.writable vault) ∧
      associatedAccount (.ofNumber 1) (.ofNumber 19) ≠ .ok vault := by
  have hdraws : (((transfer (.ofNumber 19) (.ofNumber 5)).assemble .default .recorded
      (.ofNumber 1)).answer auctionDesk).toOption.any (fun set =>
        (vaultAccount Address.marketplace (.ofNumber 19)).toOption.any fun vault =>
          !(storedListing? auctionDesk.ledger.data? Address.marketplace (.ofNumber 19)).any
              (·.isLive) &&
          decide (set.primary.calls Address.marketplace .transfer = true ∧
            set.primary.accounts[1]? = some (.writable vault) ∧
            associatedAccount (.ofNumber 1) (.ofNumber 19) ≠ .ok vault)) = true := by
    decide +kernel
  obtain ⟨set, hset, hdraws⟩ := Option.any_eq_true _ _ |>.1 hdraws
  obtain ⟨vault, hvault, hdraws⟩ := Option.any_eq_true _ _ |>.1 hdraws
  rw [Bool.and_eq_true, Bool.not_eq_true', decide_eq_true_eq] at hdraws
  obtain ⟨hoff, hdirect⟩ := hdraws
  refine ⟨set, vault, toOption_eq_some_iff.1 hset, toOption_eq_some_iff.1 hvault, ?_, hdirect⟩
  rw [onSale_iff_any, hoff]
  exact Bool.false_ne_true

end Operation

end AssetMarket
