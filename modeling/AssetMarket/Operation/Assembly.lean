/-
**Assembling operations.**

To turn an operation into instructions a client finds out where the asset is, who the other party
is, who receives fees and royalties, and whether the account that receives the asset must be
opened first.

An asset is in its owner's wallet or in the vault.  What lies in the vault belongs to the seller
of a live listing and to the creator of a live auction, and to nobody else.

Main definitions:

* `AssetLocation`, `locate` — where an asset of an owner is;
* `ensureAccount` — the associated account of an owner, and how to open it if need be;
* `CreatorSource`, `remainingAccounts` — who receives fees and royalties;
* `Operation.assemble` — the instructions of an operation.

Main results:

* `AssetLocation.account_wallet`, `AssetLocation.account_vault` — the token account of each place.
-/

import AssetMarket.Context
import AssetMarket.Inquiry
import AssetMarket.Instruction.Call
import AssetMarket.Metadata
import AssetMarket.Operation
import AssetMarket.Record
import AssetMarket.TokenAccount

set_option relaxedAutoImplicit false
set_option autoImplicit false

namespace AssetMarket

/-! ### Where an asset is -/

/-- Where an asset of an owner is, with the token account that holds it. -/
inductive AssetLocation where
  | wallet (account : Address)
  /-- In the vault, where the owner has deposited it. -/
  | vault (account : Address)
  deriving DecidableEq

namespace AssetLocation

/-- The token account that holds the asset. -/
def account : AssetLocation → Address
  | .wallet account => account
  | .vault account => account

@[simp] theorem account_wallet (a : Address) : (wallet a).account = a := rfl

@[simp] theorem account_vault (a : Address) : (vault a).account = a := rfl

end AssetLocation

/-- The token account at an address, if there is one that holds some of a mint. -/
def holding? (account mint : Address) : Inquiry (Option TokenAccount) := do
  let token ← Inquiry.content? .token TokenAccount.decode account
  return token.filter (·.holds mint)

/-- The listing of a mint, if there is one. -/
def listing? (market mint : Address) : Inquiry (Option Listing) := do
  Inquiry.record? Listing.decode (← (Place.listing mint).address market)

/-- The auction of a mint, if there is one. -/
def auction? (market mint : Address) : Inquiry (Option Auction) := do
  Inquiry.record? Auction.decode (← (Place.auction mint).address market)

/-- Those who have deposited an asset in the vault: the seller of a live listing, then the creator
of a live auction.  -/
def depositors (market mint : Address) : Inquiry (List Address) := do
  let listing ← listing? market mint
  let auction ← auction? market mint
  return ((listing.filter (·.isLive)).map (·.seller)).toList
    ++ ((auction.filter (·.isLive)).map (·.creator)).toList

/-- Where an asset is that is not in its owner's wallet. -/
def locateInVault (market owner mint : Address) : Inquiry AssetLocation := do
  let vault ← vaultAccount market mint
  if (← holding? vault mint).isSome then
    if owner ∈ (← depositors market mint) then return .vault vault
  .fail (.assetNotOwned mint.text owner.text)

/-- Where an asset of an owner is.  The wallet is looked at first; an account at the place of the
wallet that belongs to somebody else is refused.  -/
def locate (market owner mint : Address) : Inquiry AssetLocation := do
  let wallet ← associatedAccount owner mint
  match ← holding? wallet mint with
  | some token =>
      TokenAccount.checkOwner token.owner owner mint
      return .wallet wallet
  | none => locateInVault market owner mint

/-! ### Accounts and recipients -/

/-- The associated account of an owner, and the instruction that opens it unless it is open. -/
def ensureAccount (verbose : Bool) (payer owner mint : Address) :
    Inquiry (Address × Option Instruction) := do
  let account ← associatedAccount owner mint
  match ← Inquiry.data? .record account with
  | some _ => return (account, none)
  | none =>
      Inquiry.remark verbose s!"  ℹ️  Creating associated account {account} for {owner}"
      let (create, _) ← createTokenAccount payer owner mint
      return (account, some create)

/-- Where the creators of an asset are found. -/
inductive CreatorSource where
  /-- In the metadata of the asset. -/
  | recorded
  /-- In a list that is the same for all assets. -/
  | fixed (creators : List Address)
  deriving DecidableEq

/-- The metadata of an asset, which must be there. -/
def assetMetadata (mint : Address) : Inquiry Metadata := do
  let address ← metadataAddress mint
  match ← Inquiry.content? .metadata Metadata.decode address with
  | some m => return m
  | none => .fail (.recordAbsent Metadata.kindName address.text)

/-- The creators of an asset. -/
def CreatorSource.creators (source : CreatorSource) (mint : Address) : Inquiry (List Address) :=
  match source with
  | .recorded => return (← assetMetadata mint).creatorAddresses
  | .fixed creators => return creators

/-- Who receives fees and royalties: the treasury in the order of its slots, then the creators. -/
def remainingAccounts (market : Address) (source : CreatorSource) (mint : Address) :
    Inquiry (List Address) := do
  let global ← Place.global.address market
  let config ← Inquiry.required GlobalConfig.kindName GlobalConfig.decode global
  return config.treasury.addresses ++ (← source.creators mint)

/-! ### Operations -/

/-- The listing of a mint, which must be there. -/
def requireListing (market mint : Address) : Inquiry Listing := do
  Inquiry.required Listing.kindName Listing.decode (← (Place.listing mint).address market)

/-- The auction of a mint, which must be there. -/
def requireAuction (market mint : Address) : Inquiry Auction := do
  Inquiry.required Auction.kindName Auction.decode (← (Place.auction mint).address market)

/-- The token account from which an owner deposits an asset.  For one that is in the vault already
it is still the owner's own.  -/
def depositSource (market owner mint : Address) : Inquiry Address := do
  match ← locate market owner mint with
  | .wallet account => return account
  | .vault _ => associatedAccount owner mint

/-- The instruction that opens the vault's account for a mint unless it is open. -/
def openVault? (ctx : Context) (payer mint : Address) : Inquiry (Option Instruction) := do
  let global ← Place.global.address ctx.market
  return (← ensureAccount ctx.verbose payer global mint).2

/-- A call with, in front of it, an instruction that opens an account if one is needed. -/
def Call.after (call : Call) (market : Address) (create : Option Instruction) :
    Except MarketError InstructionSet :=
  return { setup := create.toList, primary := ← call.build market }

namespace Operation

/-- The instructions of an operation, without those that create its records. -/
def assemble (ctx : Context) (source : CreatorSource) (payer : Address) :
    Operation → Inquiry InstructionSet
  | .openMarket => (Call.openMarket payer).after ctx.market none
  | .updateFee fee => (Call.updateFee payer fee).after ctx.market none
  | .addTreasury recipient rate => (Call.addTreasury payer recipient rate).after ctx.market none
  | .removeTreasury recipient => (Call.removeTreasury payer recipient).after ctx.market none
  | .initUser => (Call.initUser payer).after ctx.market none
  | .initListing mint => (Call.initListing payer mint).after ctx.market none
  | .initOffer mint => (Call.initOffer payer mint).after ctx.market none
  | .initAuction mint => (Call.initAuction payer mint).after ctx.market none
  | .list mint price => do
      let account ← depositSource ctx.market payer mint
      let create ← openVault? ctx payer mint
      (Call.list payer mint account price).after ctx.market create
  | .delist mint => do
      let _ ← locate ctx.market payer mint
      let (account, create) ← ensureAccount ctx.verbose payer payer mint
      (Call.delist payer mint account).after ctx.market create
  | .setPrice mint price => (Call.setPrice payer mint price).after ctx.market none
  | .transfer mint recipient => do
      let location ← locate ctx.market payer mint
      let (account, create) ← ensureAccount ctx.verbose payer recipient mint
      if (← listing? ctx.market mint).any (·.isLive) then
        (Call.transferFromVault payer mint recipient account).after ctx.market create
      else (Call.transfer payer mint location.account recipient account).after ctx.market create
  | .purchase mint => do
      let listing ← requireListing ctx.market mint
      let _ ← locate ctx.market listing.seller mint
      let (account, create) ← ensureAccount ctx.verbose payer payer mint
      let remaining ← remainingAccounts ctx.market source mint
      (Call.purchase payer listing.seller mint account remaining).after ctx.market create
  | .deposit amount => (Call.deposit payer amount).after ctx.market none
  | .withdraw amount => (Call.withdraw payer amount).after ctx.market none
  | .makeOffer mint price => (Call.makeOffer payer mint price).after ctx.market none
  | .cancelOffer mint => (Call.cancelOffer payer mint).after ctx.market none
  | .acceptOffer mint buyer => do
      let _ ← locate ctx.market payer mint
      let (account, create) ← ensureAccount ctx.verbose payer buyer mint
      let remaining ← remainingAccounts ctx.market source mint
      (Call.acceptOffer payer buyer mint account remaining).after ctx.market create
  | .createAuction mint terms => do
      let account ← depositSource ctx.market payer mint
      let create ← openVault? ctx payer mint
      (Call.createAuction payer mint account terms).after ctx.market create
  | .placeBid mint price => do
      let auction ← requireAuction ctx.market mint
      let outBidder := if auction.hasBid then auction.lastBidder else payer
      (Call.placeBid payer mint outBidder price).after ctx.market none
  | .claimAuction mint => do
      let auction ← requireAuction ctx.market mint
      let _ ← locate ctx.market auction.creator mint
      let (account, create) ← ensureAccount ctx.verbose payer payer mint
      let remaining ← remainingAccounts ctx.market source mint
      (Call.claimAuction payer auction.creator mint account remaining).after ctx.market create
  | .updateReserve mint price => (Call.updateReserve payer mint price).after ctx.market none
  | .cancelAuction mint => do
      let _ ← locate ctx.market payer mint
      let (account, create) ← ensureAccount ctx.verbose payer payer mint
      (Call.cancelAuction payer mint account).after ctx.market create

end Operation

end AssetMarket
