/-
**Calls of the marketplace program.**

A `Call` is a method together with everything that a caller decides: who acts, which asset, which
other party, which amount.  All that can be derived from this, the places of the market and their
bumps, is filled in when the instruction is built.

The order of the accounts and the layout of the arguments are fixed by the program.

Main definitions:

* `Call` — the calls, with `Call.method` and `Call.actor`;
* `AuctionTerms` — the terms of a new auction;
* `Call.build` — the instruction of a call.
-/

import AssetMarket.Address.Place
import AssetMarket.Instruction
import AssetMarket.Instruction.Method

set_option relaxedAutoImplicit false
set_option autoImplicit false

namespace AssetMarket

/-- The terms of a new auction. -/
@[ext]
structure AuctionTerms where
  startPrice : UInt64
  minIncrease : UInt64
  /-- In seconds. -/
  duration : Int64
  /-- Whether the asset stays on sale while the auction runs. -/
  reserved : Bool
  deriving DecidableEq

/-- A method with what its caller decides.  The first address is always the one that acts and
signs.  -/
inductive Call where
  | openMarket (admin : Address)
  | updateFee (admin : Address) (fee : UInt64)
  | addTreasury (admin recipient : Address) (rate : UInt64)
  | removeTreasury (admin recipient : Address)
  | initUser (owner : Address)
  | initListing (payer mint : Address)
  | initOffer (payer mint : Address)
  | initAuction (payer mint : Address)
  | list (owner mint tokenAccount : Address) (price : UInt64)
  | delist (owner mint tokenAccount : Address)
  | setPrice (owner mint : Address) (price : UInt64)
  | transfer (owner mint tokenAccount recipient recipientAccount : Address)
  | transferFromVault (owner mint recipient recipientAccount : Address)
  | purchase (buyer seller mint buyerAccount : Address) (remaining : List Address)
  | deposit (owner : Address) (amount : UInt64)
  | withdraw (owner : Address) (amount : UInt64)
  | makeOffer (owner mint : Address) (price : UInt64)
  | cancelOffer (owner mint : Address)
  | acceptOffer (seller buyer mint buyerAccount : Address) (remaining : List Address)
  | createAuction (owner mint tokenAccount : Address) (terms : AuctionTerms)
  | placeBid (bidder mint outBidder : Address) (price : UInt64)
  | claimAuction (bidder creator mint bidderAccount : Address) (remaining : List Address)
  | updateReserve (creator mint : Address) (price : UInt64)
  | cancelAuction (creator mint tokenAccount : Address)
  deriving DecidableEq

namespace Call

/-- The method of a call. -/
def method : Call → Method
  | .openMarket .. => .openMarket
  | .updateFee .. => .updateFee
  | .addTreasury .. => .addTreasury
  | .removeTreasury .. => .removeTreasury
  | .initUser .. => .initUser
  | .initListing .. => .initListing
  | .initOffer .. => .initOffer
  | .initAuction .. => .initAuction
  | .list .. => .list
  | .delist .. => .delist
  | .setPrice .. => .setPrice
  | .transfer .. => .transfer
  | .transferFromVault .. => .transferFromVault
  | .purchase .. => .purchase
  | .deposit .. => .deposit
  | .withdraw .. => .withdraw
  | .makeOffer .. => .makeOffer
  | .cancelOffer .. => .cancelOffer
  | .acceptOffer .. => .acceptOffer
  | .createAuction .. => .createAuction
  | .placeBid .. => .placeBid
  | .claimAuction .. => .claimAuction
  | .updateReserve .. => .updateReserve
  | .cancelAuction .. => .cancelAuction

/-- Who acts, signs and pays. -/
def actor : Call → Address
  | .openMarket admin => admin
  | .updateFee admin _ => admin
  | .addTreasury admin _ _ => admin
  | .removeTreasury admin _ => admin
  | .initUser owner => owner
  | .initListing payer _ => payer
  | .initOffer payer _ => payer
  | .initAuction payer _ => payer
  | .list owner _ _ _ => owner
  | .delist owner _ _ => owner
  | .setPrice owner _ _ => owner
  | .transfer owner _ _ _ _ => owner
  | .transferFromVault owner _ _ _ => owner
  | .purchase buyer _ _ _ _ => buyer
  | .deposit owner _ => owner
  | .withdraw owner _ => owner
  | .makeOffer owner _ _ => owner
  | .cancelOffer owner _ => owner
  | .acceptOffer seller _ _ _ _ => seller
  | .createAuction owner _ _ _ => owner
  | .placeBid bidder _ _ _ => bidder
  | .claimAuction bidder _ _ _ _ => bidder
  | .updateReserve creator _ _ => creator
  | .cancelAuction creator _ _ => creator

/-! ### Building -/

open AccountRef (signer writable readOnly)

/-- The instruction of a call with these accounts and these arguments after the opcode. -/
def instruction (call : Call) (market : Address) (accounts : List AccountRef) (args : Bytes) :
    Instruction :=
  { program := market, accounts := accounts, data := call.method.opcode ++ args }

/-- The instruction of a call that creates the record of a mint. -/
def initRecord (call : Call) (market payer mint : Address) (record : Derived) : Instruction :=
  call.instruction market
    [signer payer, writable record.address, readOnly Address.systemProgram,
     readOnly Address.rentAccount]
    (mint.bytes ++ [record.bump])

/-- The instruction of a call that moves coins into escrow or out of it. -/
def moveEscrow (call : Call) (market owner : Address) (amount : UInt64) :
    Except MarketError Instruction := do
  let user ← (Place.user owner).find market
  let escrow ← Place.escrow.find market
  return call.instruction market
    [signer owner, writable user.address, writable escrow.address, readOnly Address.systemProgram]
    ([user.bump, escrow.bump] ++ Bytes.ofU64 amount)

/-- The instruction of a call, for a marketplace program. -/
def build (market : Address) (call : Call) : Except MarketError Instruction :=
  match call with
  | .openMarket admin => do
      let global ← Place.global.find market
      let escrow ← Place.escrow.find market
      return call.instruction market
        [signer admin, writable global.address, writable escrow.address,
         readOnly Address.systemProgram, readOnly Address.rentAccount]
        [global.bump, escrow.bump]
  | .updateFee admin fee => do
      let global ← Place.global.find market
      return call.instruction market [signer admin, writable global.address]
        ([global.bump] ++ Bytes.ofU64 fee)
  | .addTreasury admin recipient rate => do
      let global ← Place.global.find market
      return call.instruction market [signer admin, writable global.address]
        ([global.bump] ++ recipient.bytes ++ Bytes.ofU64 rate)
  | .removeTreasury admin recipient => do
      let global ← Place.global.find market
      return call.instruction market [signer admin, writable global.address]
        ([global.bump] ++ recipient.bytes)
  | .initUser owner => do
      let user ← (Place.user owner).find market
      return call.instruction market
        [signer owner, writable user.address, readOnly Address.systemProgram,
         readOnly Address.rentAccount]
        [user.bump]
  | .initListing payer mint => do
      let listing ← (Place.listing mint).find market
      return call.initRecord market payer mint listing
  | .initOffer payer mint => do
      let offer ← (Place.offer mint payer).find market
      return call.initRecord market payer mint offer
  | .initAuction payer mint => do
      let auction ← (Place.auction mint).find market
      return call.initRecord market payer mint auction
  | .list owner mint tokenAccount price => do
      let global ← Place.global.find market
      let listing ← (Place.listing mint).find market
      let auction ← (Place.auction mint).find market
      let metadata ← (Place.metadata mint).find market
      let vault ← (Place.tokenAccount global.address mint).find market
      return call.instruction market
        [signer owner, writable global.address, writable listing.address, writable tokenAccount,
         writable vault.address, readOnly mint, writable metadata.address,
         readOnly Address.tokenProgram, readOnly Address.metadataProgram,
         writable auction.address]
        ([global.bump, listing.bump, auction.bump] ++ Bytes.ofU64 price)
  | .delist owner mint tokenAccount => do
      let global ← Place.global.find market
      let listing ← (Place.listing mint).find market
      let auction ← (Place.auction mint).find market
      let vault ← (Place.tokenAccount global.address mint).find market
      return call.instruction market
        [signer owner, writable global.address, writable listing.address, writable tokenAccount,
         writable vault.address, readOnly mint, readOnly Address.tokenProgram,
         writable auction.address]
        [global.bump, listing.bump]
  | .setPrice owner mint price => do
      let listing ← (Place.listing mint).find market
      return call.instruction market [signer owner, writable listing.address, readOnly mint]
        ([listing.bump] ++ Bytes.ofU64 price)
  | .transfer owner mint tokenAccount recipient recipientAccount =>
      return call.instruction market
        [signer owner, writable tokenAccount, writable recipient, writable recipientAccount,
         readOnly mint, readOnly Address.tokenProgram]
        []
  | .transferFromVault owner mint recipient recipientAccount => do
      let global ← Place.global.find market
      let listing ← (Place.listing mint).find market
      let auction ← (Place.auction mint).find market
      let vault ← (Place.tokenAccount global.address mint).find market
      return call.instruction market
        [signer owner, writable global.address, writable listing.address, writable recipient,
         writable recipientAccount, writable vault.address, readOnly mint,
         readOnly Address.tokenProgram, writable auction.address]
        [global.bump, listing.bump]
  | .purchase buyer seller mint buyerAccount remaining => do
      let global ← Place.global.find market
      let listing ← (Place.listing mint).find market
      let buyerUser ← (Place.user buyer).find market
      let sellerUser ← (Place.user seller).find market
      let auction ← (Place.auction mint).find market
      let metadata ← (Place.metadata mint).find market
      let vault ← (Place.tokenAccount global.address mint).find market
      return call.instruction market
        ([signer buyer, writable global.address, writable listing.address,
          writable buyerUser.address, writable buyerAccount, writable vault.address,
          writable seller, writable sellerUser.address, readOnly mint,
          writable metadata.address, readOnly Address.tokenProgram,
          readOnly Address.systemProgram, readOnly Address.metadataProgram,
          writable auction.address]
          ++ remaining.map writable)
        [global.bump, listing.bump, sellerUser.bump, buyerUser.bump]
  | .deposit owner amount => call.moveEscrow market owner amount
  | .withdraw owner amount => call.moveEscrow market owner amount
  | .makeOffer owner mint price => do
      let listing ← (Place.listing mint).find market
      let offer ← (Place.offer mint owner).find market
      let user ← (Place.user owner).find market
      let escrow ← Place.escrow.find market
      return call.instruction market
        [signer owner, writable listing.address, writable offer.address, readOnly mint,
         writable user.address, writable escrow.address, readOnly Address.systemProgram]
        ([listing.bump, offer.bump, user.bump, escrow.bump] ++ Bytes.ofU64 price)
  | .cancelOffer owner mint => do
      let offer ← (Place.offer mint owner).find market
      return call.instruction market [signer owner, writable offer.address, readOnly mint]
        [offer.bump]
  | .acceptOffer seller buyer mint buyerAccount remaining => do
      let global ← Place.global.find market
      let listing ← (Place.listing mint).find market
      let offer ← (Place.offer mint buyer).find market
      let sellerUser ← (Place.user seller).find market
      let buyerUser ← (Place.user buyer).find market
      let escrow ← Place.escrow.find market
      let auction ← (Place.auction mint).find market
      let metadata ← (Place.metadata mint).find market
      let vault ← (Place.tokenAccount global.address mint).find market
      return call.instruction market
        ([signer seller, writable listing.address, writable buyer, writable offer.address,
          writable sellerUser.address, readOnly mint, writable global.address,
          writable buyerUser.address, writable buyerAccount, writable vault.address,
          writable escrow.address, writable metadata.address, readOnly Address.tokenProgram,
          readOnly Address.systemProgram, readOnly Address.metadataProgram,
          writable auction.address]
          ++ remaining.map writable)
        [global.bump, listing.bump, offer.bump, buyerUser.bump, sellerUser.bump, escrow.bump]
  | .createAuction owner mint tokenAccount terms => do
      let global ← Place.global.find market
      let auction ← (Place.auction mint).find market
      let listing ← (Place.listing mint).find market
      let vault ← (Place.tokenAccount global.address mint).find market
      return call.instruction market
        [signer owner, writable global.address, writable auction.address, writable tokenAccount,
         writable vault.address, readOnly mint, readOnly Address.tokenProgram,
         writable listing.address]
        ([global.bump, auction.bump, listing.bump] ++ Bytes.ofU64 terms.startPrice
          ++ Bytes.ofU64 terms.minIncrease ++ Bytes.ofI64 terms.duration
          ++ [if terms.reserved then 1 else 0])
  | .placeBid bidder mint outBidder price => do
      let auction ← (Place.auction mint).find market
      let escrow ← Place.escrow.find market
      let listing ← (Place.listing mint).find market
      return call.instruction market
        [signer bidder, writable auction.address, readOnly mint, writable escrow.address,
         writable outBidder, readOnly Address.systemProgram, writable listing.address]
        ([auction.bump, escrow.bump] ++ Bytes.ofU64 price)
  | .claimAuction bidder creator mint bidderAccount remaining => do
      let global ← Place.global.find market
      let auction ← (Place.auction mint).find market
      let escrow ← Place.escrow.find market
      let bidderUser ← (Place.user bidder).find market
      let creatorUser ← (Place.user creator).find market
      let metadata ← (Place.metadata mint).find market
      let vault ← (Place.tokenAccount global.address mint).find market
      return call.instruction market
        ([signer bidder, writable global.address, writable auction.address,
          writable bidderAccount, writable vault.address, readOnly mint,
          writable escrow.address, writable bidderUser.address, writable creator,
          writable creatorUser.address, writable metadata.address,
          readOnly Address.tokenProgram, readOnly Address.systemProgram,
          readOnly Address.metadataProgram]
          ++ remaining.map writable)
        [global.bump, auction.bump, escrow.bump]
  | .updateReserve creator mint price => do
      let auction ← (Place.auction mint).find market
      return call.instruction market [signer creator, writable auction.address, readOnly mint]
        ([auction.bump] ++ Bytes.ofU64 price)
  | .cancelAuction creator mint tokenAccount => do
      let global ← Place.global.find market
      let auction ← (Place.auction mint).find market
      let listing ← (Place.listing mint).find market
      let vault ← (Place.tokenAccount global.address mint).find market
      return call.instruction market
        [signer creator, writable global.address, writable auction.address,
         writable tokenAccount, writable vault.address, readOnly mint,
         readOnly Address.tokenProgram, writable listing.address]
        [global.bump, auction.bump]

end Call

end AssetMarket
