/-
**Events.**

An event is what an instruction of the past did, in the terms of the market: who acted, what was
done with which asset, and for how much.

Main definitions:

* `Action` — what was done;
* `Event` — an action with who did it and when;
* `Event.toJson`, `Event.describe` — events as JSON and as a line of text.
-/

import AssetMarket.Json
import AssetMarket.PastTransaction

set_option relaxedAutoImplicit false
set_option autoImplicit false

namespace AssetMarket

/-- What an instruction did. -/
inductive Action where
  | openMarket
  | updateFee (fee : UInt64)
  | addTreasury (recipient : Address) (rate : UInt64)
  | removeTreasury (recipient : Address)
  | initUser
  | initListing (mint : Address)
  | list (mint : Address) (price : UInt64)
  | delist (mint : Address)
  | setPrice (mint : Address) (price : UInt64)
  | transfer (mint recipient : Address)
  | transferFromVault (mint recipient : Address)
  | purchase (mint buyer seller : Address) (price : UInt64)
  | deposit (amount : UInt64)
  | withdraw (amount : UInt64)
  | initOffer (mint : Address)
  /-- An offer: `price` left the buyer's wallet, `offerPrice` is what was offered. -/
  | makeOffer (mint : Address) (price offerPrice : UInt64)
  | cancelOffer (mint : Address)
  | acceptOffer (mint buyer seller : Address) (price : UInt64)
  | initAuction (mint : Address)
  | createAuction (mint : Address) (startPrice minIncrease : UInt64) (duration : Int64)
      (endDate : Option Int64)
  /-- A bid: `price` left the bidder's wallet, `bid` is what was bid. -/
  | placeBid (mint : Address) (price bid : UInt64)
  | claimAuction (mint buyer seller : Address) (price : UInt64)
  | updateReserve (mint : Address) (price : UInt64)
  | cancelAuction (mint : Address)
  deriving DecidableEq

/-- An action with who did it and when. -/
@[ext]
structure Event where
  signature : String
  blockTime : Option Int64
  signer : Address
  fingerprint : String
  action : Action
  deriving DecidableEq

/-! ### As JSON -/

namespace Action

/-- The word for an action. -/
def name : Action → String
  | .openMarket => "initialize"
  | .updateFee .. => "update_fee"
  | .addTreasury .. => "add_treasury"
  | .removeTreasury .. => "remove_treasury"
  | .initUser => "init_user"
  | .initListing .. => "init_listing"
  | .list .. => "list"
  | .delist .. => "delist"
  | .setPrice .. => "set_price"
  | .transfer .. => "transfer"
  | .transferFromVault .. => "transfer_from_vault"
  | .purchase .. => "purchase"
  | .deposit .. => "deposit"
  | .withdraw .. => "withdraw"
  | .initOffer .. => "init_offer"
  | .makeOffer .. => "make_offer"
  | .cancelOffer .. => "cancel_offer"
  | .acceptOffer .. => "accept_offer"
  | .initAuction .. => "init_auction"
  | .createAuction .. => "create_auction"
  | .placeBid .. => "place_bid"
  | .claimAuction .. => "claim_auction"
  | .updateReserve .. => "update_reserve"
  | .cancelAuction .. => "cancel_auction"

/-- The members of a settled trade. -/
def jsonTrade (mint buyer seller : Address) (price : UInt64) : List (String × Json) :=
  [("mint", .str mint.text), ("buyer", .str buyer.text), ("seller", .str seller.text),
   ("price", .int price.toNat)]

/-- What an action is about, with names. -/
def jsonFields : Action → List (String × Json)
  | .openMarket => []
  | .updateFee fee => [("sol_fee", .int fee.toNat)]
  | .addTreasury recipient rate =>
      [("address", .str recipient.text), ("rate", .int rate.toNat)]
  | .removeTreasury recipient => [("address", .str recipient.text)]
  | .initUser => []
  | .initListing mint => [("mint", .str mint.text)]
  | .list mint price => [("mint", .str mint.text), ("price", .int price.toNat)]
  | .delist mint => [("mint", .str mint.text)]
  | .setPrice mint price => [("mint", .str mint.text), ("price", .int price.toNat)]
  | .transfer mint recipient => [("mint", .str mint.text), ("recipient", .str recipient.text)]
  | .transferFromVault mint recipient =>
      [("mint", .str mint.text), ("recipient", .str recipient.text)]
  | .purchase mint buyer seller price => jsonTrade mint buyer seller price
  | .deposit amount => [("amount", .int amount.toNat)]
  | .withdraw amount => [("amount", .int amount.toNat)]
  | .initOffer mint => [("mint", .str mint.text)]
  | .makeOffer mint price offerPrice =>
      [("mint", .str mint.text), ("price", .int price.toNat),
       ("offer_price", .int offerPrice.toNat)]
  | .cancelOffer mint => [("mint", .str mint.text)]
  | .acceptOffer mint buyer seller price => jsonTrade mint buyer seller price
  | .initAuction mint => [("mint", .str mint.text)]
  | .createAuction mint startPrice minIncrease duration endDate =>
      [("mint", .str mint.text), ("start_price", .int startPrice.toNat),
       ("min_increase", .int minIncrease.toNat), ("duration", .int duration.toInt),
       ("end_date", endDate.elim .null fun t => .int t.toInt)]
  | .placeBid mint price bid =>
      [("mint", .str mint.text), ("price", .int price.toNat), ("bid", .int bid.toNat)]
  | .claimAuction mint buyer seller price => jsonTrade mint buyer seller price
  | .updateReserve mint price => [("mint", .str mint.text), ("price", .int price.toNat)]
  | .cancelAuction mint => [("mint", .str mint.text)]

/-- An action as part of a line of text. -/
def describe : Action → String
  | .openMarket => "initialize"
  | .updateFee fee => s!"update fee → {fee}"
  | .addTreasury recipient rate => s!"add treasury {recipient} @ {rate}"
  | .removeTreasury recipient => s!"remove treasury {recipient}"
  | .initUser => "init user"
  | .initListing mint => s!"init listing {mint}"
  | .list mint price => s!"list {mint} for {price}"
  | .delist mint => s!"delist {mint}"
  | .setPrice mint price => s!"set price {mint} → {price}"
  | .transfer mint recipient => s!"transfer {mint} → {recipient}"
  | .transferFromVault mint recipient => s!"transfer from vault {mint} → {recipient}"
  | .purchase mint _ seller price => s!"purchase {mint} from {seller} for {price}"
  | .deposit amount => s!"deposit {amount}"
  | .withdraw amount => s!"withdraw {amount}"
  | .initOffer mint => s!"init offer {mint}"
  | .makeOffer mint _ offerPrice => s!"offer {offerPrice} on {mint}"
  | .cancelOffer mint => s!"cancel offer {mint}"
  | .acceptOffer mint buyer _ price => s!"accept offer {mint} from {buyer} for {price}"
  | .initAuction mint => s!"init auction {mint}"
  | .createAuction mint startPrice _ duration _ =>
      s!"auction {mint} from {startPrice} for {duration}s"
  | .placeBid mint _ bid => s!"bid {bid} on {mint}"
  | .claimAuction mint _ _ price => s!"claim {mint} for {price}"
  | .updateReserve mint price => s!"reserve {mint} → {price}"
  | .cancelAuction mint => s!"cancel auction {mint}"

end Action

namespace Event

/-- An event as JSON; what the action is about stands beside the rest. -/
def toJson (e : Event) : Json :=
  .record
    ([("signature", .str e.signature), ("block_time", e.blockTime.elim .null fun t => .int t.toInt),
      ("signer", .str e.signer.text), ("fingerprint", .str e.fingerprint),
      ("action", .str e.action.name)]
      ++ e.action.jsonFields)

/-- An event as a line of text. -/
def describe (e : Event) : String := s!"{e.signature} {e.signer} {e.action.describe}"

end Event

end AssetMarket
