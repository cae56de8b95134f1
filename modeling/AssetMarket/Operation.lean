/-
**What a person can do in the market.**

An operation is what somebody wants to happen, in their own terms: buy this asset, bid so much.
It says nothing of accounts; those are found when the operation is assembled.  Some operations
work on records that need not exist yet and are created on the way.

Main definitions:

* `Operation` — the operations, with `Operation.name` and `Operation.mint?`;
* `LazyKind`, `LazyRecord` — a record that is created when it is first needed;
* `Operation.lazyKinds`, `Operation.lazyRecords` — the records that an operation needs.

Main results:

* `Operation.mint_of_lazyRecords` — such a record is the payer's own or one of the operation's
  mint.
-/

import AssetMarket.Address.Place
import AssetMarket.Instruction.Call

set_option relaxedAutoImplicit false
set_option autoImplicit false

namespace AssetMarket

/-- Something that a person can do in the market. -/
inductive Operation where
  | openMarket
  | updateFee (fee : UInt64)
  | addTreasury (recipient : Address) (rate : UInt64)
  | removeTreasury (recipient : Address)
  | initUser
  | initListing (mint : Address)
  | list (mint : Address) (price : UInt64)
  | delist (mint : Address)
  | setPrice (mint : Address) (price : UInt64)
  | transfer (mint recipient : Address)
  | purchase (mint : Address)
  | deposit (amount : UInt64)
  | withdraw (amount : UInt64)
  | initOffer (mint : Address)
  | makeOffer (mint : Address) (price : UInt64)
  | cancelOffer (mint : Address)
  | acceptOffer (mint buyer : Address)
  | initAuction (mint : Address)
  | createAuction (mint : Address) (terms : AuctionTerms)
  | placeBid (mint : Address) (price : UInt64)
  | claimAuction (mint : Address)
  | updateReserve (mint : Address) (price : UInt64)
  | cancelAuction (mint : Address)
  deriving DecidableEq

/-- The kinds of records that are created when they are first needed. -/
inductive LazyKind where
  /-- The user account of the payer. -/
  | userAccount
  | listing
  | auction
  /-- The offer of the payer. -/
  | offer
  deriving DecidableEq

/-- A record that is created when it is first needed. -/
inductive LazyRecord where
  /-- The user account of the payer. -/
  | userAccount
  /-- The listing of a mint. -/
  | listing (mint : Address)
  /-- The auction of a mint. -/
  | auction (mint : Address)
  /-- The offer of the payer for a mint. -/
  | offer (mint : Address)
  deriving DecidableEq

namespace LazyRecord

/-- The name of the kind of record. -/
def name : LazyRecord → String
  | .userAccount => "UserAccount"
  | .listing _ => "Listing"
  | .auction _ => "Auction"
  | .offer _ => "Offer"

/-- Where the record lives. -/
def place (payer : Address) : LazyRecord → Place
  | .userAccount => .user payer
  | .listing mint => .listing mint
  | .auction mint => .auction mint
  | .offer mint => .offer mint payer

/-- The call that creates the record. -/
def call (payer : Address) : LazyRecord → Call
  | .userAccount => .initUser payer
  | .listing mint => .initListing payer mint
  | .auction mint => .initAuction payer mint
  | .offer mint => .initOffer payer mint

/-- The mint that the record is about. -/
def mint? : LazyRecord → Option Address
  | .userAccount => none
  | .listing mint => some mint
  | .auction mint => some mint
  | .offer mint => some mint

end LazyRecord

namespace Operation

/-- The name of an operation on the command line. -/
def name : Operation → String
  | .openMarket => "initialize"
  | .updateFee .. => "update-fee"
  | .addTreasury .. => "add-treasury"
  | .removeTreasury .. => "remove-treasury"
  | .initUser => "init-user"
  | .initListing .. => "init-listing"
  | .list .. => "list"
  | .delist .. => "delist"
  | .setPrice .. => "set-price"
  | .transfer .. => "transfer"
  | .purchase .. => "purchase"
  | .deposit .. => "deposit"
  | .withdraw .. => "withdraw"
  | .initOffer .. => "init-offer"
  | .makeOffer .. => "make-offer"
  | .cancelOffer .. => "cancel-offer"
  | .acceptOffer .. => "accept-offer"
  | .initAuction .. => "init-auction"
  | .createAuction .. => "create-auction"
  | .placeBid .. => "place-bid"
  | .claimAuction .. => "claim-auction"
  | .updateReserve .. => "update-reserve"
  | .cancelAuction .. => "cancel-auction"

/-- The mint that an operation is about. -/
def mint? : Operation → Option Address
  | .initListing mint => some mint
  | .list mint _ => some mint
  | .delist mint => some mint
  | .setPrice mint _ => some mint
  | .transfer mint _ => some mint
  | .purchase mint => some mint
  | .initOffer mint => some mint
  | .makeOffer mint _ => some mint
  | .cancelOffer mint => some mint
  | .acceptOffer mint _ => some mint
  | .initAuction mint => some mint
  | .createAuction mint _ => some mint
  | .placeBid mint _ => some mint
  | .claimAuction mint => some mint
  | .updateReserve mint _ => some mint
  | .cancelAuction mint => some mint
  | _ => none

/-- The kinds of records that must be there before an operation is carried out, in the order in
which they are created. -/
def lazyKinds : Operation → List LazyKind
  | .deposit _ => [.userAccount]
  | .withdraw _ => [.userAccount]
  | .purchase _ => [.userAccount]
  | .cancelOffer _ => [.userAccount]
  | .acceptOffer _ _ => [.userAccount]
  | .placeBid _ _ => [.userAccount]
  | .claimAuction _ => [.userAccount]
  | .list _ _ => [.userAccount, .listing, .auction]
  | .createAuction _ _ => [.userAccount, .listing, .auction]
  | .makeOffer _ _ => [.userAccount, .offer]
  | _ => []

/-- The records that must be there before an operation is carried out, in the order in which they
are created.  -/
def lazyRecords : Operation → List LazyRecord
  | .deposit _ => [.userAccount]
  | .withdraw _ => [.userAccount]
  | .purchase _ => [.userAccount]
  | .cancelOffer _ => [.userAccount]
  | .acceptOffer _ _ => [.userAccount]
  | .placeBid _ _ => [.userAccount]
  | .claimAuction _ => [.userAccount]
  | .list mint _ => [.userAccount, .listing mint, .auction mint]
  | .createAuction mint _ => [.userAccount, .listing mint, .auction mint]
  | .makeOffer mint _ => [.userAccount, .offer mint]
  | _ => []

theorem mint_of_lazyRecords {op : Operation} {r : LazyRecord} (h : r ∈ op.lazyRecords) :
    r.mint? = none ∨ r.mint? = op.mint? := by
  have hall : op.lazyRecords.all (fun r => r.mint? == none || r.mint? == op.mint?) = true := by
    cases op <;> simp [lazyRecords, LazyRecord.mint?, mint?]
  simpa using List.all_eq_true.1 hall r h

end Operation

end AssetMarket
