/-
**The layout of an instruction.**

`Call.build` looks for the places of the market one after the other and stops at the first that has
no address.  Once all are found nothing else can go wrong, and what is built depends on nothing but
where the places are.  This module states that dependence as two plain functions, the accounts and
the arguments of a call, so that facts about instructions need no search.

Main definitions:

* `Place.site` — where a place is;
* `Call.places` — the places that a call looks for;
* `Call.accountsAt`, `Call.bumpsAt`, `Call.values`, `Call.argsAt` — what stands in the instruction
  of a call, given where the places are.

Main results:

* `Place.find_bind_eq_ok_iff` — a search that goes on after a place was found;
* `Call.build_eq_ok_iff` — **an instruction is built exactly if all places are found**, and then it
  is laid out like this;
* `Call.length_argsAt` — the arguments fill the width of the method.
-/

import AssetMarket.Instruction.Call
import AssetMarket.Instruction.Signature

set_option relaxedAutoImplicit false
set_option autoImplicit false

namespace AssetMarket

/-! ### Where places are -/

namespace Place

/-- Where a place is.  One that has no address counts as the zero address. -/
def site (market : Address) (p : Place) : Derived :=
  (p.find market).toOption.getD ⟨Address.zero, 0⟩

theorem site_of_find {market : Address} {p : Place} {d : Derived} (h : p.find market = .ok d) :
    p.site market = d := by
  simp [site, h, Except.toOption]

theorem find_of_address {market a : Address} {p : Place} (h : p.address market = .ok a) :
    p.find market = .ok (p.site market) := by
  rw [address] at h
  cases hfind : p.find market with
  | error e =>
      rw [hfind] at h
      cases h
  | ok d => rw [site_of_find hfind]

theorem address_site {market a : Address} {p : Place} (h : p.address market = .ok a) :
    (p.site market).address = a := by
  rw [address, find_of_address h] at h
  exact Except.ok.inj h

theorem find_bind_eq_ok_iff {α : Type} {market : Address} {p : Place}
    {f : Derived → Except MarketError α} {a : α} :
    (p.find market >>= f) = .ok a ↔
      p.find market = .ok (p.site market) ∧ f (p.site market) = .ok a := by
  cases h : p.find market with
  | error e =>
      constructor
      · intro hbind
        cases hbind
      · rintro ⟨hfind, -⟩
        cases hfind
  | ok d =>
      rw [site_of_find h]
      exact ⟨fun hbind => ⟨rfl, hbind⟩, fun hbind => hbind.2⟩

/-- The account in which an asset on offer is kept, given where the settings are. -/
def vault (site : Place → Derived) (mint : Address) : Place :=
  .tokenAccount (site .global).address mint

end Place

namespace Call

open AccountRef (signer writable readOnly)
open Place (vault)

/-! ### Layouts -/

section

variable (site : Place → Derived)

/-- The places that a call looks for. -/
def places : Call → List Place
  | .openMarket _ => [.global, .escrow]
  | .updateFee .. => [.global]
  | .addTreasury .. => [.global]
  | .removeTreasury .. => [.global]
  | .initUser owner => [.user owner]
  | .initListing _ mint => [.listing mint]
  | .initOffer payer mint => [.offer mint payer]
  | .initAuction _ mint => [.auction mint]
  | .list _ mint _ _ => [.global, .listing mint, .auction mint, .metadata mint, vault site mint]
  | .delist _ mint _ => [.global, .listing mint, .auction mint, vault site mint]
  | .setPrice _ mint _ => [.listing mint]
  | .transfer .. => []
  | .transferFromVault _ mint _ _ => [.global, .listing mint, .auction mint, vault site mint]
  | .purchase buyer seller mint _ _ =>
      [.global, .listing mint, .user buyer, .user seller, .auction mint, .metadata mint,
       vault site mint]
  | .deposit owner _ => [.user owner, .escrow]
  | .withdraw owner _ => [.user owner, .escrow]
  | .makeOffer owner mint _ => [.listing mint, .offer mint owner, .user owner, .escrow]
  | .cancelOffer owner mint => [.offer mint owner]
  | .acceptOffer seller buyer mint _ _ =>
      [.global, .listing mint, .offer mint buyer, .user seller, .user buyer, .escrow, .auction mint,
       .metadata mint, vault site mint]
  | .createAuction _ mint _ _ => [.global, .auction mint, .listing mint, vault site mint]
  | .placeBid _ mint _ _ => [.auction mint, .escrow, .listing mint]
  | .claimAuction bidder creator mint _ _ =>
      [.global, .auction mint, .escrow, .user bidder, .user creator, .metadata mint,
       vault site mint]
  | .updateReserve _ mint _ => [.auction mint]
  | .cancelAuction _ mint _ => [.global, .auction mint, .listing mint, vault site mint]

/-- A place as an instruction names it. -/
def placeRef (p : Place) : AccountRef := writable (site p).address

/-- The accounts of a call. -/
def accountsAt : Call → List AccountRef
  | .openMarket admin =>
      [signer admin, placeRef site .global, placeRef site .escrow, readOnly Address.systemProgram,
       readOnly Address.rentAccount]
  | .updateFee admin _ => [signer admin, placeRef site .global]
  | .addTreasury admin _ _ => [signer admin, placeRef site .global]
  | .removeTreasury admin _ => [signer admin, placeRef site .global]
  | .initUser owner =>
      [signer owner, placeRef site (.user owner), readOnly Address.systemProgram,
       readOnly Address.rentAccount]
  | .initListing payer mint =>
      [signer payer, placeRef site (.listing mint), readOnly Address.systemProgram,
       readOnly Address.rentAccount]
  | .initOffer payer mint =>
      [signer payer, placeRef site (.offer mint payer), readOnly Address.systemProgram,
       readOnly Address.rentAccount]
  | .initAuction payer mint =>
      [signer payer, placeRef site (.auction mint), readOnly Address.systemProgram,
       readOnly Address.rentAccount]
  | .list owner mint tokenAccount _ =>
      [signer owner, placeRef site .global, placeRef site (.listing mint), writable tokenAccount,
       placeRef site (vault site mint), readOnly mint, placeRef site (.metadata mint),
       readOnly Address.tokenProgram, readOnly Address.metadataProgram,
       placeRef site (.auction mint)]
  | .delist owner mint tokenAccount =>
      [signer owner, placeRef site .global, placeRef site (.listing mint), writable tokenAccount,
       placeRef site (vault site mint), readOnly mint, readOnly Address.tokenProgram,
       placeRef site (.auction mint)]
  | .setPrice owner mint _ => [signer owner, placeRef site (.listing mint), readOnly mint]
  | .transfer owner mint tokenAccount recipient recipientAccount =>
      [signer owner, writable tokenAccount, writable recipient, writable recipientAccount,
       readOnly mint, readOnly Address.tokenProgram]
  | .transferFromVault owner mint recipient recipientAccount =>
      [signer owner, placeRef site .global, placeRef site (.listing mint), writable recipient,
       writable recipientAccount, placeRef site (vault site mint), readOnly mint,
       readOnly Address.tokenProgram, placeRef site (.auction mint)]
  | .purchase buyer seller mint buyerAccount remaining =>
      [signer buyer, placeRef site .global, placeRef site (.listing mint),
       placeRef site (.user buyer), writable buyerAccount, placeRef site (vault site mint),
       writable seller, placeRef site (.user seller), readOnly mint, placeRef site (.metadata mint),
       readOnly Address.tokenProgram, readOnly Address.systemProgram,
       readOnly Address.metadataProgram, placeRef site (.auction mint)]
        ++ remaining.map writable
  | .deposit owner _ =>
      [signer owner, placeRef site (.user owner), placeRef site .escrow,
       readOnly Address.systemProgram]
  | .withdraw owner _ =>
      [signer owner, placeRef site (.user owner), placeRef site .escrow,
       readOnly Address.systemProgram]
  | .makeOffer owner mint _ =>
      [signer owner, placeRef site (.listing mint), placeRef site (.offer mint owner),
       readOnly mint, placeRef site (.user owner), placeRef site .escrow,
       readOnly Address.systemProgram]
  | .cancelOffer owner mint => [signer owner, placeRef site (.offer mint owner), readOnly mint]
  | .acceptOffer seller buyer mint buyerAccount remaining =>
      [signer seller, placeRef site (.listing mint), writable buyer,
       placeRef site (.offer mint buyer), placeRef site (.user seller), readOnly mint,
       placeRef site .global, placeRef site (.user buyer), writable buyerAccount,
       placeRef site (vault site mint), placeRef site .escrow, placeRef site (.metadata mint),
       readOnly Address.tokenProgram, readOnly Address.systemProgram,
       readOnly Address.metadataProgram, placeRef site (.auction mint)]
        ++ remaining.map writable
  | .createAuction owner mint tokenAccount _ =>
      [signer owner, placeRef site .global, placeRef site (.auction mint), writable tokenAccount,
       placeRef site (vault site mint), readOnly mint, readOnly Address.tokenProgram,
       placeRef site (.listing mint)]
  | .placeBid bidder mint outBidder _ =>
      [signer bidder, placeRef site (.auction mint), readOnly mint, placeRef site .escrow,
       writable outBidder, readOnly Address.systemProgram, placeRef site (.listing mint)]
  | .claimAuction bidder creator mint bidderAccount remaining =>
      [signer bidder, placeRef site .global, placeRef site (.auction mint), writable bidderAccount,
       placeRef site (vault site mint), readOnly mint, placeRef site .escrow,
       placeRef site (.user bidder), writable creator, placeRef site (.user creator),
       placeRef site (.metadata mint), readOnly Address.tokenProgram,
       readOnly Address.systemProgram, readOnly Address.metadataProgram]
        ++ remaining.map writable
  | .updateReserve creator mint _ => [signer creator, placeRef site (.auction mint), readOnly mint]
  | .cancelAuction creator mint tokenAccount =>
      [signer creator, placeRef site .global, placeRef site (.auction mint), writable tokenAccount,
       placeRef site (vault site mint), readOnly mint, readOnly Address.tokenProgram,
       placeRef site (.listing mint)]

/-- The places whose bumps are arguments of a call, in order. -/
def bumped : Call → List Place
  | .openMarket _ => [.global, .escrow]
  | .updateFee .. => [.global]
  | .addTreasury .. => [.global]
  | .removeTreasury .. => [.global]
  | .initUser owner => [.user owner]
  | .initListing _ mint => [.listing mint]
  | .initOffer payer mint => [.offer mint payer]
  | .initAuction _ mint => [.auction mint]
  | .list _ mint _ _ => [.global, .listing mint, .auction mint]
  | .delist _ mint _ => [.global, .listing mint]
  | .setPrice _ mint _ => [.listing mint]
  | .transfer .. => []
  | .transferFromVault _ mint _ _ => [.global, .listing mint]
  | .purchase buyer seller mint _ _ => [.global, .listing mint, .user seller, .user buyer]
  | .deposit owner _ => [.user owner, .escrow]
  | .withdraw owner _ => [.user owner, .escrow]
  | .makeOffer owner mint _ => [.listing mint, .offer mint owner, .user owner, .escrow]
  | .cancelOffer owner mint => [.offer mint owner]
  | .acceptOffer seller buyer mint _ _ =>
      [.global, .listing mint, .offer mint buyer, .user buyer, .user seller, .escrow]
  | .createAuction _ mint _ _ => [.global, .auction mint, .listing mint]
  | .placeBid _ mint _ _ => [.auction mint, .escrow]
  | .claimAuction _ _ mint _ _ => [.global, .auction mint, .escrow]
  | .updateReserve _ mint _ => [.auction mint]
  | .cancelAuction _ mint _ => [.global, .auction mint]

/-- The arguments that a caller decides. -/
def values : Call → Bytes
  | .updateFee _ fee => Bytes.ofU64 fee
  | .addTreasury _ recipient rate => recipient.bytes ++ Bytes.ofU64 rate
  | .removeTreasury _ recipient => recipient.bytes
  | .initListing _ mint => mint.bytes
  | .initOffer _ mint => mint.bytes
  | .initAuction _ mint => mint.bytes
  | .list _ _ _ price => Bytes.ofU64 price
  | .setPrice _ _ price => Bytes.ofU64 price
  | .deposit _ amount => Bytes.ofU64 amount
  | .withdraw _ amount => Bytes.ofU64 amount
  | .makeOffer _ _ price => Bytes.ofU64 price
  | .createAuction _ _ _ terms =>
      Bytes.ofU64 terms.startPrice ++ Bytes.ofU64 terms.minIncrease ++ Bytes.ofI64 terms.duration
        ++ [if terms.reserved then 1 else 0]
  | .placeBid _ _ _ price => Bytes.ofU64 price
  | .updateReserve _ _ price => Bytes.ofU64 price
  | _ => []

/-- The bumps among the arguments of a call. -/
def bumpsAt (call : Call) : Bytes := call.bumped.map fun p => (site p).bump

/-- The arguments of a call.  The bumps come first, except where the record of a mint is created. -/
def argsAt (call : Call) : Bytes :=
  match call with
  | .initListing .. => call.values ++ bumpsAt site call
  | .initOffer .. => call.values ++ bumpsAt site call
  | .initAuction .. => call.values ++ bumpsAt site call
  | _ => bumpsAt site call ++ call.values

/-- The arguments of a call fill the width that its method has for them. -/
theorem length_argsAt (call : Call) : (argsAt site call).length = call.method.argsLength := by
  cases call <;>
    simp [argsAt, bumpsAt, bumped, values, method, Method.argsLength, Method.args, ArgType.width]

end

/-! ### Building is laying out -/

theorem build_eq_ok_iff {market : Address} {call : Call} {i : Instruction} :
    call.build market = .ok i ↔
      (∀ p ∈ call.places (Place.site market), p.find market = .ok (p.site market)) ∧
        call.instruction market (call.accountsAt (Place.site market))
          (call.argsAt (Place.site market)) = i := by
  cases call <;>
    simp [build, initRecord, moveEscrow, Place.find_bind_eq_ok_iff, places, accountsAt, placeRef,
      argsAt, bumpsAt, bumped, values, vault, pure, Except.pure, and_assoc]

theorem accounts_of_build {market : Address} {call : Call} {i : Instruction}
    (h : call.build market = .ok i) : i.accounts = call.accountsAt (Place.site market) := by
  rw [← (build_eq_ok_iff.1 h).2, instruction]

/-- The places that a call looks for have addresses. -/
theorem address_of_mem_places {market : Address} {call : Call} {i : Instruction} {p : Place}
    (h : call.build market = .ok i) (hp : p ∈ call.places (Place.site market)) :
    p.address market = .ok (p.site market).address := by
  rw [Place.address, (build_eq_ok_iff.1 h).1 p hp]
  rfl

end Call

end AssetMarket
