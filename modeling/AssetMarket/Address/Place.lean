/-
**The places of the market.**

Nothing is looked up: every record of the market lives at an address derived from a fixed word and
the keys it belongs to.  A `Place` says which record is meant, and that is enough to find it.

Main definitions:

* `Place` — the records and accounts that have a derived address;
* `Place.seeds`, `Place.owner` — what the address is derived from;
* `Place.find` — the address and its bump;
* `associatedAccount`, `metadataAddress` — the two places that belong to no marketplace;
* `vaultAccount` — the token account in which the marketplace keeps an asset.

Main results:

* `Place.find_tokenAccount` — for a token account the marketplace does not matter.
-/

import AssetMarket.Address.Derivation

set_option relaxedAutoImplicit false
set_option autoImplicit false

namespace AssetMarket

/-- A record or account with a derived address. -/
inductive Place where
  /-- The settings of the marketplace, which also own what the vault holds. -/
  | global
  /-- The account that holds deposited coins. -/
  | escrow
  /-- The sale listing of a mint. -/
  | listing (mint : Address)
  /-- The offer of a buyer for a mint. -/
  | offer (mint buyer : Address)
  /-- The auction of a mint. -/
  | auction (mint : Address)
  /-- The user account of an owner. -/
  | user (owner : Address)
  /-- The token account of an owner for a mint. -/
  | tokenAccount (owner mint : Address)
  /-- The metadata of a mint. -/
  | metadata (mint : Address)
  deriving DecidableEq

namespace Place

/-- The seeds of a place, without the bump. -/
def seeds : Place → List Bytes
  | .global => [Bytes.ofText "global-authority-v1"]
  | .escrow => [Bytes.ofText "escrow-vault"]
  | .listing mint => [Bytes.ofText "sell-info-v1", mint.bytes]
  | .offer mint buyer => [Bytes.ofText "offer-info-v1", mint.bytes, buyer.bytes]
  | .auction mint => [Bytes.ofText "auction-info-v1", mint.bytes]
  | .user owner => [Bytes.ofText "user-info-v1", owner.bytes]
  | .tokenAccount owner mint => [owner.bytes, Address.tokenProgram.bytes, mint.bytes]
  | .metadata mint => [Bytes.ofText "metadata", Address.metadataProgram.bytes, mint.bytes]

/-- The program that a place belongs to; token accounts and metadata are not the marketplace's. -/
def owner (market : Address) : Place → Address
  | .tokenAccount _ _ => Address.associatedTokenProgram
  | .metadata _ => Address.metadataProgram
  | _ => market

/-- The address of a place and its bump. -/
def find (market : Address) (place : Place) : Except MarketError Derived :=
  (Address.derive place.seeds (place.owner market)).mapError Derivation.Error.toMarketError

/-- The address of a place. -/
def address (market : Address) (place : Place) : Except MarketError Address :=
  (place.find market).map (·.address)

end Place

/-- The associated token account of an owner for a mint.  It belongs to no marketplace. -/
def associatedAccount (owner mint : Address) : Except MarketError Address :=
  (Place.tokenAccount owner mint).address Address.associatedTokenProgram

/-- The address of the metadata of a mint.  It belongs to no marketplace. -/
def metadataAddress (mint : Address) : Except MarketError Address :=
  (Place.metadata mint).address Address.metadataProgram

/-- The token account in which the marketplace keeps an asset: the one of its settings record. -/
def vaultAccount (market mint : Address) : Except MarketError Address := do
  let global ← Place.global.address market
  associatedAccount global mint

theorem Place.find_tokenAccount (market owner mint : Address) :
    (Place.tokenAccount owner mint).find market
      = (Place.tokenAccount owner mint).find Address.associatedTokenProgram := rfl

end AssetMarket
