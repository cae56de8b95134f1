/-
**The metadata of an asset.**

Metadata say who made an asset and how royalties are shared.  The record goes on after the
creators with fields that do not matter here.  Names are stored padded with null characters, which
are taken off when the record is read.

Main definitions:

* `Creator`, `Metadata` — the record;
* `Metadata.decode`, `Metadata.encode` — the record as bytes;
* `Metadata.creatorAddresses` — who receives royalties.
-/

import AssetMarket.Error
import AssetMarket.Wire

set_option relaxedAutoImplicit false
set_option autoImplicit false

namespace AssetMarket

/-- A receiver of royalties. -/
@[ext]
structure Creator where
  address : Address
  verified : Bool
  share : UInt8
  deriving DecidableEq

/-- The front part of a metadata record. -/
@[ext]
structure Metadata where
  updateAuthority : Address
  mint : Address
  name : String
  symbol : String
  uri : String
  sellerFee : UInt16
  creators : List Creator
  deriving DecidableEq

namespace Metadata

/-- The kind as it is named in failures. -/
def kindName : String := "Metadata"

/-- The byte that a record of the current version begins with. -/
def versionByte : UInt8 := 4

/-- A text without the null characters at its end. -/
def trimNulls (s : String) : String :=
  String.ofList (s.toList.reverse.dropWhile (· = '\x00')).reverse

/-! ### Reading -/

/-- A creator. -/
def creatorReader : Wire.Reader Creator := do
  let address ← Wire.address
  let verified ← Wire.bool
  let share ← Wire.byte
  return { address, verified, share }

/-- The record up to its creators.  The version byte is read and not looked at. -/
def reader : Wire.Reader Metadata := do
  let _ ← Wire.byte
  let updateAuthority ← Wire.address
  let mint ← Wire.address
  let name ← Wire.text
  let symbol ← Wire.text
  let uri ← Wire.text
  let sellerFee ← Wire.nat 2
  let creators ← Wire.option (Wire.list creatorReader)
  return {
    updateAuthority, mint
    name := trimNulls name
    symbol := trimNulls symbol
    uri := trimNulls uri
    sellerFee := UInt16.ofNat sellerFee
    creators := creators.getD [] }

/-- Read a record; what follows its creators is passed over. -/
def decode (bs : Bytes) : Except MarketError Metadata :=
  match reader.run bs with
  | .ok (m, _) => .ok m
  | .error e => .error (.undecodable kindName e.message)

/-! ### Writing -/

/-- The bytes of a creator. -/
def creatorBytes (c : Creator) : Bytes := c.address.bytes ++ Wire.ofBool c.verified ++ [c.share]

/-- The optional list of creators; an empty list is stored as none at all. -/
def storedCreators (m : Metadata) : Option (List Creator) :=
  if m.creators.isEmpty then none else some m.creators

/-- Whether every length of the record fits into four bytes. -/
def fits (m : Metadata) : Bool :=
  [(Bytes.ofText m.name).length, (Bytes.ofText m.symbol).length, (Bytes.ofText m.uri).length,
    m.creators.length].all (· < 2 ^ 32)

/-- The bytes of a record that fits. -/
def bytes (m : Metadata) : Bytes :=
  [versionByte] ++ m.updateAuthority.bytes ++ m.mint.bytes ++ Wire.ofText m.name
    ++ Wire.ofText m.symbol ++ Wire.ofText m.uri ++ Bytes.ofU16 m.sellerFee
    ++ Wire.ofOption (Wire.ofList creatorBytes) m.storedCreators

/-- Write a record. -/
def encode (m : Metadata) : Except MarketError Bytes :=
  if m.fits then .ok m.bytes else .error (.undecodable kindName "invalid input parameter")

/-- Who receives royalties, in the order of the record. -/
def creatorAddresses (m : Metadata) : List Address := m.creators.map (·.address)

end Metadata

end AssetMarket
