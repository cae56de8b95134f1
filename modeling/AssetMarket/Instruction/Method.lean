/-
**The methods of the marketplace program.**

The program has twenty-four methods.  An instruction says which one it calls by the eight bytes
its data begin with; they are the start of the hash of the method's name.

Main definitions:

* `Method` — the methods, with `Method.name` and `Method.opcode`;
* `Method.ofName?`, `Method.ofData?` — the method of a name and of instruction data.

Main results:

* `Method.mem_all` — the list of methods leaves none out;
* `Method.length_opcode` — an opcode has eight bytes.
-/

import AssetMarket.Crypto.Sha256

set_option relaxedAutoImplicit false
set_option autoImplicit false

namespace AssetMarket

/-- A method of the marketplace program. -/
inductive Method where
  /-- Create the settings and the escrow account. -/
  | openMarket
  /-- Set the flat fee. -/
  | updateFee
  /-- Add a recipient of fees. -/
  | addTreasury
  /-- Remove a recipient of fees. -/
  | removeTreasury
  /-- Create the record of a user. -/
  | initUser
  /-- Create the listing record of a mint. -/
  | initListing
  /-- Put an asset up for sale. -/
  | list
  /-- Take an asset off sale. -/
  | delist
  /-- Change the price of a sale. -/
  | setPrice
  /-- Move an asset from one wallet to another. -/
  | transfer
  /-- Move an asset on sale out of the vault. -/
  | transferFromVault
  /-- Buy an asset on sale. -/
  | purchase
  /-- Move coins into escrow. -/
  | deposit
  /-- Move coins out of escrow. -/
  | withdraw
  /-- Create the offer record of a buyer for a mint. -/
  | initOffer
  /-- Offer a price for an asset. -/
  | makeOffer
  /-- Take an offer back. -/
  | cancelOffer
  /-- Sell to an offer. -/
  | acceptOffer
  /-- Create the auction record of a mint. -/
  | initAuction
  /-- Put an asset up for auction. -/
  | createAuction
  /-- Bid in an auction. -/
  | placeBid
  /-- Settle an auction that was won. -/
  | claimAuction
  /-- Change the price of a reserved auction. -/
  | updateReserve
  /-- Call an auction off. -/
  | cancelAuction
  deriving DecidableEq, Repr

namespace Method

/-- All methods, in the order of the catalog. -/
def all : List Method :=
  [.openMarket, .updateFee, .addTreasury, .removeTreasury, .initUser, .initListing, .list,
   .delist, .setPrice, .transfer, .transferFromVault, .purchase, .deposit, .withdraw,
   .initOffer, .makeOffer, .cancelOffer, .acceptOffer, .initAuction, .createAuction,
   .placeBid, .claimAuction, .updateReserve, .cancelAuction]

theorem mem_all (m : Method) : m ∈ all := by cases m <;> decide

/-- The name of a method in the program. -/
def name : Method → String
  | .openMarket => "initialize"
  | .updateFee => "update_fee"
  | .addTreasury => "add_team_treasury"
  | .removeTreasury => "remove_team_treasury"
  | .initUser => "init_user_pool"
  | .initListing => "init_sell_data"
  | .list => "list_nft_for_sale"
  | .delist => "delist_nft"
  | .setPrice => "set_price"
  | .transfer => "transfer"
  | .transferFromVault => "transfer_from_vault"
  | .purchase => "purchase"
  | .deposit => "deposit_to_escrow"
  | .withdraw => "withdraw_from_escrow"
  | .initOffer => "init_offer_data"
  | .makeOffer => "make_offer"
  | .cancelOffer => "cancel_offer"
  | .acceptOffer => "accept_offer"
  | .initAuction => "init_auction_data"
  | .createAuction => "create_auction"
  | .placeBid => "place_bid"
  | .claimAuction => "claim_auction"
  | .updateReserve => "update_reserve"
  | .cancelAuction => "cancel_auction"

/-- The method of a name, in which hyphens may stand for underscores. -/
def ofName? (s : String) : Option Method :=
  let word := String.ofList (s.toList.map fun c => if c = '-' then '_' else c)
  all.find? (·.name == word)

/-! ### Opcodes -/

/-- The number of bytes of an opcode. -/
def opcodeLength : Nat := 8

/-- The bytes that the data of an instruction for this method begin with. -/
def opcode (m : Method) : Bytes :=
  (Sha256.digest (Bytes.ofText "global:" ++ Bytes.ofText m.name)).take opcodeLength

@[simp] theorem length_opcode (m : Method) : m.opcode.length = 8 := by
  simp [opcode, opcodeLength]

/-- All methods with their opcodes. -/
def opcodes : List (Method × Bytes) := all.map fun m => (m, m.opcode)

/-- The method that instruction data call. -/
def ofData? (data : Bytes) : Option Method :=
  (opcodes.find? fun entry => entry.2.isPrefixOf data).map (·.1)

end Method

end AssetMarket
