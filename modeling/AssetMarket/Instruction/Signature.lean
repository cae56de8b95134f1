/-
**What the methods take.**

For each method of the marketplace program this module says which accounts an instruction names, in
order and with their flags, and which arguments follow the opcode.  Three methods take any number of
further accounts after the named ones: those through which fees and royalties are paid out.

Main definitions:

* `ArgType` — the types of arguments, with their width;
* `AccountSlot` — an account as a method asks for it;
* `Method.accounts`, `Method.args`, `Method.takesRemaining` — what a method takes;
* `Method.argsLength` — the bytes of its arguments.

Main results:

* `Method.accounts_head` — the first account of a method, and no other, signs.
-/

import AssetMarket.Instruction.Method

set_option relaxedAutoImplicit false
set_option autoImplicit false

namespace AssetMarket

/-! ### Types of arguments -/

/-- The type of an argument. -/
inductive ArgType where
  | u8
  | bool
  | u16
  | u32
  | u64
  | i64
  | publicKey
  deriving DecidableEq, Repr

namespace ArgType

/-- All types. -/
def all : List ArgType := [.u8, .bool, .u16, .u32, .u64, .i64, .publicKey]

/-- The name of a type. -/
def name : ArgType → String
  | .u8 => "u8"
  | .bool => "bool"
  | .u16 => "u16"
  | .u32 => "u32"
  | .u64 => "u64"
  | .i64 => "i64"
  | .publicKey => "publicKey"

/-- The bytes of an argument of a type. -/
def width : ArgType → Nat
  | .u8 => 1
  | .bool => 1
  | .u16 => 2
  | .u32 => 4
  | .u64 => 8
  | .i64 => 8
  | .publicKey => 32

/-- The width of a type given by its name; a type that is not known has none. -/
def widthOfName (name : String) : Nat := (all.find? (·.name == name)).elim 0 width

@[simp] theorem widthOfName_name (t : ArgType) : widthOfName t.name = t.width := by
  cases t <;> rfl

end ArgType

/-! ### Accounts -/

/-- An account as a method asks for it. -/
structure AccountSlot where
  name : String
  isSigner : Bool
  isWritable : Bool
  deriving DecidableEq, Repr

namespace AccountSlot

/-- An account that signs and pays. -/
def signer (name : String) : AccountSlot := ⟨name, true, true⟩

/-- An account that is written. -/
def writable (name : String) : AccountSlot := ⟨name, false, true⟩

/-- An account that is only read. -/
def readOnly (name : String) : AccountSlot := ⟨name, false, false⟩

end AccountSlot

namespace Method

/-- The accounts that a method names, in order. -/
def accounts : Method → List AccountSlot
  | .openMarket =>
      [.signer "admin", .writable "global_authority", .writable "escrow_vault",
       .readOnly "system_program", .readOnly "rent"]
  | .updateFee =>
      [.signer "admin", .writable "global_authority"]
  | .addTreasury =>
      [.signer "admin", .writable "global_authority"]
  | .removeTreasury =>
      [.signer "admin", .writable "global_authority"]
  | .initUser =>
      [.signer "owner", .writable "user_pool", .readOnly "system_program", .readOnly "rent"]
  | .initListing =>
      [.signer "payer", .writable "record", .readOnly "system_program", .readOnly "rent"]
  | .list =>
      [.signer "owner", .writable "global_authority", .writable "sell_data_info",
       .writable "user_token_account", .writable "dest_nft_token_account",
       .readOnly "nft_mint", .writable "mint_metadata", .readOnly "token_program",
       .readOnly "token_metadata_program", .writable "auction_data_info"]
  | .delist =>
      [.signer "owner", .writable "global_authority", .writable "sell_data_info",
       .writable "user_token_account", .writable "dest_nft_token_account",
       .readOnly "nft_mint", .readOnly "token_program", .writable "auction_data_info"]
  | .setPrice =>
      [.signer "owner", .writable "sell_data_info", .readOnly "nft_mint"]
  | .transfer =>
      [.signer "owner", .writable "user_token_account", .writable "recipient",
       .writable "dest_nft_token_account", .readOnly "nft_mint", .readOnly "token_program"]
  | .transferFromVault =>
      [.signer "owner", .writable "global_authority", .writable "sell_data_info",
       .writable "recipient", .writable "user_token_account",
       .writable "dest_nft_token_account", .readOnly "nft_mint", .readOnly "token_program",
       .writable "auction_data_info"]
  | .purchase =>
      [.signer "buyer", .writable "global_authority", .writable "sell_data_info",
       .writable "buyer_user_pool", .writable "user_nft_token_account",
       .writable "dest_nft_token_account", .writable "seller", .writable "seller_user_pool",
       .readOnly "nft_mint", .writable "mint_metadata", .readOnly "token_program",
       .readOnly "system_program", .readOnly "token_metadata_program",
       .writable "auction_data_info"]
  | .deposit =>
      [.signer "owner", .writable "user_pool", .writable "escrow_vault",
       .readOnly "system_program"]
  | .withdraw =>
      [.signer "owner", .writable "user_pool", .writable "escrow_vault",
       .readOnly "system_program"]
  | .initOffer =>
      [.signer "payer", .writable "record", .readOnly "system_program", .readOnly "rent"]
  | .makeOffer =>
      [.signer "owner", .writable "sell_data_info", .writable "offer_data_info",
       .readOnly "nft_mint", .writable "user_pool", .writable "escrow_vault",
       .readOnly "system_program"]
  | .cancelOffer =>
      [.signer "owner", .writable "offer_data_info", .readOnly "nft_mint"]
  | .acceptOffer =>
      [.signer "seller", .writable "sell_data_info", .writable "buyer",
       .writable "offer_data_info", .writable "seller_user_pool", .readOnly "nft_mint",
       .writable "global_authority", .writable "buyer_user_pool",
       .writable "user_nft_token_account", .writable "dest_nft_token_account",
       .writable "escrow_vault", .writable "mint_metadata", .readOnly "token_program",
       .readOnly "system_program", .readOnly "token_metadata_program",
       .writable "auction_data_info"]
  | .initAuction =>
      [.signer "payer", .writable "record", .readOnly "system_program", .readOnly "rent"]
  | .createAuction =>
      [.signer "owner", .writable "global_authority", .writable "auction_data_info",
       .writable "user_token_account", .writable "dest_nft_token_account",
       .readOnly "nft_mint", .readOnly "token_program", .writable "sell_data_info"]
  | .placeBid =>
      [.signer "bidder", .writable "auction_data_info", .readOnly "nft_mint",
       .writable "escrow_vault", .writable "out_bidder", .readOnly "system_program",
       .writable "sell_data_info"]
  | .claimAuction =>
      [.signer "bidder", .writable "global_authority", .writable "auction_data_info",
       .writable "user_token_account", .writable "dest_nft_token_account",
       .readOnly "nft_mint", .writable "escrow_vault", .writable "bidder_user_pool",
       .writable "creator", .writable "creator_user_pool", .writable "mint_metadata",
       .readOnly "token_program", .readOnly "system_program",
       .readOnly "token_metadata_program"]
  | .updateReserve =>
      [.signer "creator", .writable "auction_data_info", .readOnly "nft_mint"]
  | .cancelAuction =>
      [.signer "creator", .writable "global_authority", .writable "auction_data_info",
       .writable "user_token_account", .writable "dest_nft_token_account",
       .readOnly "nft_mint", .readOnly "token_program", .writable "sell_data_info"]

/-- The arguments of a method, in order. -/
def args : Method → List (String × ArgType)
  | .openMarket =>
      [("global_bump", .u8), ("escrow_bump", .u8)]
  | .updateFee =>
      [("global_bump", .u8), ("sol_fee", .u64)]
  | .addTreasury =>
      [("global_bump", .u8), ("address", .publicKey), ("rate", .u64)]
  | .removeTreasury =>
      [("global_bump", .u8), ("address", .publicKey)]
  | .initUser =>
      [("bump", .u8)]
  | .initListing =>
      [("nft", .publicKey), ("bump", .u8)]
  | .list =>
      [("global_bump", .u8), ("sell_bump", .u8), ("auction_bump", .u8), ("price_sol", .u64)]
  | .delist =>
      [("global_bump", .u8), ("sell_bump", .u8)]
  | .setPrice =>
      [("sell_bump", .u8), ("price", .u64)]
  | .transfer => []
  | .transferFromVault =>
      [("global_bump", .u8), ("sell_bump", .u8)]
  | .purchase =>
      [("global_bump", .u8), ("nft_bump", .u8), ("seller_bump", .u8), ("buyer_bump", .u8)]
  | .deposit =>
      [("user_bump", .u8), ("escrow_bump", .u8), ("sol", .u64)]
  | .withdraw =>
      [("user_bump", .u8), ("escrow_bump", .u8), ("sol", .u64)]
  | .initOffer =>
      [("nft", .publicKey), ("bump", .u8)]
  | .makeOffer =>
      [("sell_bump", .u8), ("offer_bump", .u8), ("user_bump", .u8), ("escrow_bump", .u8),
       ("price", .u64)]
  | .cancelOffer =>
      [("offer_bump", .u8)]
  | .acceptOffer =>
      [("global_bump", .u8), ("nft_bump", .u8), ("offer_bump", .u8), ("buyer_bump", .u8),
       ("seller_bump", .u8), ("escrow_bump", .u8)]
  | .initAuction =>
      [("nft", .publicKey), ("bump", .u8)]
  | .createAuction =>
      [("global_bump", .u8), ("auction_bump", .u8), ("sell_bump", .u8),
       ("start_price", .u64), ("min_increase", .u64), ("duration", .i64), ("reserved", .u8)]
  | .placeBid =>
      [("auction_bump", .u8), ("escrow_bump", .u8), ("price", .u64)]
  | .claimAuction =>
      [("global_bump", .u8), ("auction_bump", .u8), ("escrow_bump", .u8)]
  | .updateReserve =>
      [("auction_bump", .u8), ("price", .u64)]
  | .cancelAuction =>
      [("global_bump", .u8), ("auction_bump", .u8)]

/-- Whether a method takes further accounts after the named ones. -/
def takesRemaining : Method → Bool
  | .purchase => true
  | .acceptOffer => true
  | .claimAuction => true
  | _ => false

/-- The bytes of the arguments of a method. -/
def argsLength (m : Method) : Nat := (m.args.map fun arg => arg.2.width).sum

theorem accounts_head (m : Method) :
    m.accounts.head?.any (·.isSigner) = true ∧ m.accounts.tail.all (!·.isSigner) = true := by
  cases m <;> decide

end Method

end AssetMarket
