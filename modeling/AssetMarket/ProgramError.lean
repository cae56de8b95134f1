/-
**The errors the marketplace program raises.**

The program numbers its errors from 6000 on.  A ledger that rejects a transaction reports the number
inside a line of text, in one of two forms, and this module finds it there.

Main definitions:

* `ProgramError.table` — the errors in the order of their codes;
* `ProgramError.ofCode?` — the error of a code;
* `ProgramError.findCode?` — the code inside a line of text.

Main results:

* `ProgramError.code_of_ofCode?` — the error found for a code has that code.
-/

import AssetMarket.Text.Numeral

set_option relaxedAutoImplicit false
set_option autoImplicit false

namespace AssetMarket

/-- An error of the marketplace program. -/
structure ProgramError where
  code : UInt32
  name : String
  message : String
  deriving DecidableEq, Repr

namespace ProgramError

/-! ### The table -/

/-- The code of the first error. -/
def base : Nat := 6000

/-- Names and messages in the order of the codes. -/
def texts : List (String × String) :=
  [("InvalidSuperOwner", "Invalid Super Owner"),
   ("InvalidOwner", "Invalid Owner"),
   ("InvalidGlobalPool", "Invalid Global Pool Address"),
   ("InvalidFeePercent", "Marketplace Fee is Permyriad"),
   ("MaxTeamCountExceed", "Max Team Count is 8"),
   ("NoTeamTreasuryYet", "Treasury Wallet Not Configured"),
   ("TreasuryAddressNotFound", "Treasury Address Not Exist"),
   ("TreasuryAddressAlreadyAdded", "Treasury Address Already Exist"),
   ("MaxTreasuryRateSumExceed", "Total Treasury Rate Sum Should Less Than 100%"),
   ("TeamTreasuryCountMismatch", "Team Treasury Wallet Count Mismatch"),
   ("TeamTreasuryAddressMismatch", "Team Treasury Wallet Address Mismatch"),
   ("Uninitialized", "Uninitialized Account"),
   ("InvalidParamInput", "Instruction Parameter is Invalid"),
   ("SellerMismatch", "Payer Mismatch with NFT Seller"),
   ("InvalidNFTDataAcount", "Invalid NFT Data Account"),
   ("NotListedNFT", "The NFT Is Not Listed"),
   ("SellerAccountMismatch", "Seller Account Mismatch with NFT Seller Data"),
   ("InsufficientBuyerSolBalance", "Buyer Sol Balance is Less than NFT SOL Price"),
   ("InsufficientBuyerTokenBalance", "Buyer Token Balance is Less than NFT Token Price"),
   ("InvaliedMetadata", "Invalid Metadata Address"),
   ("MetadataCreatorParseError", "Can't Parse The NFT's Creators"),
   ("InvalidOfferDataMint", "Offer Data Mint mismatch with NFT Pubkey"),
   ("InvalidOfferDataBuyer", "Offer Data Buyer mismatch with Payer Pubkey"),
   ("OfferForNotListedNFT", "Making Offer for Not Listed NFT"),
   ("InvalidOfferPrice", "Offer Price Over Thank Listed Price"),
   ("DisabledOffer", "Already Canceled Offer"),
   ("OfferForExpiredListingNFT", "Offer For Sold Or Canceled NFT Listing"),
   ("EndedAuction", "Placing Bid For Ended Auction"),
   ("InvalidBidPrice", "Placing Bid With Lower Than Highest Bid"),
   ("DoubleBidFromOneBidder", "Placing Bid Double From One Bidder"),
   ("OutBidderMismatch", "Out Bidder Account Mismatch With LastBidder Data"),
   ("NotEndedAuction", "Claiming Auction For Not Ended Auction"),
   ("CreatorAccountMismatch", "Creator Account Mismatch with Auction Data"),
   ("BidderAccountMismatch", "Bidder Account Mismatch with Auction Data"),
   ("AuctionHasBid", "Canceling Auction which has Bid"),
   ("BidFromAuctionCreator", "Placing Bid From Auction Creator"),
   ("ListingNotAvailable", "Only Listing and Reserved Auction are possible to exist together"),
   ("NFTIsNotInUserATA", "NFT Is Not In User ATA"),
   ("NFTIsNotInEscrowATA", "NFT Is Not In Escrow ATA")]

/-- The errors in the order of their codes, which leave no gap. -/
def table : List ProgramError :=
  texts.zipIdx.map fun ((name, message), offset) => ⟨UInt32.ofNat (base + offset), name, message⟩

/-- The error of a code. -/
def ofCode? (code : UInt32) : Option ProgramError :=
  table.find? (·.code == code)

theorem length_table : table.length = 39 := rfl

theorem code_of_ofCode? {code : UInt32} {e : ProgramError} (h : ofCode? code = some e) :
    e.code = code := by
  simpa using List.find?_some h

/-! ### Codes inside text -/

/-- What follows the first place at which a mark stands. -/
def after? (mark : List Char) : List Char → Option (List Char)
  | [] => if mark.isEmpty then some [] else none
  | c :: cs =>
      if mark.isPrefixOf (c :: cs) then some ((c :: cs).drop mark.length) else after? mark cs

/-- The mark in front of a hexadecimal code. -/
def hexadecimalMark : List Char := "custom program error: 0x".toList

/-- The mark in front of a decimal code. -/
def decimalMark : List Char := "Error Number: ".toList

/-- The number at the start of a text, if it has digits and fits into 32 bits. -/
def leadingCode? (base : Nat) (cs : List Char) : Option UInt32 :=
  match Text.natural base (2 ^ 32) (cs.takeWhile fun c => (Text.digit? base c).isSome) with
  | .ok n => some (UInt32.ofNat n)
  | .error _ => none

/-- The code of an error inside a line of text.  Where both marks stand the hexadecimal one decides,
also if no usable number follows it. -/
def findCode? (line : String) : Option UInt32 :=
  match after? hexadecimalMark line.toList with
  | some rest => leadingCode? 16 rest
  | none =>
      match after? decimalMark line.toList with
      | some rest => leadingCode? 10 rest
      | none => none

end ProgramError

end AssetMarket
