/-
**Instructions as the catalog describes them.**

The catalog tells others how to call the program, and instructions are built without looking at it.
This module compares the two for all methods and all values: what the arguments of a call are, one
by one and under their names, where each of them stands in the data, and which account each bump
belongs to.  An account is told by the name under which the catalog lists it; within a method no
two accounts share a name.

Main definitions:

* `Call.Argument` — an argument of a call: the bump of a place, or what its caller decides;
* `Call.arguments` — the arguments of a call under their names;
* `Call.remaining` — the further accounts of a call;
* `Call.Follows` — what the catalog says of an instruction.

Main results:

* `splitLengths_flatten` — pieces that were put together are cut apart again by their lengths;
* `Call.args_method` — the arguments of a call have the names and types of its method;
* `Call.argsAt_eq_flatten` — they are laid out one after the other;
* `Call.listed_of_mem_arguments` — the account of each bump stands under its name;
* `Call.follows_of_build` — **an instruction that is built is as the catalog says**.
-/

import Mathlib.Data.List.Forall2
import Mathlib.Data.List.SplitLengths
import AssetMarket.Catalog
import AssetMarket.Proofs.Address.Place
import AssetMarket.Proofs.Instruction.Layout

set_option relaxedAutoImplicit false
set_option autoImplicit false

namespace AssetMarket

/-- Pieces that were put together are cut apart again by their lengths. -/
theorem splitLengths_flatten {α : Type} (pieces : List (List α)) :
    (pieces.map List.length).splitLengths pieces.flatten = pieces := by
  induction pieces with
  | nil => rfl
  | cons piece pieces ih =>
      rw [List.map_cons, List.flatten_cons, List.splitLengths_cons, List.take_left, List.drop_left,
        ih]

/-- The names of the accounts of a method differ. -/
theorem Method.nodup_accounts (m : Method) : (m.accounts.map (·.name)).Nodup := by
  cases m <;> decide

/-- The account that an instruction names where the catalog has this name. -/
def Catalog.Entry.account? (entry : Catalog.Entry) (i : Instruction) (name : String) :
    Option AccountRef :=
  ((entry.accounts.map (·.name)).zip i.accounts).lookup name

namespace Call

/-! ### Arguments -/

/-- An argument of a call. -/
inductive Argument where
  /-- The bump of a place, whose account the catalog lists under this name. -/
  | bump (account : String) (place : Place)
  | u8 (x : UInt8)
  | u64 (x : UInt64)
  | i64 (x : Int64)
  | publicKey (a : Address)

namespace Argument

/-- The type of an argument. -/
def type : Argument → ArgType
  | .bump .. => .u8
  | .u8 _ => .u8
  | .u64 _ => .u64
  | .i64 _ => .i64
  | .publicKey _ => .publicKey

/-- Whether an argument is a bump. -/
def isBump : Argument → Bool
  | .bump .. => true
  | _ => false

/-- The bytes of an argument, given where the places are. -/
def encode (site : Place → Derived) : Argument → Bytes
  | .bump _ place => [(site place).bump]
  | .u8 x => [x]
  | .u64 x => Bytes.ofU64 x
  | .i64 x => Bytes.ofI64 x
  | .publicKey a => a.bytes

theorem length_encode (site : Place → Derived) (x : Argument) :
    (x.encode site).length = x.type.width := by
  cases x <;> simp [encode, type, ArgType.width]

/-- The bump of the settings. -/
def global : String × Argument := ("global_bump", .bump "global_authority" .global)

/-- The bump of the escrow account. -/
def escrow : String × Argument := ("escrow_bump", .bump "escrow_vault" .escrow)

/-- The bump of a listing. -/
def sell (mint : Address) : String × Argument :=
  ("sell_bump", .bump "sell_data_info" (.listing mint))

/-- The bump of a listing that is traded. -/
def nft (mint : Address) : String × Argument :=
  ("nft_bump", .bump "sell_data_info" (.listing mint))

/-- The bump of an offer. -/
def offer (mint buyer : Address) : String × Argument :=
  ("offer_bump", .bump "offer_data_info" (.offer mint buyer))

/-- The bump of an auction. -/
def auction (mint : Address) : String × Argument :=
  ("auction_bump", .bump "auction_data_info" (.auction mint))

/-- The bump of the account of the one that acts. -/
def user (owner : Address) : String × Argument :=
  ("user_bump", .bump "user_pool" (.user owner))

/-- The bump of the account of the one that sells. -/
def seller (owner : Address) : String × Argument :=
  ("seller_bump", .bump "seller_user_pool" (.user owner))

/-- The bump of the account of the one that buys. -/
def buyer (owner : Address) : String × Argument :=
  ("buyer_bump", .bump "buyer_user_pool" (.user owner))

/-- The arguments by which the record of a mint is created. -/
def record (mint : Address) (place : Place) : List (String × Argument) :=
  [("nft", .publicKey mint), ("bump", .bump "record" place)]

end Argument

/-- The arguments of a call under their names. -/
def arguments : Call → List (String × Argument)
  | .openMarket _ => [Argument.global, Argument.escrow]
  | .updateFee _ fee => [Argument.global, ("sol_fee", .u64 fee)]
  | .addTreasury _ recipient rate =>
      [Argument.global, ("address", .publicKey recipient), ("rate", .u64 rate)]
  | .removeTreasury _ recipient => [Argument.global, ("address", .publicKey recipient)]
  | .initUser owner => [("bump", .bump "user_pool" (.user owner))]
  | .initListing _ mint => Argument.record mint (.listing mint)
  | .initOffer payer mint => Argument.record mint (.offer mint payer)
  | .initAuction _ mint => Argument.record mint (.auction mint)
  | .list _ mint _ price =>
      [Argument.global, Argument.sell mint, Argument.auction mint, ("price_sol", .u64 price)]
  | .delist _ mint _ => [Argument.global, Argument.sell mint]
  | .setPrice _ mint price => [Argument.sell mint, ("price", .u64 price)]
  | .transfer .. => []
  | .transferFromVault _ mint _ _ => [Argument.global, Argument.sell mint]
  | .purchase buyer seller mint _ _ =>
      [Argument.global, Argument.nft mint, Argument.seller seller, Argument.buyer buyer]
  | .deposit owner amount => [Argument.user owner, Argument.escrow, ("sol", .u64 amount)]
  | .withdraw owner amount => [Argument.user owner, Argument.escrow, ("sol", .u64 amount)]
  | .makeOffer owner mint price =>
      [Argument.sell mint, Argument.offer mint owner, Argument.user owner, Argument.escrow,
       ("price", .u64 price)]
  | .cancelOffer owner mint => [Argument.offer mint owner]
  | .acceptOffer seller buyer mint _ _ =>
      [Argument.global, Argument.nft mint, Argument.offer mint buyer, Argument.buyer buyer,
       Argument.seller seller, Argument.escrow]
  | .createAuction _ mint _ terms =>
      [Argument.global, Argument.auction mint, Argument.sell mint,
       ("start_price", .u64 terms.startPrice), ("min_increase", .u64 terms.minIncrease),
       ("duration", .i64 terms.duration), ("reserved", .u8 (if terms.reserved then 1 else 0))]
  | .placeBid _ mint _ price => [Argument.auction mint, Argument.escrow, ("price", .u64 price)]
  | .claimAuction _ _ mint _ _ => [Argument.global, Argument.auction mint, Argument.escrow]
  | .updateReserve _ mint price => [Argument.auction mint, ("price", .u64 price)]
  | .cancelAuction _ mint _ => [Argument.global, Argument.auction mint]

theorem args_method (call : Call) :
    call.method.args = call.arguments.map fun row => (row.1, row.2.type) := by
  cases call <;> rfl

/-- Whether a name is that of a bump. -/
def namesBump (name : String) : Bool := "bump".toList.isSuffixOf name.toList

/-- The arguments that are called bumps are those that are. -/
theorem namesBump_args (call : Call) :
    (call.method.args.map fun arg => namesBump arg.1)
      = call.arguments.map fun row => row.2.isBump := by
  cases call <;> rfl

section

variable (site : Place → Derived)

/-- The arguments stand one after the other. -/
theorem argsAt_eq_flatten (call : Call) :
    call.argsAt site = (call.arguments.map fun row => row.2.encode site).flatten := by
  cases call <;>
    simp [argsAt, bumpsAt, bumped, values, arguments, Argument.encode, Argument.global,
      Argument.escrow, Argument.record, Argument.sell, Argument.nft, Argument.offer,
      Argument.auction, Argument.user, Argument.seller, Argument.buyer]

/-- Cut by the widths of its types, what stands there are the arguments. -/
theorem splitLengths_argsAt (call : Call) :
    (call.method.args.map fun arg => arg.2.width).splitLengths (call.argsAt site)
      = call.arguments.map fun row => row.2.encode site := by
  have hwidths : (call.method.args.map fun arg => arg.2.width)
      = (call.arguments.map fun row => row.2.encode site).map List.length := by
    simp [args_method, Argument.length_encode]
  rw [hwidths, argsAt_eq_flatten, splitLengths_flatten]

end

/-! ### Accounts -/

/-- The further accounts of a call. -/
def remaining : Call → List Address
  | .purchase _ _ _ _ remaining => remaining
  | .acceptOffer _ _ _ _ remaining => remaining
  | .claimAuction _ _ _ _ remaining => remaining
  | _ => []

theorem remaining_eq_nil {call : Call} (h : call.method.takesRemaining = false) :
    call.remaining = [] := by
  cases call <;> first | rfl | cases h

section

variable (site : Place → Derived)

/-- The first accounts have the flags that the method asks for. -/
theorem flags_accountsAt (call : Call) :
    ((call.accountsAt site).take call.method.accounts.length).map
        (fun ref => (ref.isWritable, ref.isSigner))
      = call.method.accounts.map fun slot => (slot.isWritable, slot.isSigner) := by
  cases call <;> rfl

/-- The accounts after them are the further ones. -/
theorem drop_accountsAt (call : Call) :
    (call.accountsAt site).drop call.method.accounts.length
      = call.remaining.map AccountRef.writable := by
  cases call <;> rfl

/-- The account of an argument, if it is a bump, is one that the call looks for, and it stands where
the method has its name. -/
def Argument.Listed (call : Call) : Argument → Prop
  | .bump account place =>
      place ∈ call.places site ∧
        ((call.method.accounts.map (·.name)).zip (call.accountsAt site)).lookup account
          = some (placeRef site place)
  | _ => True

theorem listed_of_mem_arguments (call : Call) :
    ∀ row ∈ call.arguments, row.2.Listed site call := by
  cases call <;>
    simp [arguments, Argument.Listed, places, accountsAt, method, Method.accounts,
      AccountSlot.signer, AccountSlot.writable, AccountSlot.readOnly, List.lookup_cons,
      Argument.global, Argument.escrow, Argument.record, Argument.sell, Argument.nft,
      Argument.offer, Argument.auction, Argument.user, Argument.seller, Argument.buyer]

end

/-! ### What the catalog says -/

section

variable (market : Address) (entry : Catalog.Entry) (i : Instruction)

/-- What the bytes of an argument are.  A bump is the one with which the account is found whose name
it bears, and from which the address of that account can be created. -/
def Argument.Stands : Argument → Bytes → Prop
  | .bump account place, bs =>
      ∃ bump ref, bs = [bump] ∧ entry.account? i account = some ref ∧
        place.find market = .ok ⟨ref.address, bump⟩ ∧
        Address.create (place.seeds ++ [[bump]]) (place.owner market) = .ok ref.address
  | .u8 x, bs => bs = [x]
  | .u64 x, bs => bs = Bytes.ofU64 x
  | .i64 x, bs => bs = Bytes.ofI64 x
  | .publicKey a, bs => bs = a.bytes

/-- An instruction calls a method with these arguments, as the entry of the catalog says. -/
structure Follows (call : Call) : Prop where
  program : i.program = market
  opcode : i.data.take Method.opcodeLength = call.method.opcode
  discriminator : entry.discriminator = Hex.encode call.method.opcode
  /-- The arguments fill what the method has for them. -/
  width : i.data.length = Method.opcodeLength + call.method.argsLength
  args : entry.args = call.arguments.map fun row => ⟨row.1, row.2.type.name⟩
  /-- What is called a bump is one, and nothing else is. -/
  bumps : (entry.args.map fun arg => namesBump arg.name)
    = call.arguments.map fun row => row.2.isBump
  /-- Cut by the types of the entry, the data are the arguments. -/
  values : List.Forall₂ (Argument.Stands market entry i) (call.arguments.map (·.2))
    ((entry.args.map fun arg => ArgType.widthOfName arg.type).splitLengths
      (i.data.drop Method.opcodeLength))
  /-- An account is told by its name. -/
  names : (entry.accounts.map (·.name)).Nodup
  flags : (i.accounts.take entry.accounts.length).map (fun ref => (ref.isWritable, ref.isSigner))
    = entry.accounts.map fun account => (account.writable, account.signer)
  further : i.accounts.drop entry.accounts.length = call.remaining.map AccountRef.writable
  /-- Further accounts are given only where the entry says so. -/
  closed : entry.remainingAccounts = false → call.remaining = []

end

variable {market : Address} {call : Call} {i : Instruction}

/-- Each argument is what the catalog lists under its name. -/
theorem stands_of_build (h : call.build market = .ok i) {row : String × Argument}
    (hrow : row ∈ call.arguments) :
    row.2.Stands market (Catalog.ofMethod call.method) i (row.2.encode (Place.site market)) := by
  obtain ⟨hplaces, rfl⟩ := build_eq_ok_iff.1 h
  have hlisted := listed_of_mem_arguments (Place.site market) call row hrow
  obtain ⟨name, x⟩ := row
  cases x with
  | bump account place =>
      obtain ⟨hplace, haccount⟩ := hlisted
      have hfind := hplaces place hplace
      refine ⟨_, placeRef (Place.site market) place, rfl, ?_, hfind, Place.create_of_find hfind⟩
      simpa [Catalog.Entry.account?, Catalog.ofMethod, instruction, Function.comp_def] using
        haccount
  | u8 x => rfl
  | u64 x => rfl
  | i64 x => rfl
  | publicKey a => rfl

/-- **An instruction that is built is as the catalog says**: opcode, arguments one by one with the
bumps of the right accounts, the flags of the accounts, and what follows them. -/
theorem follows_of_build (h : call.build market = .ok i) :
    Catalog.ofMethod call.method ∈ Catalog.current.instructions ∧
      Follows market (Catalog.ofMethod call.method) i call := by
  have hbuilt := (build_eq_ok_iff.1 h).2
  have hdata : i.data = call.method.opcode ++ call.argsAt (Place.site market) := by
    rw [← hbuilt, instruction]
  have haccounts : i.accounts = call.accountsAt (Place.site market) := by
    rw [← hbuilt, instruction]
  have hlength : call.method.opcode.length = Method.opcodeLength := call.method.length_opcode
  have hopcode : i.data.take Method.opcodeLength = call.method.opcode := by
    rw [hdata, List.take_left' hlength]
  have hwidths : ((Catalog.ofMethod call.method).args.map fun arg => ArgType.widthOfName arg.type)
      = call.method.args.map fun arg => arg.2.width := by
    simp [Catalog.ofMethod]
  refine ⟨List.mem_map_of_mem call.method.mem_all, ?_⟩
  exact {
    program := by rw [← hbuilt, instruction]
    opcode := hopcode
    discriminator := rfl
    width := by rw [hdata, List.length_append, hlength, length_argsAt]
    args := by simp [Catalog.ofMethod, args_method]
    bumps := by simpa [Catalog.ofMethod, Function.comp_def] using namesBump_args call
    values := by
      rw [hwidths, hdata, List.drop_left' hlength, splitLengths_argsAt, List.forall₂_map_left_iff,
        List.forall₂_map_right_iff, List.forall₂_same]
      exact fun row hrow => stands_of_build h hrow
    names := by simpa [Catalog.ofMethod, Function.comp_def] using call.method.nodup_accounts
    flags := by
      simpa [Catalog.ofMethod, Function.comp_def, haccounts] using
        flags_accountsAt (Place.site market) call
    further := by
      simpa [Catalog.ofMethod, haccounts] using drop_accountsAt (Place.site market) call
    closed := remaining_eq_nil }

/-- A deposit, whose arguments are two bumps and an amount. -/
theorem follows_of_build_deposit :
    ∃ i, build Address.marketplace (.deposit (.ofNumber 1) 5) = .ok i ∧
      Catalog.ofMethod .deposit ∈ Catalog.current.instructions ∧
      Follows Address.marketplace (Catalog.ofMethod .deposit) i (.deposit (.ofNumber 1) 5) := by
  have hbuilds : (build Address.marketplace (.deposit (.ofNumber 1) 5)).isOk := by
    decide +kernel
  obtain ⟨i, h⟩ := exists_eq_ok_of_isOk hbuilds
  exact ⟨i, h, follows_of_build h⟩

end Call

end AssetMarket
