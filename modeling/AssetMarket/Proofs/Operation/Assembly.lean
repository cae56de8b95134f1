/-
**What an operation becomes.**

`Operation.assemble` mixes looks at the ledger, derived addresses and the choice of a call.  Here
the choice stands alone: the relation `Operation.Assembles` has one rule for each operation that
looks at something and one for all that do not, and each premise is a part of the assembly that
succeeded.  Facts about assembled operations are proved by cases on this relation, and no proof runs
through the assembly again.

Main definitions:

* `Instruction.opening` — the instruction that opens an associated account;
* `Instruction.opensTokenAccount` — whether an instruction is such a one;
* `Place.stored?` — the record at a place;
* `Operation.direct?` — the call of an operation that looks at nothing;
* `Operation.Assembles` — the call of an operation, with what is opened before it.

Main results:

* `eval_ensureAccount_eq_ok_iff` — an account is opened exactly if it is absent;
* `stored?_of_eval_record?`, `stored?_of_eval_required` — what is looked up is what is stored;
* `Operation.eval_assemble_eq_ok_iff` — **an operation is assembled exactly if it becomes a call
  that can be built**;
* `Operation.actor_of_assembles`, `Operation.opening_of_assembles` — the payer acts, and pays for
  what is opened.
-/

import AssetMarket.Operation.Assembly

set_option relaxedAutoImplicit false
set_option autoImplicit false

namespace AssetMarket

open Inquiry (eval eval_liftM eval_bind_of_eval eval_bind_eq_ok_iff eval_content?_eq_ok_iff
  eval_required_eq_ok_iff)

variable {read : Address → Option Bytes}

/-! ### Opening accounts -/

namespace Instruction

/-- The instruction that opens the associated account of an owner, at an address. -/
def opening (payer owner mint account : Address) : Instruction :=
  { program := Address.associatedTokenProgram
    accounts :=
      [.signer payer, .writable account, .readOnly owner, .readOnly mint,
       .readOnly Address.systemProgram, .readOnly Address.tokenProgram]
    data := [1] }

/-- Whether an instruction opens an associated account. -/
def opensTokenAccount (i : Instruction) : Bool :=
  i.program == Address.associatedTokenProgram && i.data == [1]

@[simp] theorem opensTokenAccount_opening (payer owner mint account : Address) :
    (opening payer owner mint account).opensTokenAccount = true := by
  simp [opensTokenAccount, opening]

end Instruction

theorem createTokenAccount_eq (payer owner mint : Address) :
    createTokenAccount payer owner mint = (associatedAccount owner mint).map fun account =>
      (Instruction.opening payer owner mint account, account) := by
  rw [createTokenAccount]
  cases associatedAccount owner mint <;> rfl

/-- An account is opened exactly if it is absent. -/
theorem eval_ensureAccount_eq_ok_iff {verbose : Bool} {payer owner mint account : Address}
    {create : Option Instruction} :
    (ensureAccount verbose payer owner mint).eval read = .ok (account, create) ↔
      associatedAccount owner mint = .ok account ∧
        create = if (read account).isSome then none
          else some (Instruction.opening payer owner mint account) := by
  rw [ensureAccount, createTokenAccount_eq, eval_bind_eq_ok_iff]
  simp only [eval_liftM]
  constructor
  · rintro ⟨address, haddress, h⟩
    cases hread : read address with
    | none =>
        obtain ⟨rfl, rfl⟩ :
            address = account ∧ some (Instruction.opening payer owner mint address) = create := by
          simpa [hread, haddress, Except.map, Except.bind] using h
        simp [haddress, hread]
    | some bytes =>
        obtain ⟨rfl, rfl⟩ : address = account ∧ none = create := by
          simpa [hread, Except.bind] using h
        simp [haddress, hread]
  · rintro ⟨haccount, rfl⟩
    refine ⟨account, haccount, ?_⟩
    cases hread : read account with
    | none => simp [hread, haccount, Except.map, Except.bind]
    | some bytes => simp [hread, Except.bind]

theorem opening_of_eval_ensureAccount {verbose : Bool} {payer owner mint account : Address}
    {create : Option Instruction}
    (h : (ensureAccount verbose payer owner mint).eval read = .ok (account, create)) :
    ∀ i ∈ create, i = .opening payer owner mint account := by
  intro i hi
  obtain ⟨-, hcreate⟩ := eval_ensureAccount_eq_ok_iff.1 h
  rw [hcreate] at hi
  split at hi
  · cases hi
  · cases hi
    rfl

theorem eval_openVault?_eq_ok_iff {ctx : Context} {payer mint : Address}
    {create : Option Instruction} :
    (openVault? ctx payer mint).eval read = .ok create ↔
      ∃ global account, Place.global.address ctx.market = .ok global ∧
        (ensureAccount ctx.verbose payer global mint).eval read = .ok (account, create) := by
  simp only [openVault?, eval_bind_eq_ok_iff, eval_liftM]
  constructor
  · rintro ⟨global, hglobal, ⟨account, create'⟩, hcreate, h⟩
    cases h
    exact ⟨global, account, hglobal, hcreate⟩
  · rintro ⟨global, account, hglobal, hcreate⟩
    exact ⟨global, hglobal, (account, create), hcreate, rfl⟩

/-! ### Records -/

section

/-- The record at a place, if there is something that can be read as one. -/
def Place.stored? {α : Type} (p : Place) (decode : Bytes → Except MarketError α)
    (read : Address → Option Bytes) (market : Address) : Option α := do
  let address ← (p.address market).toOption
  let bytes ← read address
  (decode bytes).toOption

variable {α : Type} {decode : Bytes → Except MarketError α} {market : Address} {p : Place}

theorem stored?_of_eval_record? {r : Option α}
    (h : eval read (do Inquiry.record? decode (← p.address market)) = .ok r) :
    p.stored? decode read market = r := by
  obtain ⟨address, haddress, hrecord⟩ := eval_bind_eq_ok_iff.1 h
  rw [eval_liftM] at haddress
  rcases eval_content?_eq_ok_iff.1 hrecord with ⟨hread, rfl⟩ | ⟨bytes, r, hread, hdecode, rfl⟩
  · simp [Place.stored?, haddress, hread, Except.toOption]
  · simp [Place.stored?, haddress, hread, hdecode, Except.toOption]

theorem stored?_of_eval_required {kind : String} {r : α}
    (h : eval read (do Inquiry.required kind decode (← p.address market)) = .ok r) :
    p.stored? decode read market = some r := by
  obtain ⟨address, haddress, hrecord⟩ := eval_bind_eq_ok_iff.1 h
  rw [eval_liftM] at haddress
  obtain ⟨bytes, hread, hdecode⟩ := eval_required_eq_ok_iff.1 hrecord
  simp [Place.stored?, haddress, hread, hdecode, Except.toOption]

end

/-! ### Calls -/

theorem Call.after_eq_ok_iff {call : Call} {market : Address} {create : Option Instruction}
    {set : InstructionSet} :
    call.after market create = .ok set ↔
      ∃ i, call.build market = .ok i ∧ set = { setup := create.toList, primary := i } := by
  rw [after]
  cases call.build market with
  | error e => simp [bind, Except.bind]
  | ok i => simp [bind, Except.bind, pure, Except.pure, eq_comm]

namespace Operation

/-- The call of an operation that looks at nothing. -/
def direct? (payer : Address) : Operation → Option Call
  | .openMarket => some (.openMarket payer)
  | .updateFee fee => some (.updateFee payer fee)
  | .addTreasury recipient rate => some (.addTreasury payer recipient rate)
  | .removeTreasury recipient => some (.removeTreasury payer recipient)
  | .initUser => some (.initUser payer)
  | .initListing mint => some (.initListing payer mint)
  | .initOffer mint => some (.initOffer payer mint)
  | .initAuction mint => some (.initAuction payer mint)
  | .setPrice mint price => some (.setPrice payer mint price)
  | .deposit amount => some (.deposit payer amount)
  | .withdraw amount => some (.withdraw payer amount)
  | .makeOffer mint price => some (.makeOffer payer mint price)
  | .cancelOffer mint => some (.cancelOffer payer mint)
  | .updateReserve mint price => some (.updateReserve payer mint price)
  | _ => none

section

variable (read : Address → Option Bytes) (ctx : Context) (source : CreatorSource) (payer : Address)

/-- The call that an operation becomes at a ledger with these data, and the instruction that opens
an account before it, if there is one. -/
inductive Assembles : Operation → Call → Option Instruction → Prop
  | direct {op : Operation} {call : Call} (hcall : op.direct? payer = some call) :
      Assembles op call none
  | list {mint account : Address} {price : UInt64} {create : Option Instruction}
      (haccount : (depositSource ctx.market payer mint).eval read = .ok account)
      (hcreate : (openVault? ctx payer mint).eval read = .ok create) :
      Assembles (.list mint price) (.list payer mint account price) create
  | delist {mint account : Address} {location : AssetLocation} {create : Option Instruction}
      (hlocation : (locate ctx.market payer mint).eval read = .ok location)
      (hcreate : (ensureAccount ctx.verbose payer payer mint).eval read = .ok (account, create)) :
      Assembles (.delist mint) (.delist payer mint account) create
  | transfer {mint recipient account : Address} {location : AssetLocation}
      {create : Option Instruction} {listing : Option Listing}
      (hlocation : (locate ctx.market payer mint).eval read = .ok location)
      (hcreate : (ensureAccount ctx.verbose payer recipient mint).eval read = .ok (account, create))
      (hlisting : (listing? ctx.market mint).eval read = .ok listing)
      (hlive : listing.any (·.isLive) = false) :
      Assembles (.transfer mint recipient)
        (.transfer payer mint location.account recipient account) create
  | transferFromVault {mint recipient account : Address} {location : AssetLocation}
      {create : Option Instruction} {listing : Option Listing}
      (hlocation : (locate ctx.market payer mint).eval read = .ok location)
      (hcreate : (ensureAccount ctx.verbose payer recipient mint).eval read = .ok (account, create))
      (hlisting : (listing? ctx.market mint).eval read = .ok listing)
      (hlive : listing.any (·.isLive) = true) :
      Assembles (.transfer mint recipient)
        (.transferFromVault payer mint recipient account) create
  | purchase {mint account : Address} {listing : Listing} {location : AssetLocation}
      {create : Option Instruction} {remaining : List Address}
      (hlisting : (requireListing ctx.market mint).eval read = .ok listing)
      (hlocation : (locate ctx.market listing.seller mint).eval read = .ok location)
      (hcreate : (ensureAccount ctx.verbose payer payer mint).eval read = .ok (account, create))
      (hremaining : (remainingAccounts ctx.market source mint).eval read = .ok remaining) :
      Assembles (.purchase mint)
        (.purchase payer listing.seller mint account remaining) create
  | acceptOffer {mint buyer account : Address} {location : AssetLocation}
      {create : Option Instruction} {remaining : List Address}
      (hlocation : (locate ctx.market payer mint).eval read = .ok location)
      (hcreate : (ensureAccount ctx.verbose payer buyer mint).eval read = .ok (account, create))
      (hremaining : (remainingAccounts ctx.market source mint).eval read = .ok remaining) :
      Assembles (.acceptOffer mint buyer)
        (.acceptOffer payer buyer mint account remaining) create
  | createAuction {mint account : Address} {terms : AuctionTerms} {create : Option Instruction}
      (haccount : (depositSource ctx.market payer mint).eval read = .ok account)
      (hcreate : (openVault? ctx payer mint).eval read = .ok create) :
      Assembles (.createAuction mint terms)
        (.createAuction payer mint account terms) create
  | placeBid {mint : Address} {price : UInt64} {auction : Auction}
      (hauction : (requireAuction ctx.market mint).eval read = .ok auction) :
      Assembles (.placeBid mint price)
        (.placeBid payer mint (if auction.hasBid then auction.lastBidder else payer) price) none
  | claimAuction {mint account : Address} {auction : Auction} {location : AssetLocation}
      {create : Option Instruction} {remaining : List Address}
      (hauction : (requireAuction ctx.market mint).eval read = .ok auction)
      (hlocation : (locate ctx.market auction.creator mint).eval read = .ok location)
      (hcreate : (ensureAccount ctx.verbose payer payer mint).eval read = .ok (account, create))
      (hremaining : (remainingAccounts ctx.market source mint).eval read = .ok remaining) :
      Assembles (.claimAuction mint)
        (.claimAuction payer auction.creator mint account remaining) create
  | cancelAuction {mint account : Address} {location : AssetLocation} {create : Option Instruction}
      (hlocation : (locate ctx.market payer mint).eval read = .ok location)
      (hcreate : (ensureAccount ctx.verbose payer payer mint).eval read = .ok (account, create)) :
      Assembles (.cancelAuction mint) (.cancelAuction payer mint account)
        create

end

variable {ctx : Context} {source : CreatorSource} {payer : Address} {op : Operation}

theorem assemble_of_direct {call : Call} (h : op.direct? payer = some call) :
    op.assemble ctx source payer = liftM (call.after ctx.market none) := by
  cases op <;> cases h <;> rfl

/-- A call that is made out, followed by what is opened before it. -/
theorem eval_assemble_of_assembles {call : Call} {create : Option Instruction}
    (h : Assembles read ctx source payer op call create) :
    (op.assemble ctx source payer).eval read = call.after ctx.market create := by
  cases h with
  | direct hcall => rw [assemble_of_direct hcall, eval_liftM]
  | list haccount hcreate =>
      rw [assemble, eval_bind_of_eval haccount, eval_bind_of_eval hcreate, eval_liftM]
  | delist hlocation hcreate =>
      rw [assemble, eval_bind_of_eval hlocation, eval_bind_of_eval hcreate]
      exact eval_liftM _ _
  | transfer hlocation hcreate hlisting hlive =>
      rw [assemble, eval_bind_of_eval hlocation, eval_bind_of_eval hcreate]
      dsimp only
      rw [eval_bind_of_eval hlisting, hlive]
      exact eval_liftM _ _
  | transferFromVault hlocation hcreate hlisting hlive =>
      rw [assemble, eval_bind_of_eval hlocation, eval_bind_of_eval hcreate]
      dsimp only
      rw [eval_bind_of_eval hlisting, hlive]
      exact eval_liftM _ _
  | purchase hlisting hlocation hcreate hremaining =>
      rw [assemble, eval_bind_of_eval hlisting, eval_bind_of_eval hlocation,
        eval_bind_of_eval hcreate]
      dsimp only
      rw [eval_bind_of_eval hremaining, eval_liftM]
  | acceptOffer hlocation hcreate hremaining =>
      rw [assemble, eval_bind_of_eval hlocation, eval_bind_of_eval hcreate]
      dsimp only
      rw [eval_bind_of_eval hremaining, eval_liftM]
  | createAuction haccount hcreate =>
      rw [assemble, eval_bind_of_eval haccount, eval_bind_of_eval hcreate, eval_liftM]
  | placeBid hauction =>
      rw [assemble, eval_bind_of_eval hauction, eval_liftM]
  | claimAuction hauction hlocation hcreate hremaining =>
      rw [assemble, eval_bind_of_eval hauction, eval_bind_of_eval hlocation,
        eval_bind_of_eval hcreate]
      dsimp only
      rw [eval_bind_of_eval hremaining, eval_liftM]
  | cancelAuction hlocation hcreate =>
      rw [assemble, eval_bind_of_eval hlocation, eval_bind_of_eval hcreate]
      exact eval_liftM _ _

/-- A successful assembly is made of successful parts, one for each look. -/
theorem exists_assembles_of_eval {set : InstructionSet}
    (h : (op.assemble ctx source payer).eval read = .ok set) :
    ∃ call create, Assembles read ctx source payer op call create := by
  cases op with
  | list mint price =>
      obtain ⟨account, haccount, h⟩ := eval_bind_eq_ok_iff.1 h
      obtain ⟨create, hcreate, -⟩ := eval_bind_eq_ok_iff.1 h
      exact ⟨_, _, .list haccount hcreate⟩
  | delist mint =>
      obtain ⟨location, hlocation, h⟩ := eval_bind_eq_ok_iff.1 h
      obtain ⟨⟨account, create⟩, hcreate, -⟩ := eval_bind_eq_ok_iff.1 h
      exact ⟨_, _, .delist hlocation hcreate⟩
  | transfer mint recipient =>
      obtain ⟨location, hlocation, h⟩ := eval_bind_eq_ok_iff.1 h
      obtain ⟨⟨account, create⟩, hcreate, h⟩ := eval_bind_eq_ok_iff.1 h
      obtain ⟨listing, hlisting, -⟩ := eval_bind_eq_ok_iff.1 h
      cases hlive : listing.any (·.isLive) with
      | false => exact ⟨_, _, .transfer hlocation hcreate hlisting hlive⟩
      | true => exact ⟨_, _, .transferFromVault hlocation hcreate hlisting hlive⟩
  | purchase mint =>
      obtain ⟨listing, hlisting, h⟩ := eval_bind_eq_ok_iff.1 h
      obtain ⟨location, hlocation, h⟩ := eval_bind_eq_ok_iff.1 h
      obtain ⟨⟨account, create⟩, hcreate, h⟩ := eval_bind_eq_ok_iff.1 h
      obtain ⟨remaining, hremaining, -⟩ := eval_bind_eq_ok_iff.1 h
      exact ⟨_, _, .purchase hlisting hlocation hcreate hremaining⟩
  | acceptOffer mint buyer =>
      obtain ⟨location, hlocation, h⟩ := eval_bind_eq_ok_iff.1 h
      obtain ⟨⟨account, create⟩, hcreate, h⟩ := eval_bind_eq_ok_iff.1 h
      obtain ⟨remaining, hremaining, -⟩ := eval_bind_eq_ok_iff.1 h
      exact ⟨_, _, .acceptOffer hlocation hcreate hremaining⟩
  | createAuction mint terms =>
      obtain ⟨account, haccount, h⟩ := eval_bind_eq_ok_iff.1 h
      obtain ⟨create, hcreate, -⟩ := eval_bind_eq_ok_iff.1 h
      exact ⟨_, _, .createAuction haccount hcreate⟩
  | placeBid mint price =>
      obtain ⟨auction, hauction, -⟩ := eval_bind_eq_ok_iff.1 h
      exact ⟨_, _, .placeBid hauction⟩
  | claimAuction mint =>
      obtain ⟨auction, hauction, h⟩ := eval_bind_eq_ok_iff.1 h
      obtain ⟨location, hlocation, h⟩ := eval_bind_eq_ok_iff.1 h
      obtain ⟨⟨account, create⟩, hcreate, h⟩ := eval_bind_eq_ok_iff.1 h
      obtain ⟨remaining, hremaining, -⟩ := eval_bind_eq_ok_iff.1 h
      exact ⟨_, _, .claimAuction hauction hlocation hcreate hremaining⟩
  | cancelAuction mint =>
      obtain ⟨location, hlocation, h⟩ := eval_bind_eq_ok_iff.1 h
      obtain ⟨⟨account, create⟩, hcreate, -⟩ := eval_bind_eq_ok_iff.1 h
      exact ⟨_, _, .cancelAuction hlocation hcreate⟩
  | _ => exact ⟨_, _, .direct rfl⟩

/-- **An operation is assembled exactly if it becomes a call that can be built.** -/
theorem eval_assemble_eq_ok_iff {set : InstructionSet} :
    (op.assemble ctx source payer).eval read = .ok set ↔
      ∃ call create i, Assembles read ctx source payer op call create ∧
        call.build ctx.market = .ok i ∧ set = { setup := create.toList, primary := i } := by
  constructor
  · intro h
    obtain ⟨call, create, hcall⟩ := exists_assembles_of_eval h
    rw [eval_assemble_of_assembles hcall] at h
    obtain ⟨i, hbuild, hset⟩ := Call.after_eq_ok_iff.1 h
    exact ⟨call, create, i, hcall, hbuild, hset⟩
  · rintro ⟨call, create, i, hcall, hbuild, hset⟩
    rw [eval_assemble_of_assembles hcall]
    exact Call.after_eq_ok_iff.2 ⟨i, hbuild, hset⟩

/-! ### What all calls have in common -/

/-- Whoever pays for an operation is the one that acts. -/
theorem actor_of_assembles {call : Call} {create : Option Instruction}
    (h : Assembles read ctx source payer op call create) : call.actor = payer := by
  cases h with
  | direct hcall => cases op <;> cases hcall <;> rfl
  | _ => rfl

/-- All that is done before a call is opening an account, at the payer's expense. -/
theorem opening_of_assembles {call : Call} {create : Option Instruction}
    (h : Assembles read ctx source payer op call create) :
    ∀ i ∈ create, ∃ owner mint account, i = .opening payer owner mint account := by
  have hensure : ∀ {owner mint account},
      (ensureAccount ctx.verbose payer owner mint).eval read = .ok (account, create) →
      ∀ i ∈ create, ∃ owner mint account, i = .opening payer owner mint account :=
    fun hcreate i hi => ⟨_, _, _, opening_of_eval_ensureAccount hcreate i hi⟩
  -- The vault is an account like any other, only that its owner has to be found first.
  have hvault : ∀ {mint}, (openVault? ctx payer mint).eval read = .ok create →
      ∀ i ∈ create, ∃ owner mint account, i = .opening payer owner mint account := by
    intro mint hcreate
    obtain ⟨global, account, -, hopened⟩ := eval_openVault?_eq_ok_iff.1 hcreate
    exact hensure hopened
  cases h with
  | direct hcall | placeBid hauction =>
      intro i hi
      cases hi
  | list haccount hcreate | createAuction haccount hcreate => exact hvault hcreate
  | delist hlocation hcreate | cancelAuction hlocation hcreate
  | transfer hlocation hcreate hlisting hlive | transferFromVault hlocation hcreate hlisting hlive
  | acceptOffer hlocation hcreate hremaining | purchase hlisting hlocation hcreate hremaining
  | claimAuction hauction hlocation hcreate hremaining => exact hensure hcreate

theorem opensTokenAccount_of_assembles {call : Call} {create : Option Instruction}
    (h : Assembles read ctx source payer op call create) :
    ∀ i ∈ create, i.opensTokenAccount = true := by
  intro i hi
  obtain ⟨owner, mint, account, rfl⟩ := opening_of_assembles h i hi
  exact Instruction.opensTokenAccount_opening payer owner mint account

end Operation

end AssetMarket
