/-
**Counterparties come from the stored records.**

Whoever buys, claims or outbids deals with somebody whom he does not name: the seller stands in the
listing, the creator and the last bidder stand in the auction.  An instruction names the parties,
their user accounts and their token accounts by nothing but their position, and all of them are
addresses.  Here each position is given the one it belongs to.

An instruction that was built from a call has the addresses of places where the layout of the call
has the places, so each position is read off the layout.  In the transaction around it no other
instruction calls the same method.

Main definitions:

* `Instruction.NamesAt` — an instruction names what is found somewhere, at a position;
* `PaysSeller`, `PaysCreator`, `DeliversToBuyer` — the parties of a purchase, of a claim and of an
  offer that is accepted.

Main results:

* `Call.namesAt_place`, `Call.namesAt_vault` — the layout of a call tells its positions;
* `Operation.only_call_of_prepare` — the call of an operation is made once;
* `Operation.counterparties_from_records` — **counterparties come from the stored records**.
-/

import AssetMarket.Proofs.Operation.Transfer

set_option relaxedAutoImplicit false
set_option autoImplicit false

namespace AssetMarket

open Inquiry (eval eval_bind eval_bind_of_eval eval_liftM_bind eval_content?_eq_ok_iff)

/-! ### Positions -/

/-- At a position an instruction names an account that may change, at the address that is found. -/
def Instruction.NamesAt (i : Instruction) (n : Nat) (found : Except MarketError Address) : Prop :=
  ∃ a, found = .ok a ∧ i.accounts[n]? = some (.writable a)

namespace Call

variable {market mint : Address} {call : Call} {i : Instruction} {n : Nat} {p : Place}

/-- Where the layout of a call has a place, the instruction names the address of the place. -/
theorem namesAt_place (h : call.build market = .ok i) (hp : p ∈ call.places (Place.site market))
    (hn : (call.accountsAt (Place.site market))[n]? = some (placeRef (Place.site market) p)) :
    i.NamesAt n (p.address market) :=
  ⟨_, address_of_mem_places h hp, by rw [accounts_of_build h, hn]; rfl⟩

/-- The vault's account for a mint is the place of the settings record's account. -/
theorem namesAt_vault (h : call.build market = .ok i)
    (hglobal : .global ∈ call.places (Place.site market))
    (hvault : Place.vault (Place.site market) mint ∈ call.places (Place.site market))
    (hn : (call.accountsAt (Place.site market))[n]?
      = some (placeRef (Place.site market) (Place.vault (Place.site market) mint))) :
    i.NamesAt n (vaultAccount market mint) := by
  obtain ⟨a, ha, hnames⟩ := namesAt_place h hvault hn
  exact ⟨a, vaultAccount_eq_ok_iff.2 ⟨_, address_of_mem_places h hglobal, ha⟩, hnames⟩

theorem namesAt_account (h : call.build market = .ok i) {found : Except MarketError Address}
    {a : Address} (ha : found = .ok a)
    (hn : (call.accountsAt (Place.site market))[n]? = some (.writable a)) : i.NamesAt n found :=
  ⟨a, ha, by rw [accounts_of_build h, hn]⟩

end Call

/-! ### Parties -/

section

variable (i : Instruction) (market payer mint : Address)

/-- The parties of a purchase. -/
structure PaysSeller (party : Address) : Prop where
  buyerUser : i.NamesAt 3 ((Place.user payer).address market)
  buyerAccount : i.NamesAt 4 (associatedAccount payer mint)
  vault : i.NamesAt 5 (vaultAccount market mint)
  seller : i.accounts[6]? = some (.writable party)
  sellerUser : i.NamesAt 7 ((Place.user party).address market)

/-- The parties of the claim of an asset that was auctioned. -/
structure PaysCreator (party : Address) : Prop where
  bidderAccount : i.NamesAt 3 (associatedAccount payer mint)
  vault : i.NamesAt 4 (vaultAccount market mint)
  creator : i.accounts[8]? = some (.writable party)
  creatorUser : i.NamesAt 9 ((Place.user party).address market)

/-- The parties of an offer that is accepted. -/
structure DeliversToBuyer (buyer : Address) : Prop where
  offer : i.NamesAt 3 ((Place.offer mint buyer).address market)
  sellerUser : i.NamesAt 4 ((Place.user payer).address market)
  buyerUser : i.NamesAt 7 ((Place.user buyer).address market)
  buyerAccount : i.NamesAt 8 (associatedAccount buyer mint)
  vault : i.NamesAt 9 (vaultAccount market mint)

end

variable {market payer mint account other : Address} {i : Instruction} {remaining : List Address}

open Call (namesAt_place namesAt_vault namesAt_account)

theorem paysSeller_of_build
    (h : (Call.purchase payer other mint account remaining).build market = .ok i)
    (haccount : associatedAccount payer mint = .ok account) :
    PaysSeller i market payer mint other where
  buyerUser := namesAt_place h (by simp [Call.places]) rfl
  buyerAccount := namesAt_account h haccount rfl
  vault := namesAt_vault h (by simp [Call.places]) (by simp [Call.places]) rfl
  seller := by
    rw [Call.accounts_of_build h]
    rfl
  sellerUser := namesAt_place h (by simp [Call.places]) rfl

theorem paysCreator_of_build
    (h : (Call.claimAuction payer other mint account remaining).build market = .ok i)
    (haccount : associatedAccount payer mint = .ok account) :
    PaysCreator i market payer mint other where
  bidderAccount := namesAt_account h haccount rfl
  vault := namesAt_vault h (by simp [Call.places]) (by simp [Call.places]) rfl
  creator := by
    rw [Call.accounts_of_build h]
    rfl
  creatorUser := namesAt_place h (by simp [Call.places]) rfl

theorem deliversToBuyer_of_build
    (h : (Call.acceptOffer payer other mint account remaining).build market = .ok i)
    (haccount : associatedAccount other mint = .ok account) :
    DeliversToBuyer i market payer mint other where
  offer := namesAt_place h (by simp [Call.places]) rfl
  sellerUser := namesAt_place h (by simp [Call.places]) rfl
  buyerUser := namesAt_place h (by simp [Call.places]) rfl
  buyerAccount := namesAt_account h haccount rfl
  vault := namesAt_vault h (by simp [Call.places]) (by simp [Call.places]) rfl

namespace Operation

variable {read : Address → Option Bytes} {ctx : Context} {source : CreatorSource} {op : Operation}
  {tx : Transaction}

/-- The call of an operation is made once, unless it is one that creates a record. -/
theorem only_call_of_prepare (h : (op.prepare ctx source payer).eval read = .ok tx) :
    ∃ call create i, Assembles read ctx source payer op call create ∧
      call.build ctx.market = .ok i ∧
      (call.created? = none → tx.instructions.filter (·.calls ctx.market call.method) = [i]) := by
  obtain ⟨creations, call, create, i, hcreations, hcall, hbuild, rfl⟩ := parts_of_eval_prepare h
  refine ⟨call, create, i, hcall, hbuild, fun hcreates => ?_⟩
  have hmethod : call.method ∉ Method.creators := by
    rw [Call.method_mem_creators_iff, hcreates]
    exact Bool.false_ne_true
  -- in front of the call stand creations of records and what opens an account
  have hmissing : creations.filter (·.calls ctx.market call.method) = [] := by
    rw [List.filter_eq_nil_iff]
    intro j hj hcalls
    obtain ⟨call', hcall', hj⟩ := exists_build_of_map_build hcreations hj
    obtain ⟨r, -, rfl⟩ := List.mem_map.1 hcall'
    rw [Call.calls_of_build hj, decide_eq_true_eq] at hcalls
    refine hmethod (hcalls ▸ Call.method_mem_creators_iff.2 ?_)
    rw [Call.created?_lazyRecord]
    rfl
  have hopened : create.toList.filter (·.calls ctx.market call.method) = [] := by
    rw [List.filter_eq_nil_iff]
    intro j hj
    rw [Instruction.calls_of_opensTokenAccount
      (opensTokenAccount_of_assembles hcall j (Option.mem_toList.1 hj))]
    exact Bool.false_ne_true
  have hown : [i].filter (·.calls ctx.market call.method) = [i] := by
    rw [List.filter_singleton, Call.calls_of_build hbuild]
    simp
  rw [List.filter_append, List.filter_append, hmissing, hopened, hown, List.nil_append,
    List.nil_append]

/-- Who gets his coins back: the last bidder, and the payer where nobody has bid. -/
theorem outBidder_eq (auction : Auction) (payer : Address) :
    (if auction.hasBid then auction.lastBidder else payer)
      = if auction.lastBidder = .zero then payer else auction.lastBidder := by
  by_cases hzero : auction.lastBidder = .zero <;> simp [Auction.hasBid, hzero]

theorem refunds_of_prepare {price : UInt64}
    (h : ((placeBid mint price).prepare ctx source payer).eval read = .ok tx) :
    ∃ i auction, tx.instructions.filter (·.calls ctx.market .placeBid) = [i] ∧
      storedAuction? read ctx.market mint = some auction ∧
      i.accounts[4]? = some (.writable
        (if auction.lastBidder = .zero then payer else auction.lastBidder)) := by
  obtain ⟨call, create, i, hcall, hbuild, honly⟩ := only_call_of_prepare h
  cases hcall with
  | direct hdirect => cases hdirect
  | @placeBid _ _ auction hauction =>
      refine ⟨i, auction, honly rfl, stored?_of_eval_required hauction, ?_⟩
      rw [Call.accounts_of_build hbuild, ← outBidder_eq]
      rfl

theorem paysSeller_of_prepare
    (h : ((purchase mint).prepare ctx source payer).eval read = .ok tx) :
    ∃ i listing, tx.instructions.filter (·.calls ctx.market .purchase) = [i] ∧
      storedListing? read ctx.market mint = some listing ∧
      PaysSeller i ctx.market payer mint listing.seller := by
  obtain ⟨call, create, i, hcall, hbuild, honly⟩ := only_call_of_prepare h
  cases hcall with
  | direct hdirect => cases hdirect
  | @purchase _ _ listing _ _ _ hlisting _ hcreate _ =>
      exact ⟨i, listing, honly rfl, stored?_of_eval_required hlisting,
        paysSeller_of_build hbuild (eval_ensureAccount_eq_ok_iff.1 hcreate).1⟩

theorem paysCreator_of_prepare
    (h : ((claimAuction mint).prepare ctx source payer).eval read = .ok tx) :
    ∃ i auction, tx.instructions.filter (·.calls ctx.market .claimAuction) = [i] ∧
      storedAuction? read ctx.market mint = some auction ∧
      PaysCreator i ctx.market payer mint auction.creator := by
  obtain ⟨call, create, i, hcall, hbuild, honly⟩ := only_call_of_prepare h
  cases hcall with
  | direct hdirect => cases hdirect
  | @claimAuction _ _ auction _ _ _ hauction _ hcreate _ =>
      exact ⟨i, auction, honly rfl, stored?_of_eval_required hauction,
        paysCreator_of_build hbuild (eval_ensureAccount_eq_ok_iff.1 hcreate).1⟩

theorem deliversToBuyer_of_prepare {buyer : Address}
    (h : ((acceptOffer mint buyer).prepare ctx source payer).eval read = .ok tx) :
    ∃ i, tx.instructions.filter (·.calls ctx.market .acceptOffer) = [i] ∧
      DeliversToBuyer i ctx.market payer mint buyer := by
  obtain ⟨call, create, i, hcall, hbuild, honly⟩ := only_call_of_prepare h
  cases hcall with
  | direct hdirect => cases hdirect
  | acceptOffer _ hcreate _ =>
      exact ⟨i, honly rfl,
        deliversToBuyer_of_build hbuild (eval_ensureAccount_eq_ok_iff.1 hcreate).1⟩

/-! ### Records that are missing -/

theorem eval_required_of_absent {α : Type} {decode : Bytes → Except MarketError α} {p : Place}
    {a : Address} (ha : p.address market = .ok a) (habsent : read a = none) (kind : String) :
    eval read (do Inquiry.required kind decode (← p.address market))
      = .error (.recordAbsent kind a.text) := by
  have hcontent : (Inquiry.record? decode a).eval read = .ok none :=
    eval_content?_eq_ok_iff.2 (.inl ⟨habsent, rfl⟩)
  rw [eval_liftM_bind ha, Inquiry.required, eval_bind_of_eval hcontent]
  rfl

/-- An operation that begins with a look for a record ends where the record is missing. -/
theorem eval_prepare_of_required_error {α : Type} {x : Inquiry α} {f : α → Inquiry InstructionSet}
    {e : MarketError} (hassemble : op.assemble ctx source payer = x >>= f)
    (hx : x.eval read = .error e) : (op.prepare ctx source payer).eval read = .error e := by
  refine eval_prepare_of_assemble_error ?_
  rw [hassemble, eval_bind, hx]
  rfl

/-- **Counterparties come from the stored records.**  A bid gives the last bidder of the stored
auction his coins back, or the payer where nobody has bid.  A purchase pays the seller of the stored
listing, and a claim the creator of the stored auction, with the user account of just that party;
what an offer that is accepted is about is the offer of its buyer.  All else is the payer's own or
lies in the vault.  Each of these instructions stands once in its transaction.  Where the record is
missing there is no transaction, and the failure says which record is. -/
theorem counterparties_from_records (d : Desk MemoryLedger) (ctx : Context)
    (source : CreatorSource) (payer mint : Address) :
    (∀ price tx, ((placeBid mint price).prepare ctx source payer).answer d = .ok tx →
      ∃ i auction, tx.instructions.filter (·.calls ctx.market .placeBid) = [i] ∧
        storedAuction? d.ledger.data? ctx.market mint = some auction ∧
        i.accounts[4]? = some (.writable
          (if auction.lastBidder = .zero then payer else auction.lastBidder))) ∧
    (∀ tx, ((purchase mint).prepare ctx source payer).answer d = .ok tx →
      ∃ i listing, tx.instructions.filter (·.calls ctx.market .purchase) = [i] ∧
        storedListing? d.ledger.data? ctx.market mint = some listing ∧
        PaysSeller i ctx.market payer mint listing.seller) ∧
    (∀ tx, ((claimAuction mint).prepare ctx source payer).answer d = .ok tx →
      ∃ i auction, tx.instructions.filter (·.calls ctx.market .claimAuction) = [i] ∧
        storedAuction? d.ledger.data? ctx.market mint = some auction ∧
        PaysCreator i ctx.market payer mint auction.creator) ∧
    (∀ buyer tx, ((acceptOffer mint buyer).prepare ctx source payer).answer d = .ok tx →
      ∃ i, tx.instructions.filter (·.calls ctx.market .acceptOffer) = [i] ∧
        DeliversToBuyer i ctx.market payer mint buyer) ∧
    (∀ a, (Place.listing mint).address ctx.market = .ok a → d.ledger.data? a = none →
      ((purchase mint).prepare ctx source payer).answer d
        = .error (.recordAbsent Listing.kindName a.text)) ∧
    ∀ a, (Place.auction mint).address ctx.market = .ok a → d.ledger.data? a = none →
      (∀ price, ((placeBid mint price).prepare ctx source payer).answer d
        = .error (.recordAbsent Auction.kindName a.text)) ∧
      ((claimAuction mint).prepare ctx source payer).answer d
        = .error (.recordAbsent Auction.kindName a.text) := by
  simp only [Inquiry.answer_eq_eval]
  refine ⟨fun _ _ => refunds_of_prepare, fun _ => paysSeller_of_prepare,
    fun _ => paysCreator_of_prepare, fun _ _ => deliversToBuyer_of_prepare, ?_, ?_⟩
  · intro a ha habsent
    exact eval_prepare_of_required_error rfl (eval_required_of_absent ha habsent _)
  · intro a ha habsent
    have hmissing : (requireAuction ctx.market mint).eval d.ledger.data?
        = .error (.recordAbsent Auction.kindName a.text) := eval_required_of_absent ha habsent _
    exact ⟨fun price => eval_prepare_of_required_error rfl hmissing,
      eval_prepare_of_required_error rfl hmissing⟩

/-- Whoever bids for the asset that is being auctioned gives the last bidder his coins back. -/
theorem counterparties_from_records_bid :
    ∃ (tx : Transaction) (i : Instruction),
      ((placeBid (.ofNumber 19) 200).prepare .default .recorded (.ofNumber 2)).answer auctionDesk
        = .ok tx ∧
      tx.instructions.filter (·.calls Address.marketplace .placeBid) = [i] ∧
      i.accounts[4]? = some (.writable (.ofNumber 6)) := by
  have hprepares : (((placeBid (.ofNumber 19) 200).prepare .default .recorded
      (.ofNumber 2)).answer auctionDesk).isOk := by decide +kernel
  obtain ⟨tx, htx⟩ := exists_eq_ok_of_isOk hprepares
  obtain ⟨hbids, -⟩ :=
    counterparties_from_records auctionDesk .default .recorded (.ofNumber 2) (.ofNumber 19)
  obtain ⟨i, auction, honly, hauction, hrefunds⟩ := hbids 200 tx htx
  have hbidder : (storedAuction? auctionDesk.ledger.data? Address.marketplace (.ofNumber 19)).map
      (·.lastBidder) = some (.ofNumber 6) := by decide +kernel
  have hstored : storedAuction? auctionDesk.ledger.data? Address.marketplace (.ofNumber 19)
      = some auction := hauction
  rw [hstored] at hbidder
  have hlast : auction.lastBidder = .ofNumber 6 := Option.some.inj hbidder
  have hnonzero : Address.ofNumber 6 ≠ .zero := by decide
  rw [hlast, if_neg hnonzero] at hrefunds
  exact ⟨tx, i, htx, honly, hrefunds⟩

end Operation

end AssetMarket
