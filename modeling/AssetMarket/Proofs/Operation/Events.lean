/-
**From an operation to its events.**

Preparing an operation and reading events from the ledger are the two ends of the client, and they
share nothing but the layout of instructions.  Here they are put together: the transaction of an
operation, once it is part of the past, shows as one event for each record that was created and one
for the operation itself.  Instructions that open accounts are not the program's, and even where
they are taken for such they are too short to be an event.

Main definitions:

* `Transaction.recorded` — a transaction as the ledger keeps it, when no program moved any coins;
* `Transaction.Prepared` — each instruction opens an account or was built from a call;
* `Call.event` — the event that a call is in such a transaction;
* `LazyRecord.action` — the action that the creation of a record is;
* `storedListing?`, `storedAuction?` — the records of a mint that the ledger stores;
* `Operation.action` — the action of an operation, told from these records.

Main results:

* `Operation.action_of_assembles` — an operation becomes the call that its action says;
* `events_recorded_of_parts` — the events of a prepared transaction are those of its calls;
* `Operation.events_of_prepare` — **an operation shows as what it is**.
-/

import Mathlib.Data.List.Forall2
import AssetMarket.Proofs.Event.RoundTrip
import AssetMarket.Proofs.Operation.Preparation

set_option relaxedAutoImplicit false
set_option autoImplicit false

namespace AssetMarket

/-- A list of which some elements are passed over, next to the results for the others. -/
theorem forall₂_filter_filterMap {α β : Type} {R : α → β → Prop} {p : α → Bool}
    {g : α → Option β} {l : List α}
    (h : ∀ a ∈ l, p a = false ∧ g a = none ∨ p a = true ∧ ∃ b, g a = some b ∧ R a b) :
    List.Forall₂ R (l.filter p) (l.filterMap g) := by
  induction l with
  | nil => exact .nil
  | cons a l ih =>
      have hrest := ih fun a' ha' => h a' (.tail _ ha')
      rcases h a (.head _) with ⟨hp, hnone⟩ | ⟨hp, b, hsome, hab⟩
      · rw [List.filter_cons_of_neg (by simp [hp]), List.filterMap_cons_none hnone]
        exact hrest
      · rw [List.filter_cons_of_pos hp, List.filterMap_cons_some hsome]
        exact .cons hab hrest

/-! ### Transactions without moves of coins -/

/-- A transaction as the ledger keeps it, when no program moved any coins. -/
def Transaction.recorded (tx : Transaction) (signature : String) (blockTime : Option Int64) :
    PastTransaction :=
  { signature, blockTime, instructions := tx.instructions.map (·.recorded), inner := [] }

/-- The event that a call is in a transaction without moves of coins. -/
def Call.event (call : Call) (signature : String) (blockTime : Option Int64) : Event :=
  { signature, blockTime
    signer := call.actor
    fingerprint := call.method.fingerprint.head
    action := call.action blockTime 0 }

section

variable (tx : Transaction) (signature : String) (blockTime : Option Int64)

theorem instructionEvent_recorded_of_build {market : Address} {call : Call} {i : Instruction}
    (h : call.build market = .ok i) (index : Nat) :
    (tx.recorded signature blockTime).instructionEvent index i.recorded
      = .ok (some (call.event signature blockTime)) :=
  Call.instructionEvent_of_build h (tx.recorded signature blockTime) index

theorem eventFor?_recorded_of_build {market : Address} {call : Call} {i : Instruction}
    (h : call.build market = .ok i) (index : Nat) :
    (tx.recorded signature blockTime).eventFor? market (i.recorded, index)
      = some (call.event signature blockTime) := by
  have hprogram : i.recorded.program = market := by
    rw [← (Call.build_eq_ok_iff.1 h).2]
    rfl
  rw [PastTransaction.eventFor?, if_pos hprogram, instructionEvent_recorded_of_build tx _ _ h]

/-- An instruction that opens an account is no event, whatever program the market is. -/
theorem eventFor?_recorded_of_opensTokenAccount {i : Instruction} (h : i.opensTokenAccount = true)
    (market : Address) (index : Nat) :
    (tx.recorded signature blockTime).eventFor? market (i.recorded, index) = none := by
  have hdata : i.recorded.data = [1] := by
    rw [Instruction.opensTokenAccount, Bool.and_eq_true] at h
    exact eq_of_beq h.2
  -- One byte has a text of one character, and a head has eight.
  have hhead : Fingerprint.headOf? i.recorded.data = none := by
    rw [hdata]
    decide
  rw [PastTransaction.eventFor?, PastTransaction.instructionEvent, hhead]
  split <;> rfl

theorem not_opensTokenAccount_of_build {market : Address} {call : Call} {i : Instruction}
    (h : call.build market = .ok i) : i.opensTokenAccount = false := by
  have hlen : i.data.length ≠ 1 := by
    rw [← (Call.build_eq_ok_iff.1 h).2, Call.instruction, List.length_append, Method.length_opcode]
    omega
  have hdata : (i.data == [1]) = false := by
    rw [beq_eq_false_iff_ne]
    intro hone
    exact hlen (by rw [hone]; rfl)
  rw [Instruction.opensTokenAccount, hdata, Bool.and_false]

/-- The instructions of a prepared transaction: each opens an account or was built from a call. -/
def Transaction.Prepared (tx : Transaction) (market : Address) : Prop :=
  ∀ i ∈ tx.instructions, i.opensTokenAccount = true ∨ ∃ call : Call, call.build market = .ok i

variable {tx signature blockTime} {market : Address}

theorem events_recorded_eq_filterMap_zipIdx :
    (tx.recorded signature blockTime).events market
      = tx.instructions.zipIdx.filterMap fun entry =>
          (tx.recorded signature blockTime).eventFor? market (entry.1.recorded, entry.2) := by
  rw [PastTransaction.events, Transaction.recorded, List.zipIdx_map, List.filterMap_map]
  rfl

/-- Where no coins are moved the position of an instruction has no influence on its event. -/
theorem events_recorded_eq_filterMap :
    (tx.recorded signature blockTime).events market
      = tx.instructions.filterMap fun i =>
          (tx.recorded signature blockTime).eventFor? market (i.recorded, 0) := by
  calc (tx.recorded signature blockTime).events market
      = tx.instructions.zipIdx.filterMap ((fun i =>
          (tx.recorded signature blockTime).eventFor? market (i.recorded, 0)) ∘ Prod.fst) :=
        events_recorded_eq_filterMap_zipIdx
    _ = tx.instructions.filterMap fun i =>
          (tx.recorded signature blockTime).eventFor? market (i.recorded, 0) := by
        rw [← List.filterMap_map, List.zipIdx_map_fst]

/-- **One event for each instruction** that does not open an account, in the same order. -/
theorem forall₂_events_recorded (htx : tx.Prepared market) :
    List.Forall₂
      (fun entry event => (tx.recorded signature blockTime).eventAt entry.2 = .ok (some event))
      (tx.instructions.zipIdx.filter fun entry => !entry.1.opensTokenAccount)
      ((tx.recorded signature blockTime).events market) := by
  rw [events_recorded_eq_filterMap_zipIdx]
  refine forall₂_filter_filterMap ?_
  intro entry hentry
  have hget : tx.instructions[entry.2]? = some entry.1 := List.mem_zipIdx_iff_getElem?.1 hentry
  rcases htx entry.1 (List.mem_of_getElem? hget) with hopens | ⟨call, hbuild⟩
  · left
    rw [hopens]
    exact ⟨rfl, eventFor?_recorded_of_opensTokenAccount tx _ _ hopens market entry.2⟩
  · right
    rw [not_opensTokenAccount_of_build hbuild]
    refine ⟨rfl, _, eventFor?_recorded_of_build tx _ _ hbuild entry.2, ?_⟩
    have hi : (tx.recorded signature blockTime).instructions[entry.2]? = some entry.1.recorded := by
      rw [Transaction.recorded, List.getElem?_map, hget]
      rfl
    rw [PastTransaction.eventAt, hi]
    exact instructionEvent_recorded_of_build tx _ _ hbuild entry.2

/-- The events of instructions that were built from calls are those of the calls. -/
theorem filterMap_eventFor?_of_map_build {calls : List Call} {is : List Instruction}
    (h : is.map .ok = calls.map (·.build market)) :
    is.filterMap (fun i => (tx.recorded signature blockTime).eventFor? market (i.recorded, 0))
      = calls.map (·.event signature blockTime) := by
  rw [filterMap_of_map_build (fun call i hbuild =>
    eventFor?_recorded_of_build tx signature blockTime hbuild 0) h]
  exact congrFun List.filterMap_eq_map calls

/-! ### The parts of a transaction -/

variable {calls : List Call} {creations : List Instruction} {create : Option Instruction}
  {call : Call} {i : Instruction} (hcreations : creations.map .ok = calls.map (·.build market))
  (hopens : ∀ j ∈ create, j.opensTokenAccount = true) (hbuild : call.build market = .ok i)
  (htx : tx.instructions = creations ++ (create.toList ++ [i]))

include hcreations hopens hbuild htx

theorem prepared_of_parts : tx.Prepared market := by
  rw [Transaction.Prepared, htx]
  refine Operation.forall_mem_parts ?_ (fun j hj => .inl (hopens j hj)) (.inr ⟨call, hbuild⟩)
  intro j hj
  obtain ⟨made, -, hmade⟩ := exists_build_of_map_build hcreations hj
  exact .inr ⟨made, hmade⟩

/-- The events of a transaction are those of its calls; what opens an account leaves none. -/
theorem events_recorded_of_parts :
    (tx.recorded signature blockTime).events market
      = (calls ++ [call]).map (·.event signature blockTime) := by
  have hnone : create.toList.filterMap (fun j =>
      (tx.recorded signature blockTime).eventFor? market (j.recorded, 0)) = [] := by
    rw [List.filterMap_eq_nil_iff]
    intro j hj
    exact eventFor?_recorded_of_opensTokenAccount tx _ _ (hopens j (Option.mem_toList.1 hj)) _ _
  have hown : [i].map .ok = [call].map (·.build market) := by
    rw [List.map_singleton, List.map_singleton, hbuild]
  rw [events_recorded_eq_filterMap, htx, List.filterMap_append, List.filterMap_append, hnone,
    filterMap_eventFor?_of_map_build hcreations, filterMap_eventFor?_of_map_build hown,
    List.nil_append, List.map_append]

end

/-! ### Actions of operations -/

/-- The action that the creation of a record is. -/
def LazyRecord.action : LazyRecord → Action
  | .userAccount => .initUser
  | .listing mint => .initListing mint
  | .auction mint => .initAuction mint
  | .offer mint => .initOffer mint

theorem LazyRecord.actor_call (r : LazyRecord) (payer : Address) :
    (r.call payer).actor = payer := by
  cases r <;> rfl

theorem LazyRecord.action_call (r : LazyRecord) (payer : Address) (blockTime : Option Int64) :
    (r.call payer).action blockTime 0 = r.action := by
  cases r <;> rfl

/-- The listing of a mint that the ledger stores. -/
def storedListing? (read : Address → Option Bytes) (market mint : Address) : Option Listing :=
  (Place.listing mint).stored? Listing.decode read market

/-- The auction of a mint that the ledger stores. -/
def storedAuction? (read : Address → Option Bytes) (market mint : Address) : Option Auction :=
  (Place.auction mint).stored? Auction.decode read market

namespace Operation

/-- The action that an operation is, given the listings and auctions that the ledger stores, when no
coins are moved.  Trades need the record that names the other party. -/
def action (op : Operation) (payer : Address) (blockTime : Option Int64)
    (listingOf : Address → Option Listing) (auctionOf : Address → Option Auction) :
    Option Action :=
  match op with
  | .openMarket => some .openMarket
  | .updateFee fee => some (.updateFee fee)
  | .addTreasury recipient rate => some (.addTreasury recipient rate)
  | .removeTreasury recipient => some (.removeTreasury recipient)
  | .initUser => some .initUser
  | .initListing mint => some (.initListing mint)
  | .list mint price => some (.list mint price)
  | .delist mint => some (.delist mint)
  | .setPrice mint price => some (.setPrice mint price)
  | .transfer mint recipient =>
      some (if (listingOf mint).any (·.isLive) then .transferFromVault mint recipient
        else .transfer mint recipient)
  | .purchase mint => (listingOf mint).map fun listing => .purchase mint payer listing.seller 0
  | .deposit amount => some (.deposit amount)
  | .withdraw amount => some (.withdraw amount)
  | .initOffer mint => some (.initOffer mint)
  | .makeOffer mint price => some (.makeOffer mint 0 price)
  | .cancelOffer mint => some (.cancelOffer mint)
  | .acceptOffer mint buyer => some (.acceptOffer mint buyer payer 0)
  | .initAuction mint => some (.initAuction mint)
  | .createAuction mint terms =>
      some (.createAuction mint terms.startPrice terms.minIncrease terms.duration
        (Action.endDate blockTime terms.duration))
  | .placeBid mint price => some (.placeBid mint 0 price)
  | .claimAuction mint =>
      (auctionOf mint).map fun auction => .claimAuction mint payer auction.creator 0
  | .updateReserve mint price => some (.updateReserve mint price)
  | .cancelAuction mint => some (.cancelAuction mint)

variable {read : Address → Option Bytes} {ctx : Context} {source : CreatorSource}
  {payer : Address} {op : Operation}

/-- An operation becomes the call that its action says. -/
theorem action_of_assembles {call : Call} {create : Option Instruction}
    (h : Assembles read ctx source payer op call create) (blockTime : Option Int64) :
    op.action payer blockTime (storedListing? read ctx.market) (storedAuction? read ctx.market)
      = some (call.action blockTime 0) := by
  cases h with
  | direct hcall => cases op <;> cases hcall <;> rfl
  | transfer hlocation hcreate hlisting hlive =>
      rw [action, storedListing?, stored?_of_eval_record? hlisting, hlive]
      rfl
  | transferFromVault hlocation hcreate hlisting hlive =>
      rw [action, storedListing?, stored?_of_eval_record? hlisting, hlive]
      rfl
  | purchase hlisting hlocation hcreate hremaining =>
      rw [action, storedListing?, stored?_of_eval_required hlisting]
      rfl
  | claimAuction hauction hlocation hcreate hremaining =>
      rw [action, storedAuction?, stored?_of_eval_required hauction]
      rfl
  | _ => rfl

/-! ### The way there and back -/

/-- **An operation shows as what it is.**  Its transaction makes one event for each instruction that
does not open an account, all of them signed by the one that pays: first the creations of the
records that were missing, and last the operation itself. -/
theorem events_of_prepare {d : Desk MemoryLedger} {tx : Transaction}
    (h : ((op.prepare ctx source payer).run MemoryLedger.requests d).1 = .ok tx)
    (signature : String) (blockTime : Option Int64) :
    List.Forall₂
        (fun entry event => (tx.recorded signature blockTime).eventAt entry.2 = .ok (some event))
        (tx.instructions.zipIdx.filter fun entry => !entry.1.opensTokenAccount)
        ((tx.recorded signature blockTime).events ctx.market) ∧
      (∀ event ∈ (tx.recorded signature blockTime).events ctx.market, event.signer = payer) ∧
      ∃ own,
        op.action payer blockTime (storedListing? d.ledger.data? ctx.market)
          (storedAuction? d.ledger.data? ctx.market) = some own ∧
        ((tx.recorded signature blockTime).events ctx.market).map (·.action)
          = (op.missing d.ledger.data? ctx.market payer).map (·.action) ++ [own] := by
  have heval : (op.prepare ctx source payer).eval d.ledger.data? = .ok tx := by
    rw [← ((op.prepare ctx source payer).run_requests d).1]
    exact h
  obtain ⟨creations, call, create, i, hcreations, hcall, hbuild, htx⟩ := parts_of_eval_prepare heval
  have hopens := opensTokenAccount_of_assembles hcall
  have hinstructions : tx.instructions = creations ++ (create.toList ++ [i]) := by rw [htx]
  have hprepared := prepared_of_parts hcreations hopens hbuild hinstructions
  have hevents : (tx.recorded signature blockTime).events ctx.market
      = ((op.missing d.ledger.data? ctx.market payer).map (·.call payer) ++ [call]).map
          (·.event signature blockTime) :=
    events_recorded_of_parts hcreations hopens hbuild hinstructions
  refine ⟨forall₂_events_recorded hprepared, ?_, call.action blockTime 0,
    action_of_assembles hcall blockTime, ?_⟩
  · rw [hevents]
    intro event hevent
    obtain ⟨c, hc, rfl⟩ := List.mem_map.1 hevent
    rcases List.mem_append.1 hc with hc | hc
    · obtain ⟨r, -, rfl⟩ := List.mem_map.1 hc
      exact r.actor_call payer
    · rw [List.mem_singleton.1 hc]
      exact actor_of_assembles hcall
  · rw [hevents, List.map_map, List.map_append, List.map_map]
    refine congrArg (· ++ [call.action blockTime 0]) (List.map_congr_left ?_)
    intro r _
    exact r.action_call payer blockTime

/-- A first deposit, which creates the record of its user. -/
theorem events_of_prepare_deposit :
    ∃ tx : Transaction,
      (((deposit 5).prepare .default .recorded (.ofNumber 1)).run MemoryLedger.requests
        ⟨.empty Address.marketplace, []⟩).1 = .ok tx ∧
      ((tx.recorded "signature" none).events Address.marketplace).map (·.action)
        = [.initUser, .deposit 5] := by
  have hprepares : (((deposit 5).prepare .default .recorded (.ofNumber 1)).run
      MemoryLedger.requests ⟨.empty Address.marketplace, []⟩).1.isOk := by
    decide +kernel
  have hmissing : (deposit 5).missing (MemoryLedger.empty Address.marketplace).data?
      Address.marketplace (.ofNumber 1) = [.userAccount] := by
    decide +kernel
  cases h : (((deposit 5).prepare .default .recorded (.ofNumber 1)).run MemoryLedger.requests
      ⟨.empty Address.marketplace, []⟩).1 with
  | error e =>
      rw [h] at hprepares
      cases hprepares
  | ok tx =>
      obtain ⟨-, -, own, hown, hactions⟩ := events_of_prepare h "signature" none
      refine ⟨tx, rfl, hactions.trans ?_⟩
      cases hown
      exact congrArg (fun rs : List LazyRecord => rs.map (·.action) ++ [Action.deposit 5]) hmissing

end Operation

end AssetMarket
