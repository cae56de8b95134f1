/-
**Reading the action of a call.**

To decode an instruction is to look at a few positions: where some accounts are, and what stands at
fixed offsets behind the opcode and the bumps.  If these positions hold what a call has there, the
action is that of the call, whatever else the instruction holds.  Nothing is said here about how
such an instruction came about.

Main definitions:

* `Action.endDate` — when an auction ends that begins at some time;
* `Call.action` — the action that a call is;
* `Call.landmarks` — the accounts by which a call is told, with their positions;
* `Call.fields` — the arguments by which a call is told.

Main results:

* `InstructionView.bytes_eq_ok` and its companions — arguments are found behind what stands in front
  of them;
* `Action.decode_eq_ok` — **the positions that are looked at decide the action**.
-/

import AssetMarket.Event.Decode
import AssetMarket.Instruction.Call
import AssetMarket.Proofs.Instruction.Layout

set_option relaxedAutoImplicit false
set_option autoImplicit false

namespace AssetMarket

/-! ### Looking up the parts of an instruction -/

namespace InstructionView

variable {v : InstructionView}

theorem account_eq_ok {index : Nat} {a : Address} (h : v.instruction.accounts[index]? = some a) :
    v.account index = .ok a := by
  rw [account, h]

variable {front rest : Bytes}

theorem bytes_eq_ok {part : Bytes} (hdata : v.instruction.data = front ++ (part ++ rest)) :
    v.bytes front.length part.length = .ok part := by
  have hlen : front.length + part.length ≤ v.instruction.data.length := by
    rw [hdata, ← List.append_assoc, List.length_append, List.length_append]
    exact Nat.le_add_right _ _
  rw [bytes, if_pos hlen, hdata, Bytes.slice_append_append]

theorem u64_eq_ok {x : UInt64} (hdata : v.instruction.data = front ++ (Bytes.ofU64 x ++ rest)) :
    v.u64 front.length = .ok x := by
  have hbytes := bytes_eq_ok hdata
  rw [Bytes.length_ofU64] at hbytes
  rw [u64, hbytes]
  exact congrArg Except.ok (by simpa using Bytes.u64_ofU64 x [])

theorem i64_eq_ok {x : Int64} (hdata : v.instruction.data = front ++ (Bytes.ofI64 x ++ rest)) :
    v.i64 front.length = .ok x := by
  have hbytes := bytes_eq_ok hdata
  rw [Bytes.length_ofI64] at hbytes
  rw [i64, hbytes]
  exact congrArg Except.ok (by simpa using Bytes.i64_ofI64 x [])

theorem address_eq_ok {a : Address} (hdata : v.instruction.data = front ++ (a.bytes ++ rest)) :
    v.address front.length = .ok a := by
  have hbytes := bytes_eq_ok hdata
  rw [a.length_bytes] at hbytes
  rw [address, hbytes]
  exact congrArg Except.ok (by simpa using Bytes.address_bytes_append a [])

end InstructionView

/-! ### The action of a call -/

/-- When an auction ends that begins at some time.  A sum of seconds outside the range of 64 bits is
brought back to its end, and without a beginning there is no end. -/
def Action.endDate (start : Option Int64) (duration : Int64) : Option Int64 :=
  start.map fun t => Int64.ofInt (max (-2 ^ 63) (min (2 ^ 63 - 1) (t.toInt + duration.toInt)))

theorem Action.endDate_eq_map (start : Option Int64) (duration : Int64) :
    endDate start duration = start.map fun t => saturatingAddSigned t duration := by
  simp only [saturatingAddSigned_eq_clamp]
  rfl

namespace Call

/-- The action that a call is, when it is carried out at some time and so much is paid. -/
def action (call : Call) (blockTime : Option Int64) (paid : UInt64) : Action :=
  match call with
  | .openMarket _ => .openMarket
  | .updateFee _ fee => .updateFee fee
  | .addTreasury _ recipient rate => .addTreasury recipient rate
  | .removeTreasury _ recipient => .removeTreasury recipient
  | .initUser _ => .initUser
  | .initListing _ mint => .initListing mint
  | .initOffer _ mint => .initOffer mint
  | .initAuction _ mint => .initAuction mint
  | .list _ mint _ price => .list mint price
  | .delist _ mint _ => .delist mint
  | .setPrice _ mint price => .setPrice mint price
  | .transfer _ mint _ recipient _ => .transfer mint recipient
  | .transferFromVault _ mint recipient _ => .transferFromVault mint recipient
  | .purchase buyer seller mint _ _ => .purchase mint buyer seller paid
  | .deposit _ amount => .deposit amount
  | .withdraw _ amount => .withdraw amount
  | .makeOffer _ mint price => .makeOffer mint paid price
  | .cancelOffer _ mint => .cancelOffer mint
  | .acceptOffer seller buyer mint _ _ => .acceptOffer mint buyer seller paid
  | .createAuction _ mint _ terms =>
      .createAuction mint terms.startPrice terms.minIncrease terms.duration
        (Action.endDate blockTime terms.duration)
  | .placeBid _ mint _ price => .placeBid mint paid price
  | .claimAuction bidder creator mint _ _ => .claimAuction mint bidder creator paid
  | .updateReserve _ mint price => .updateReserve mint price
  | .cancelAuction _ mint _ => .cancelAuction mint

/-- The accounts by which a call is told, with their positions: the asset, the other party, and who
pays if a price is paid.  The one that acts always comes first and is left out here. -/
def landmarks (payer : Address) : Call → List (Nat × Address)
  | .list _ mint _ _ => [(5, mint)]
  | .delist _ mint _ => [(5, mint)]
  | .setPrice _ mint _ => [(2, mint)]
  | .transfer _ mint _ recipient _ => [(4, mint), (2, recipient)]
  | .transferFromVault _ mint recipient _ => [(6, mint), (3, recipient)]
  | .purchase _ seller mint _ _ => [(8, mint), (6, seller), (0, payer)]
  | .makeOffer _ mint _ => [(3, mint), (0, payer)]
  | .cancelOffer _ mint => [(2, mint)]
  | .acceptOffer _ buyer mint _ _ => [(5, mint), (2, buyer), (10, payer)]
  | .createAuction _ mint _ _ => [(5, mint)]
  | .placeBid _ mint _ _ => [(2, mint), (0, payer)]
  | .claimAuction _ creator mint _ _ => [(5, mint), (8, creator), (6, payer)]
  | .updateReserve _ mint _ => [(2, mint)]
  | .cancelAuction _ mint _ => [(5, mint)]
  | _ => []

/-- The arguments by which a call is told.  Whether an auction is a reserved one is not. -/
def fields : Call → Bytes
  | .createAuction _ _ _ terms =>
      Bytes.ofU64 terms.startPrice ++ Bytes.ofU64 terms.minIncrease ++ Bytes.ofI64 terms.duration
  | call => call.values

theorem exists_values_eq (call : Call) : ∃ flag, call.values = call.fields ++ flag := by
  cases call with
  | createAuction owner mint tokenAccount terms => exact ⟨_, rfl⟩
  | _ => exact ⟨[], (List.append_nil _).symm⟩

end Call

/-- **The positions that are looked at decide the action.**  `front` is the opcode with the bumps
that stand in front of the arguments, and `rest` whatever follows them. -/
theorem Action.decode_eq_ok {call : Call} {f : Fingerprint} {v : InstructionView}
    {front rest : Bytes} {payer : Address} (hmethod : f.method = call.method)
    (hfront : f.argsOffset = front.length)
    (haccounts : ∀ e ∈ (0, call.actor) :: call.landmarks payer,
      v.instruction.accounts[e.1]? = some e.2)
    (hdata : v.instruction.data = front ++ (call.fields ++ rest))
    (blockTime : Option Int64) (paidFrom : Address → UInt64) :
    Action.decode f v blockTime paidFrom = .ok (call.action blockTime (paidFrom payer)) := by
  have hactor : v.account 0 = .ok call.actor :=
    InstructionView.account_eq_ok (haccounts _ (.head _))
  have haccount : ∀ e ∈ call.landmarks payer, v.account e.1 = .ok e.2 :=
    fun e he => InstructionView.account_eq_ok (haccounts e (.tail _ he))
  -- An argument is found behind those before it, and most calls have one argument only.
  have hu64 : ∀ (before : Bytes) {x : UInt64} {after : Bytes},
      call.fields ++ rest = before ++ (Bytes.ofU64 x ++ after) →
        v.u64 (f.argsOffset + before.length) = .ok x := by
    intro before x after hfields
    rw [hfront, ← List.length_append]
    exact InstructionView.u64_eq_ok (by rw [hdata, hfields, List.append_assoc])
  have haddress : ∀ {a : Address} {after : Bytes}, call.fields ++ rest = a.bytes ++ after →
      v.address f.argsOffset = .ok a := by
    intro a after hfields
    rw [hfront]
    exact InstructionView.address_eq_ok (by rw [hdata, hfields])
  cases call with
  | openMarket admin =>
      simp only [Action.decode, hmethod, Call.method]
      rfl
  | updateFee admin fee =>
      have hfee : v.u64 f.argsOffset = .ok fee := hu64 [] rfl
      simp only [Action.decode, hmethod, hfee, Call.method]
      rfl
  | addTreasury admin recipient rate =>
      have hrecipient : v.address f.argsOffset = .ok recipient :=
        haddress (List.append_assoc _ _ _)
      have hrate : v.u64 (f.argsOffset + 32) = .ok rate := by
        simpa using hu64 recipient.bytes (List.append_assoc _ _ _)
      simp only [Action.decode, hmethod, hrecipient, hrate, Call.method]
      rfl
  | removeTreasury admin recipient =>
      have hrecipient : v.address f.argsOffset = .ok recipient := haddress rfl
      simp only [Action.decode, hmethod, hrecipient, Call.method]
      rfl
  | initUser owner =>
      simp only [Action.decode, hmethod, Call.method]
      rfl
  | initListing payer mint =>
      have hmint : v.address f.argsOffset = .ok mint := haddress rfl
      simp only [Action.decode, hmethod, hmint, Call.method]
      rfl
  | initOffer payer mint =>
      have hmint : v.address f.argsOffset = .ok mint := haddress rfl
      simp only [Action.decode, hmethod, hmint, Call.method]
      rfl
  | initAuction payer mint =>
      have hmint : v.address f.argsOffset = .ok mint := haddress rfl
      simp only [Action.decode, hmethod, hmint, Call.method]
      rfl
  | list owner mint tokenAccount price =>
      have hmint : v.account 5 = .ok mint := haccount (5, mint) (by simp [Call.landmarks])
      have hprice : v.u64 f.argsOffset = .ok price := hu64 [] rfl
      simp only [Action.decode, hmethod, hmint, hprice, Call.method]
      rfl
  | delist owner mint tokenAccount =>
      have hmint : v.account 5 = .ok mint := haccount (5, mint) (by simp [Call.landmarks])
      simp only [Action.decode, hmethod, hmint, Call.method]
      rfl
  | setPrice owner mint price =>
      have hmint : v.account 2 = .ok mint := haccount (2, mint) (by simp [Call.landmarks])
      have hprice : v.u64 f.argsOffset = .ok price := hu64 [] rfl
      simp only [Action.decode, hmethod, hmint, hprice, Call.method]
      rfl
  | transfer owner mint tokenAccount recipient recipientAccount =>
      have hmint : v.account 4 = .ok mint := haccount (4, mint) (by simp [Call.landmarks])
      have hrecipient : v.account 2 = .ok recipient :=
        haccount (2, recipient) (by simp [Call.landmarks])
      simp only [Action.decode, hmethod, hmint, hrecipient, Call.method]
      rfl
  | transferFromVault owner mint recipient recipientAccount =>
      have hmint : v.account 6 = .ok mint := haccount (6, mint) (by simp [Call.landmarks])
      have hrecipient : v.account 3 = .ok recipient :=
        haccount (3, recipient) (by simp [Call.landmarks])
      simp only [Action.decode, hmethod, hmint, hrecipient, Call.method]
      rfl
  | purchase buyer seller mint buyerAccount remaining =>
      have hmint : v.account 8 = .ok mint := haccount (8, mint) (by simp [Call.landmarks])
      have hseller : v.account 6 = .ok seller := haccount (6, seller) (by simp [Call.landmarks])
      -- The one that pays and the one that acts are both the first account.
      have hpayer := haccount (0, payer) (by simp [Call.landmarks])
      obtain rfl : buyer = payer := Except.ok.inj (hactor.symm.trans hpayer)
      simp only [Action.decode, hmethod, hmint, hseller, Call.method, hactor]
      rfl
  | deposit owner amount =>
      have hamount : v.u64 f.argsOffset = .ok amount := hu64 [] rfl
      simp only [Action.decode, hmethod, hamount, Call.method]
      rfl
  | withdraw owner amount =>
      have hamount : v.u64 f.argsOffset = .ok amount := hu64 [] rfl
      simp only [Action.decode, hmethod, hamount, Call.method]
      rfl
  | makeOffer owner mint price =>
      have hmint : v.account 3 = .ok mint := haccount (3, mint) (by simp [Call.landmarks])
      have hpayer := haccount (0, payer) (by simp [Call.landmarks])
      obtain rfl : owner = payer := Except.ok.inj (hactor.symm.trans hpayer)
      have hprice : v.u64 f.argsOffset = .ok price := hu64 [] rfl
      simp only [Action.decode, hmethod, hmint, hprice, Call.method, hactor]
      rfl
  | cancelOffer owner mint =>
      have hmint : v.account 2 = .ok mint := haccount (2, mint) (by simp [Call.landmarks])
      simp only [Action.decode, hmethod, hmint, Call.method]
      rfl
  | acceptOffer seller buyer mint buyerAccount remaining =>
      have hmint : v.account 5 = .ok mint := haccount (5, mint) (by simp [Call.landmarks])
      have hbuyer : v.account 2 = .ok buyer := haccount (2, buyer) (by simp [Call.landmarks])
      have hpayer : v.account 10 = .ok payer := haccount (10, payer) (by simp [Call.landmarks])
      simp only [Action.decode, hmethod, hmint, hbuyer, hpayer, Call.method, hactor]
      rfl
  | createAuction owner mint tokenAccount terms =>
      have hmint : v.account 5 = .ok mint := haccount (5, mint) (by simp [Call.landmarks])
      have hfields : (Call.createAuction owner mint tokenAccount terms).fields ++ rest
          = Bytes.ofU64 terms.startPrice
            ++ (Bytes.ofU64 terms.minIncrease ++ (Bytes.ofI64 terms.duration ++ rest)) := by
        simp only [Call.fields, List.append_assoc]
      have hstart : v.u64 f.argsOffset = .ok terms.startPrice := hu64 [] hfields
      have hincrease : v.u64 (f.argsOffset + 8) = .ok terms.minIncrease := by
        simpa using hu64 (Bytes.ofU64 terms.startPrice) hfields
      -- The duration is signed, so it is read apart from the others.
      have hduration : v.i64 (f.argsOffset + 16) = .ok terms.duration := by
        rw [hfields, ← List.append_assoc, ← List.append_assoc] at hdata
        simpa [hfront] using InstructionView.i64_eq_ok hdata
      simp only [Action.decode, hmethod, hmint, hstart, hincrease, hduration, Call.method,
        Call.action, Action.endDate_eq_map]
      rfl
  | placeBid bidder mint outBidder price =>
      have hmint : v.account 2 = .ok mint := haccount (2, mint) (by simp [Call.landmarks])
      have hpayer := haccount (0, payer) (by simp [Call.landmarks])
      obtain rfl : bidder = payer := Except.ok.inj (hactor.symm.trans hpayer)
      have hprice : v.u64 f.argsOffset = .ok price := hu64 [] rfl
      simp only [Action.decode, hmethod, hmint, hprice, Call.method, hactor]
      rfl
  | claimAuction bidder creator mint bidderAccount remaining =>
      have hmint : v.account 5 = .ok mint := haccount (5, mint) (by simp [Call.landmarks])
      have hcreator : v.account 8 = .ok creator := haccount (8, creator) (by simp [Call.landmarks])
      have hpayer : v.account 6 = .ok payer := haccount (6, payer) (by simp [Call.landmarks])
      simp only [Action.decode, hmethod, hmint, hcreator, hpayer, Call.method, hactor]
      rfl
  | updateReserve creator mint price =>
      have hmint : v.account 2 = .ok mint := haccount (2, mint) (by simp [Call.landmarks])
      have hprice : v.u64 f.argsOffset = .ok price := hu64 [] rfl
      simp only [Action.decode, hmethod, hmint, hprice, Call.method]
      rfl
  | cancelAuction creator mint tokenAccount =>
      have hmint : v.account 5 = .ok mint := haccount (5, mint) (by simp [Call.landmarks])
      simp only [Action.decode, hmethod, hmint, Call.method]
      rfl

end AssetMarket
