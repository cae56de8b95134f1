/-
**From instructions to events.**

An instruction is recognised by its fingerprint; its accounts and arguments are then looked up
where the layout has them, and prices are summed up from the moves of coins under it.
Instructions that cannot be read are reported and passed over, and they take no other event with
them.

Main definitions:

* `InstructionView` — an instruction with checked access to its parts;
* `Action.decode` — the action of an instruction;
* `PastTransaction.eventAt` — the event of the instruction at a position;
* `PastTransaction.events`, `PastTransaction.remarks` — the events of a transaction for one
  program, and what is reported on the way.
-/

import AssetMarket.Error
import AssetMarket.Event
import AssetMarket.Event.Fingerprint
import AssetMarket.Record.Fields

set_option relaxedAutoImplicit false
set_option autoImplicit false

namespace AssetMarket

/-! ### Checked access -/

/-- An instruction with the name by which complaints call it. -/
structure InstructionView where
  instruction : PastInstruction
  name : String

namespace InstructionView

/-- The account at a position. -/
def account (v : InstructionView) (index : Nat) : Except MarketError Address :=
  match v.instruction.accounts[index]? with
  | some a => .ok a
  | none => .error (.malformedRecord v.name (index + 1) v.instruction.accounts.length)

/-- So many bytes of data from an offset on. -/
def bytes (v : InstructionView) (offset len : Nat) : Except MarketError Bytes :=
  if offset + len ≤ v.instruction.data.length then .ok (v.instruction.data.slice offset len)
  else .error (.malformedRecord v.name (offset + len) v.instruction.data.length)

/-- The unsigned integer at an offset. -/
def u64 (v : InstructionView) (offset : Nat) : Except MarketError UInt64 :=
  (v.bytes offset 8).map Bytes.u64

/-- The signed integer at an offset. -/
def i64 (v : InstructionView) (offset : Nat) : Except MarketError Int64 :=
  (v.bytes offset 8).map Bytes.i64

/-- The address at an offset. -/
def address (v : InstructionView) (offset : Nat) : Except MarketError Address :=
  (v.bytes offset 32).map Bytes.address

end InstructionView

/-! ### Actions -/

/-- The action of an instruction whose fingerprint is known.  `paidFrom` is what left an account
while the instruction was carried out.  -/
def Action.decode (f : Fingerprint) (v : InstructionView) (blockTime : Option Int64)
    (paidFrom : Address → UInt64) : Except MarketError Action :=
  let args := f.argsOffset
  match f.method with
  | .openMarket => return .openMarket
  | .updateFee => return .updateFee (← v.u64 args)
  | .addTreasury => return .addTreasury (← v.address args) (← v.u64 (args + 32))
  | .removeTreasury => return .removeTreasury (← v.address args)
  | .initUser => return .initUser
  | .initListing => return .initListing (← v.address args)
  | .initOffer => return .initOffer (← v.address args)
  | .initAuction => return .initAuction (← v.address args)
  | .list => return .list (← v.account 5) (← v.u64 args)
  | .delist => return .delist (← v.account 5)
  | .setPrice => return .setPrice (← v.account 2) (← v.u64 args)
  | .transfer => return .transfer (← v.account 4) (← v.account 2)
  | .transferFromVault => return .transferFromVault (← v.account 6) (← v.account 3)
  | .purchase => do
      let mint ← v.account 8
      let buyer ← v.account 0
      return .purchase mint buyer (← v.account 6) (paidFrom buyer)
  | .deposit => return .deposit (← v.u64 args)
  | .withdraw => return .withdraw (← v.u64 args)
  | .makeOffer => do
      let mint ← v.account 3
      let buyer ← v.account 0
      return .makeOffer mint (paidFrom buyer) (← v.u64 args)
  | .cancelOffer => return .cancelOffer (← v.account 2)
  | .acceptOffer => do
      let mint ← v.account 5
      let buyer ← v.account 2
      let seller ← v.account 0
      return .acceptOffer mint buyer seller (paidFrom (← v.account 10))
  | .createAuction => do
      let duration ← v.i64 (args + 16)
      let mint ← v.account 5
      return .createAuction mint (← v.u64 args) (← v.u64 (args + 8)) duration
        (blockTime.map fun t => saturatingAddSigned t duration)
  | .placeBid => do
      let mint ← v.account 2
      let bidder ← v.account 0
      return .placeBid mint (paidFrom bidder) (← v.u64 args)
  | .claimAuction => do
      let mint ← v.account 5
      let buyer ← v.account 0
      let seller ← v.account 8
      return .claimAuction mint buyer seller (paidFrom (← v.account 6))
  | .updateReserve => return .updateReserve (← v.account 2) (← v.u64 args)
  | .cancelAuction => return .cancelAuction (← v.account 5)

/-! ### Events -/

namespace PastTransaction

/-- The event of an instruction with a known fingerprint. -/
def eventOf (tx : PastTransaction) (index : Nat) (i : PastInstruction) (f : Fingerprint) :
    Except MarketError Event := do
  let view : InstructionView := ⟨i, f.method.name⟩
  let action ← Action.decode f view tx.blockTime (tx.transferredFrom index)
  return {
    signature := tx.signature
    blockTime := tx.blockTime
    signer := ← view.account 0
    fingerprint := f.head
    action := action }

/-- The event of an instruction.  Data too short for a fingerprint make no event. -/
def instructionEvent (tx : PastTransaction) (index : Nat) (i : PastInstruction) :
    Except MarketError (Option Event) :=
  match Fingerprint.headOf? i.data with
  | none => .ok none
  | some head =>
      match Fingerprint.classify i.data with
      | none => .error (.unknownFingerprint head)
      | some f => (tx.eventOf index i f).map some

/-- The event of the instruction at a position; past the end there is none. -/
def eventAt (tx : PastTransaction) (index : Nat) : Except MarketError (Option Event) :=
  match tx.instructions[index]? with
  | none => .ok none
  | some i => tx.instructionEvent index i

/-- The event of an instruction, if it is one of the program and can be read. -/
def eventFor? (tx : PastTransaction) (program : Address) (entry : PastInstruction × Nat) :
    Option Event :=
  if entry.1.program = program then
    match tx.instructionEvent entry.2 entry.1 with
    | .ok event => event
    | .error _ => none
  else none

/-- The events of a transaction for one program, in the order of its instructions. -/
def events (tx : PastTransaction) (program : Address) : List Event :=
  tx.instructions.zipIdx.filterMap (tx.eventFor? program)

/-- What is reported about an instruction of the program.  The recognition itself and heads that
are not known are reported only on request.  -/
def remarksOn (tx : PastTransaction) (verbose : Bool) (index : Nat) (i : PastInstruction) :
    List String :=
  let place := s!"{tx.signature} #{index}: "
  let recognised :=
    match Fingerprint.classify i.data with
    | some f =>
        [s!"🔎 {place}{f.head} → {f.method.name}" ++ if f.legacy then " (legacy layout)" else ""]
    | none => []
  let failed :=
    match tx.instructionEvent index i with
    | .ok _ => []
    | .error (.unknownFingerprint head) =>
        if verbose then [s!"⚠️  {place}unregistered fingerprint {head}, skipped"] else []
    | .error e => [s!"⚠️  {place}{e.message}, skipped"]
  (if verbose then recognised else []) ++ failed

/-- What is reported about the instructions of one program, in order. -/
def remarks (tx : PastTransaction) (program : Address) (verbose : Bool) : List String :=
  tx.instructions.zipIdx.flatMap fun (i, index) =>
    if i.program = program then tx.remarksOn verbose index i else []

end PastTransaction

/-- The events of several transactions, one after the other. -/
def eventsOf (program : Address) (txs : List PastTransaction) : List Event :=
  txs.flatMap (·.events program)

end AssetMarket
