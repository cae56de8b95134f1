/-
**What can go wrong in the market.**

Failures of the client carry codes from 1000 on; an error of the marketplace program keeps its own.

A reader of base 58 can also break down, which is no failure that anybody is told of: it ends the
whole client, whoever called.  There is no kind of failure for it.  It is written as a failure that
nothing else ends in, so that it is handed on to the top like the others; but where failures are
caught, this one has to be let through.

Main definitions:

* `MarketError` — the failures, with `MarketError.message` and `MarketError.code`;
* `MarketError.ofProgramCode` — the failure that a code of the program stands for;
* `MarketError.breakdown` — what stands for the breakdown of a reader.
-/

import AssetMarket.ProgramError

set_option relaxedAutoImplicit false
set_option autoImplicit false

namespace AssetMarket

/-- A failure of the client, or one that the marketplace program reports. -/
inductive MarketError where
  /-- Bytes are too short for a record of this kind. -/
  | malformedRecord (kind : String) (expected actual : Nat)
  /-- Neither the owner nor the vault holds an asset. -/
  | assetNotOwned (mint owner : String)
  /-- A record that must exist does not. -/
  | recordAbsent (kind address : String)
  /-- No bump leads to a derived address. -/
  | derivationExhausted
  /-- A record of variable length cannot be read. -/
  | undecodable (kind message : String)
  /-- Arguments cannot be written. -/
  | unencodable (message : String)
  /-- Seeds break a limit, or lead to no derived address. -/
  | invalidSeeds (message : String)
  /-- Instruction data begin like no known instruction. -/
  | unknownFingerprint (head : String)
  /-- More treasury entries than there are slots. -/
  | treasuryCapacity (capacity actual : Nat)
  /-- A value that a caller gave cannot be used. -/
  | invalidArgument (name message : String)
  /-- A request to the ledger failed. -/
  | ledger (message : String)
  /-- A request to the ledger took too long. -/
  | timeout (operation : String)
  /-- The marketplace program rejected a transaction. -/
  | program (code : UInt32) (message : String)
  deriving DecidableEq, Repr

namespace MarketError

/-- The wording of each failure. -/
def message : MarketError → String
  | .malformedRecord kind expected actual =>
      s!"Malformed {kind} record: expected {expected} bytes, got {actual}"
  | .assetNotOwned mint owner => s!"Asset {mint} is not held by {owner} or the marketplace vault"
  | .recordAbsent kind address => s!"{kind} record not found at {address}"
  | .derivationExhausted => "Unable to find a viable program address bump seed"
  | .undecodable kind message => s!"Failed to decode {kind}: {message}"
  | .unencodable message => s!"Failed to serialize data: {message}"
  | .invalidSeeds message => s!"Invalid seeds: {message}"
  | .unknownFingerprint head => s!"Instruction fingerprint {head} matched no known instruction"
  | .treasuryCapacity capacity actual =>
      s!"Treasury list holds at most {capacity} entries, got {actual}"
  | .invalidArgument name message => s!"Invalid argument {name}: {message}"
  | .ledger message => s!"Ledger request failed: {message}"
  | .timeout operation => s!"Timed out waiting for {operation}"
  | .program code message => s!"Program error {code}: {message}"

/-- The code of each failure. -/
def code : MarketError → UInt32
  | .malformedRecord .. => 1000
  | .assetNotOwned .. => 1001
  | .recordAbsent .. => 1002
  | .derivationExhausted => 1003
  | .invalidSeeds .. => 1004
  | .unknownFingerprint .. => 1005
  | .treasuryCapacity .. => 1006
  | .invalidArgument .. => 1007
  | .ledger .. => 1008
  | .timeout .. => 1009
  | .undecodable .. => 1010
  | .unencodable .. => 1011
  | .program code _ => code

/-- The failure that a code of the marketplace program stands for. -/
def ofProgramCode (code : UInt32) : MarketError :=
  .program code ((ProgramError.ofCode? code).elim "unknown program error" (·.message))

@[simp] theorem code_ofProgramCode (c : UInt32) : (ofProgramCode c).code = c := rfl

/-- The breakdown of a reader of base 58.  Its kind is that of no record, so it is set apart from all
failures that are told. -/
def breakdown : MarketError := .undecodable "Base58" "out of range"

/-- Whether a failure stands for a breakdown. -/
def isBreakdown (e : MarketError) : Bool := e = breakdown

@[simp] theorem isBreakdown_breakdown : breakdown.isBreakdown = true := rfl

theorem isBreakdown_iff {e : MarketError} : e.isBreakdown = true ↔ e = breakdown :=
  decide_eq_true_iff

end MarketError

/-- A computation that is seen to succeed has a result. -/
theorem exists_eq_ok_of_isOk {α : Type} {x : Except MarketError α} (h : x.isOk = true) :
    ∃ a, x = .ok a := by
  cases x with
  | error e => cases h
  | ok a => exact ⟨a, rfl⟩

end AssetMarket
