/-
**Ledgers.**

A client reads and changes a ledger only through seven requests.  A request is answered, or it
fails, or nothing ever comes back; a ledger may change while it answers.

Main definitions:

* `QueryError` — why a request failed, with `QueryError.message` and `QueryError.toMarketError`;
* `Window` — a condition on the data of an account;
* `Reply` — what comes back of a request;
* `Ledger` — the seven requests.

Main results:

* `QueryError.toMarketError_rejected` — a rejection that tells a code is an error of the program.
-/

import AssetMarket.Context
import AssetMarket.Instruction
import AssetMarket.PastTransaction

set_option relaxedAutoImplicit false
set_option autoImplicit false

namespace AssetMarket

/-! ### Failures -/

/-- Why a request failed.  That something was not found is no failure. -/
inductive QueryError where
  /-- A record was to be created that exists already. -/
  | alreadyInitialized (address : String)
  /-- The ledger refused a transaction. -/
  | rejected (reason : String)
  /-- The ledger could not be reached. -/
  | transport (reason : String)
  deriving DecidableEq, Repr

namespace QueryError

/-- The wording of each cause. -/
def message : QueryError → String
  | .alreadyInitialized address => s!"Account {address} is already initialized"
  | .rejected reason => s!"Transaction rejected: {reason}"
  | .transport reason => s!"Transport error: {reason}"

/-- The failure of the market that each of them is: a refusal that tells the code of an error of the
program is that error. -/
def toMarketError (e : QueryError) : MarketError :=
  match e with
  | .rejected reason =>
      match ProgramError.findCode? reason with
      | some code => .ofProgramCode code
      | none => .ledger e.message
  | _ => .ledger e.message

theorem toMarketError_rejected {reason : String} {code : UInt32}
    (h : ProgramError.findCode? reason = some code) :
    (rejected reason).toMarketError = .ofProgramCode code := by
  simp [toMarketError, h]

end QueryError

/-! ### Requests -/

/-- Bytes that must stand at an offset. -/
structure Window where
  offset : Nat
  bytes : Bytes
  deriving DecidableEq

/-- Whether the bytes stand there; data that end before do not fit. -/
def Window.fits (w : Window) (data : Bytes) : Bool :=
  w.offset + w.bytes.length ≤ data.length && data.slice w.offset w.bytes.length == w.bytes

/-- What comes back of a request. -/
inductive Reply (α : Type) where
  | answered (a : α)
  | failed (e : QueryError)
  /-- Nothing, for as long as anybody waits. -/
  | silent

/-- The reply that the result of a request is. -/
def Reply.ofResult {α : Type} : Except QueryError α → Reply α
  | .ok a => .answered a
  | .error e => .failed e

/-- The requests that a ledger answers.  Each of them may change the state `σ` of the ledger. -/
structure Ledger (σ : Type) where
  /-- The data of an account, if the account exists. -/
  account : Address → σ → Reply (Option Bytes) × σ
  /-- The accounts of an owner whose data have a given length and fit, with their data. -/
  scan : Address → Nat → Option Window → σ → Reply (List (Address × Bytes)) × σ
  /-- The coins of an account; one that does not exist has none. -/
  balance : Address → σ → Reply UInt64 × σ
  /-- The signatures of the transactions that name an account, newest first. -/
  signatures : Address → σ → Reply (List String) × σ
  /-- The transaction of a signature, if there is one. -/
  transaction : String → σ → Reply (Option PastTransaction) × σ
  /-- Carry out a transaction; the answer is its signature. -/
  submit : Transaction → σ → Reply String × σ
  /-- Wait until a transaction is as certain as wanted. -/
  confirm : String → Commitment → σ → Reply Unit × σ

end AssetMarket
