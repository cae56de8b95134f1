/-
**A client at work.**

A client at work talks to a ledger on one side and to a person on the other.  What it tells the
person goes to one of two places: what it does, and what it warns of.  When a ledger does not
reply the client gives up, and the failure says what it was waiting for.

Main definitions:

* `Console` — what the person has been told;
* `Client` — a computation over a ledger and a console that may fail;
* `Client.await` — a request whose reply is waited for;
* `Inquiry.run` — an inquiry at a ledger.

Main results:

* `Inquiry.run_requests` — at a ledger in memory an inquiry has the result that the accounts there
  determine, and changes nothing.
-/

import AssetMarket.Inquiry
import AssetMarket.Ledger.Memory

set_option relaxedAutoImplicit false
set_option autoImplicit false

namespace AssetMarket

/-- Where a line goes. -/
inductive Stream where
  /-- What the client does. -/
  | out
  /-- What it warns of. -/
  | err
  deriving DecidableEq, Repr

/-- What a person has been told, line by line, oldest first. -/
abbrev Console := List (Stream × String)

namespace Console

/-- Lines as text. -/
def textOf (lines : List String) : String := String.join (lines.map (· ++ "\n"))

/-- The lines that went to a place. -/
def lines (c : Console) (s : Stream) : List String :=
  c.filterMap fun entry => if entry.1 = s then some entry.2 else none

/-- What went to a place, as text. -/
def text (c : Console) (s : Stream) : String := textOf (c.lines s)

end Console

/-- A client's ledger and console. -/
@[ext]
structure Desk (σ : Type) where
  ledger : σ
  console : Console := []

/-- A computation over a ledger and a console that may fail. -/
abbrev Client (σ α : Type) := ExceptT MarketError (StateM (Desk σ)) α

namespace Client

variable {σ α : Type}

/-- Tell the person something. -/
def tell (stream : Stream) (line : String) : Client σ Unit :=
  modify fun d => { d with console := d.console ++ [(stream, line)] }

/-- Tell the person what the client does. -/
def say (line : String) : Client σ Unit := tell .out line

/-- Warn the person. -/
def warn (line : String) : Client σ Unit := tell .err line

/-- Tell the person what the client does, if more than the result is wanted. -/
def remark (verbose : Bool) (line : String) : Client σ Unit :=
  if verbose then say line else pure ()

/-- Make a request, and take whatever comes back. -/
def request (ask : σ → Reply α × σ) : Client σ (Reply α) :=
  modifyGet fun d => ((ask d.ledger).1, { d with ledger := (ask d.ledger).2 })

/-- The result of a reply; silence means that the operation took too long. -/
def resultOf (operation : String) : Reply α → Except MarketError α
  | .answered a => .ok a
  | .failed e => .error e.toMarketError
  | .silent => .error (.timeout operation)

/-- Make a request, and fail unless it is answered. -/
def await (operation : String) (ask : σ → Reply α × σ) : Client σ α := do
  let reply ← request ask
  resultOf operation reply

end Client

/-- Carry out an inquiry at a ledger. -/
def Inquiry.run {σ α : Type} (requests : Ledger σ) : Inquiry α → Client σ α
  | .done a => pure a
  | .fail e => throw e
  | .say line next => do
      Client.say line
      next.run requests
  | .look purpose address next => do
      let data ← Client.await purpose.name (requests.account address)
      (next data).run requests

theorem Inquiry.run_requests {α : Type} (x : Inquiry α) (d : Desk MemoryLedger) :
    ((x.run MemoryLedger.requests) d).1 = x.eval d.ledger.data? ∧
      ((x.run MemoryLedger.requests) d).2.ledger = d.ledger := by
  induction x generalizing d with
  | done a => exact ⟨rfl, rfl⟩
  | fail e => exact ⟨rfl, rfl⟩
  | say line next ih => exact ih { d with console := d.console ++ [(.out, line)] }
  | look purpose address next ih => exact ih (d.ledger.data? address) d

end AssetMarket
