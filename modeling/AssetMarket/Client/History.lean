/-
**The history of an account.**

Main definitions:

* `Client.events` — the events of all transactions that name an account, newest transaction first.
-/

import AssetMarket.Client
import AssetMarket.Event.Decode

set_option relaxedAutoImplicit false
set_option autoImplicit false

namespace AssetMarket

namespace Client

variable {σ : Type}

/-- The events of the transaction of a signature.  One that cannot be had is passed over with a
warning, and one that the ledger does not know without.  -/
def eventsOfSignature (requests : Ledger σ) (ctx : Context) (signature : String) :
    Client σ (List Event) := do
  match resultOf "get_transaction" (← request (requests.transaction signature)) with
  | .ok (some tx) =>
      (tx.remarks ctx.market ctx.verbose).forM warn
      return tx.events ctx.market
  | .ok none => return []
  | .error e =>
      warn s!"⚠️  {signature}: {e.message}"
      return []

/-- The events of the transactions of some signatures, in order. -/
def eventsOfSignatures (requests : Ledger σ) (ctx : Context) :
    List String → Client σ (List Event)
  | [] => return []
  | signature :: rest => do
      let events ← eventsOfSignature requests ctx signature
      return events ++ (← eventsOfSignatures requests ctx rest)

/-- The events of all transactions that name an account, newest transaction first. -/
def events (requests : Ledger σ) (ctx : Context) (a : Address) : Client σ (List Event) := do
  eventsOfSignatures requests ctx (← await "signatures_for_address" (requests.signatures a))

end Client

end AssetMarket
