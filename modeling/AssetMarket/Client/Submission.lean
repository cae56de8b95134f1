/-
**Submitting operations.**

An operation is prepared, submitted and confirmed.  Between preparation and submission somebody
else may create one of its records; then the transaction is prepared once more, for the ledger as
it is now, and a second refusal is final.

Main definitions:

* `Submitted` — a transaction that was accepted, and whether it took two attempts;
* `Client.submit` — the whole course of an operation.
-/

import AssetMarket.Client
import AssetMarket.Operation.Preparation

set_option relaxedAutoImplicit false
set_option autoImplicit false

namespace AssetMarket

/-- A transaction that was accepted. -/
@[ext]
structure Submitted where
  signature : String
  transaction : Transaction
  /-- Whether it had to be prepared once more. -/
  retried : Bool
  deriving DecidableEq

namespace Client

variable {σ : Type}

/-- Submit a transaction.  A record that exists already is no failure here but a result, the
address of that record.  -/
def submitOnce (requests : Ledger σ) (tx : Transaction) : Client σ (Except String String) := do
  match ← request (requests.submit tx) with
  | .failed (.alreadyInitialized address) => return .error address
  | reply => return .ok (← resultOf "submit_transaction" reply)

/-- Prepare and submit an operation, a second time if a record was created in between. -/
def submitPrepared (requests : Ledger σ) (ctx : Context) (source : CreatorSource) (payer : Address)
    (op : Operation) : Client σ Submitted := do
  let transaction ← (op.prepare ctx source payer).run requests
  match ← submitOnce requests transaction with
  | .ok signature => return { signature, transaction, retried := false }
  | .error address =>
      if ctx.verbose then warn s!"⚠️  {address} was initialized concurrently, rebuilding"
      let transaction ← (op.prepare ctx source payer).run requests
      let signature ← await "submit_transaction" (requests.submit transaction)
      return { signature, transaction, retried := true }

/-- Prepare, submit and confirm an operation. -/
def submit (requests : Ledger σ) (ctx : Context) (source : CreatorSource) (payer : Address)
    (op : Operation) : Client σ Submitted := do
  remark ctx.verbose s!"📤 Submitting {op.name}..."
  let result ← submitPrepared requests ctx source payer op
  await "confirm_transaction" (requests.confirm result.signature ctx.commitment)
  remark ctx.verbose s!"✅ {op.name} confirmed: {result.signature}"
  return result

end Client

end AssetMarket
