/-
**A ledger that fails on purpose.**

To see how a client copes, this ledger takes note of every request and then looks for a fault that
was planned for it.  The first fault that is planned for a kind of request decides, also if it
lets the request pass.  A fault may first store a record, as if somebody else had been faster.

Main definitions:

* `RequestKind` — the seven requests;
* `Fault` — what is planned for a kind of request;
* `ScriptedLedger` — a ledger in memory with its notes and its faults;
* `ScriptedLedger.requests` — the ledger as a client sees it.
-/

import AssetMarket.Ledger.Memory
import AssetMarket.Text.Hex

set_option relaxedAutoImplicit false
set_option autoImplicit false

namespace AssetMarket

/-! ### Faults -/

/-- The kinds of requests. -/
inductive RequestKind where
  | account
  | scan
  | balance
  | signatures
  | transaction
  | submit
  | confirm
  deriving DecidableEq, Repr

namespace RequestKind

/-- All kinds. -/
def all : List RequestKind :=
  [.account, .scan, .balance, .signatures, .transaction, .submit, .confirm]

/-- The name of a kind in the notes. -/
def name : RequestKind → String
  | .account => "get_account"
  | .scan => "scan_program_accounts"
  | .balance => "get_balance"
  | .signatures => "signatures_for_address"
  | .transaction => "get_transaction"
  | .submit => "submit_transaction"
  | .confirm => "confirm_transaction"

/-- The kind of a name. -/
def ofName? (s : String) : Option RequestKind := all.find? (·.name == s)

end RequestKind

/-- What a fault does to a request. -/
inductive FaultEffect where
  /-- Nothing. -/
  | pass
  | fail (e : QueryError)
  /-- It is never answered. -/
  | silence
  deriving DecidableEq, Repr

/-- What is planned for a kind of request. -/
structure Fault where
  request : RequestKind
  effect : FaultEffect
  /-- How many requests pass before the fault strikes. -/
  skip : Nat
  /-- How many times it strikes. -/
  times : Nat
  /-- A record that is stored when it strikes. -/
  race : Option (Address × Record)

/-- The fault that strikes a request, if any, and the faults that are planned from then on. -/
def Fault.strike (kind : RequestKind) : List Fault → Option Fault × List Fault
  | [] => (none, [])
  | f :: fs =>
      if f.request = kind then
        if 0 < f.skip then (none, { f with skip := f.skip - 1 } :: fs)
        else if 1 < f.times then (some f, { f with times := f.times - 1 } :: fs)
        else (some f, fs)
      else
        let (struck, rest) := strike kind fs
        (struck, f :: rest)

/-! ### The ledger -/

/-- A ledger in memory with notes of all requests, oldest first, and the faults that are planned. -/
structure ScriptedLedger where
  memory : MemoryLedger
  calls : List String := []
  faults : List Fault := []

namespace ScriptedLedger

/-- Take note of a request and forget the fault that strikes it; the record of the fault is
stored.  -/
def receive (l : ScriptedLedger) (kind : RequestKind) (details : String) :
    Option Fault × ScriptedLedger :=
  let (struck, faults) := Fault.strike kind l.faults
  let race := struck.bind (·.race)
  (struck,
    { memory := race.elim l.memory fun (a, r) => l.memory.insertRecord a r
      calls := l.calls ++ [kind.name ++ " " ++ details]
      faults := faults })

/-- Answer a request as the ledger in memory does, unless a fault decides otherwise. -/
def answer {α : Type} (kind : RequestKind) (details : String)
    (ask : MemoryLedger → Reply α × MemoryLedger) (l : ScriptedLedger) :
    Reply α × ScriptedLedger :=
  let (struck, l) := l.receive kind details
  match struck.elim .pass (·.effect) with
  | .fail e => (.failed e, l)
  | .silence => (.silent, l)
  | .pass => ((ask l.memory).1, { l with memory := (ask l.memory).2 })

/-- A window as it stands in the notes. -/
def windowNote : Option Window → String
  | some w => s!"{w.offset}:{Hex.encode w.bytes}"
  | none => "none"

/-- The requests to a ledger that fails on purpose. -/
def requests : Ledger ScriptedLedger :=
  let inner := MemoryLedger.requests
  { account := fun a => answer .account a.text (inner.account a)
    scan := fun owner size window =>
      answer .scan s!"{owner} {size} {windowNote window}" (inner.scan owner size window)
    balance := fun a => answer .balance a.text (inner.balance a)
    signatures := fun a => answer .signatures a.text (inner.signatures a)
    transaction := fun signature => answer .transaction signature (inner.transaction signature)
    submit := fun tx =>
      answer .submit s!"{tx.payer} {tx.instructions.length}" (inner.submit tx)
    confirm := fun signature commitment =>
      answer .confirm s!"{signature} {commitment.name}" (inner.confirm signature commitment) }

end ScriptedLedger

end AssetMarket
