/-
**Snapshots of a ledger.**

A snapshot is a JSON text with the accounts and the past transactions of a ledger.  It is read in
two steps: first the text must have the right shape, then the data of each account must be
hexadecimal.

Main definitions:

* `Snapshot` — accounts and past transactions;
* `Snapshot.toJson`, `Snapshot.ofJson` — snapshots as JSON values;
* `MemoryLedger.ofSnapshot`, `MemoryLedger.snapshot` — ledgers from snapshots and back;
* `Snapshot.ofText`, `MemoryLedger.ofText` — the snapshot and the ledger of a JSON text.

Main results:

* `Snapshot.ofText_eq_ok_iff` — the text alone decides whether there is a snapshot.
-/

import AssetMarket.Ledger.Inspect
import AssetMarket.Ledger.Memory

set_option relaxedAutoImplicit false
set_option autoImplicit false

namespace AssetMarket

open Json (Shape required optional asText asU64 asList)

/-- An account of a snapshot, with its data still as text. -/
@[ext]
structure SnapshotAccount where
  address : Address
  owner : Address
  balance : UInt64
  data : String
  deriving DecidableEq

/-- The accounts and past transactions of a ledger. -/
@[ext]
structure Snapshot where
  accounts : List SnapshotAccount
  transactions : List PastTransaction
  deriving DecidableEq

/-! ### As JSON -/

/-- An account as JSON. -/
def SnapshotAccount.toJson (a : SnapshotAccount) : Json :=
  .record
    [("address", .str a.address.text), ("owner", .str a.owner.text),
     ("lamports", .int a.balance.toNat), ("data", .str a.data)]

/-- Read an account. -/
def SnapshotAccount.ofJson (j : Json) : Shape SnapshotAccount := do
  let ms ← j.fields "struct SnapshotAccount" ["address", "owner", "lamports", "data"]
  return {
    address := ← required ms "address" Address.ofJson
    owner := ← required ms "owner" Address.ofJson
    balance := ← optional ms "lamports" 0 asU64
    data := ← optional ms "data" "" asText }

namespace Snapshot

/-- A snapshot as JSON. -/
def toJson (s : Snapshot) : Json :=
  .record
    [("accounts", .array (s.accounts.map SnapshotAccount.toJson)),
     ("transactions", .array (s.transactions.map PastTransaction.toJson))]

/-- Read a snapshot.  Its transactions lie two containers deep. -/
def ofJson (j : Json) : Shape Snapshot := do
  let ms ← j.fields "struct LedgerSnapshot" ["accounts", "transactions"]
  return {
    accounts := ← optional ms "accounts" [] (asList SnapshotAccount.ofJson)
    transactions := ←
      optional ms "transactions" []
        (asList (PastTransaction.ofJson (PastTransaction.maxLevels - 2))) }

/-- The snapshot of a JSON text, if it is one. -/
def ofText? (s : String) : Option Snapshot := do
  let j ← Json.ofText? s
  (ofJson j).toOption

/-- The snapshot of a JSON text, or what is wrong with the text. -/
def ofText (s : String) : Except MarketError Snapshot :=
  match ofText? s with
  | some snapshot => .ok snapshot
  | none => .error (failure s)

theorem ofText_eq_ok_iff {text : String} {s : Snapshot} :
    ofText text = .ok s ↔ ofText? text = some s := by
  unfold ofText
  cases ofText? text <;> simp

end Snapshot

/-! ### Ledgers -/

namespace MemoryLedger

/-- The ledger with one more account, of which the data are hexadecimal. -/
def restoreAccount (l : MemoryLedger) (a : SnapshotAccount) : Except MarketError MemoryLedger := do
  let data ← (Hex.decode a.data).mapError fun e =>
    .invalidArgument "snapshot account data" e.message
  return l.insertAccount a.address ⟨a.owner, a.balance, data⟩

/-- The ledger with the accounts and past transactions of a snapshot. -/
def ofSnapshot (market : Address) (s : Snapshot) : Except MarketError MemoryLedger := do
  let l ← s.accounts.foldlM restoreAccount (empty market)
  return s.transactions.foldl insertTransaction l

/-- The ledger of a JSON text. -/
def ofText (market : Address) (s : String) : Except MarketError MemoryLedger := do
  ofSnapshot market (← Snapshot.ofText s)

/-- The accounts and past transactions of the ledger, in order of addresses and of signatures. -/
def snapshot (l : MemoryLedger) : Snapshot :=
  { accounts := l.accounts.toList.map fun (address, a) =>
      ⟨address, a.owner, a.balance, Hex.encode a.data⟩
    transactions := l.transactions.toList.map (·.2) }

end MemoryLedger

end AssetMarket
