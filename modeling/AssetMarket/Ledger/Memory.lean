/-
**A ledger in memory.**

This ledger keeps accounts and past transactions and runs no programs.  Of a submitted transaction
it carries out one thing only: instructions of the marketplace that create a record do so, with
the record blank.  A transaction that would create a record where there is something already is
refused as a whole.

Main definitions:

* `StoredAccount`, `MemoryLedger` — the state;
* `MemoryLedger.insertTransaction` — a past transaction is kept and found under every account it
  names;
* `MemoryLedger.creation?` — the record that an instruction creates, and where;
* `MemoryLedger.submit` — a transaction is carried out as a whole or not at all;
* `MemoryLedger.requests` — the ledger as a client sees it.

Main results:

* `MemoryLedger.submit_eq_error_iff` — a transaction is refused exactly if one of its records is
  taken;
* `MemoryLedger.submitted_of_submit` — one that is carried out is added to those submitted.
-/

import Std.Data.ExtTreeMap
import AssetMarket.Instruction.Method
import AssetMarket.Ledger
import AssetMarket.Record

set_option relaxedAutoImplicit false
set_option autoImplicit false

namespace AssetMarket

/-- An account as the ledger keeps it. -/
@[ext]
structure StoredAccount where
  owner : Address
  balance : UInt64
  data : Bytes
  deriving DecidableEq

/-- The state of the ledger. -/
structure MemoryLedger where
  /-- The program whose instructions create records. -/
  market : Address
  accounts : Std.ExtTreeMap Address StoredAccount := ∅
  /-- Past transactions under their signatures. -/
  transactions : Std.ExtTreeMap String PastTransaction := ∅
  /-- For each account the signatures of the past transactions that name it, newest first. -/
  index : Std.ExtTreeMap Address (List String) := ∅
  /-- The transactions carried out so far, oldest first. -/
  submitted : List Transaction := []

namespace MemoryLedger

/-- The ledger without anything. -/
def empty (market : Address) : MemoryLedger := { market }

/-! ### Reading -/

/-- The data of an account. -/
def data? (l : MemoryLedger) (a : Address) : Option Bytes := l.accounts[a]?.map (·.data)

/-- The coins of an account. -/
def balance (l : MemoryLedger) (a : Address) : UInt64 := l.accounts[a]?.elim 0 (·.balance)

/-- The accounts of an owner whose data have a given length and fit, in the order of their
addresses.  -/
def scan (l : MemoryLedger) (owner : Address) (size : Nat) (window : Option Window) :
    List (Address × Bytes) :=
  let wanted (entry : Address × StoredAccount) : Bool :=
    entry.2.owner == owner && entry.2.data.length == size && window.all (·.fits entry.2.data)
  (l.accounts.toList.filter wanted).map fun entry => (entry.1, entry.2.data)

/-- The signatures of the past transactions that name an account, newest first. -/
def signatures (l : MemoryLedger) (a : Address) : List String := l.index[a]?.getD []

/-- The past transaction of a signature. -/
def transaction? (l : MemoryLedger) (signature : String) : Option PastTransaction :=
  l.transactions[signature]?

/-! ### Filling -/

/-- Store an account, in place of what is there. -/
def insertAccount (l : MemoryLedger) (a : Address) (account : StoredAccount) : MemoryLedger :=
  { l with accounts := l.accounts.insert a account }

/-- Store a record of the marketplace. -/
def insertRecord (l : MemoryLedger) (a : Address) (r : Record) : MemoryLedger :=
  l.insertAccount a ⟨l.market, 0, r.encode⟩

/-- A list of signatures with one more at its front, unless it is there already. -/
def addSignature (signature : String) (signatures : List String) : List String :=
  if signature ∈ signatures then signatures else signature :: signatures

/-- The index with a signature under one more account. -/
def indexUnder (signature : String) (index : Std.ExtTreeMap Address (List String)) (a : Address) :
    Std.ExtTreeMap Address (List String) :=
  index.insert a (addSignature signature (index[a]?.getD []))

/-- Keep a past transaction, in place of one with the same signature. -/
def insertTransaction (l : MemoryLedger) (tx : PastTransaction) : MemoryLedger :=
  { l with
    transactions := l.transactions.insert tx.signature tx
    index := tx.accounts.foldl (indexUnder tx.signature) l.index }

/-! ### Submitting -/

/-- The blank record that an instruction creates, given who pays and the argument it begins with. -/
def blankRecord? (payer : Address) (mint? : Option Address) : Method → Option Record
  | .initUser => some (.userAccount (.blank payer))
  | .initListing => mint?.map fun mint => .listing (.blank mint)
  | .initOffer => mint?.map fun mint => .offer (.blank mint payer)
  | .initAuction => mint?.map fun mint => .auction (.blank mint)
  | _ => none

/-- The mint that stands after the opcode of instruction data. -/
def mintArgument? (data : Bytes) : Option Address :=
  Address.ofBytes? (data.slice Method.opcodeLength 32)

/-- The record that an instruction creates, with its address, if it creates one. -/
def creation? (l : MemoryLedger) (i : Instruction) : Option (Address × Record) := do
  guard (i.program = l.market)
  let method ← Method.ofData? i.data
  let payer ← i.accounts[0]?
  let target ← i.accounts[1]?
  let record ← blankRecord? payer.address (mintArgument? i.data) method
  return (target.address, record)

/-- The records that a transaction creates, in the order of its instructions. -/
def creations (l : MemoryLedger) (tx : Transaction) : List (Address × Record) :=
  tx.instructions.filterMap l.creation?

/-- The first address in a list that is taken or has occurred before. -/
def firstTaken? (taken : Address → Bool) : List Address → Option Address
  | [] => none
  | a :: as =>
      if taken a then some a else firstTaken? (fun b => taken b || b == a) as

/-- The first address that a transaction needs and cannot have. -/
def conflict? (l : MemoryLedger) (tx : Transaction) : Option Address :=
  firstTaken? (fun a => l.accounts.contains a) ((l.creations tx).map (·.1))

/-- The signature of the transaction that was carried out as the `n`-th. -/
def signatureOf (n : Nat) : String := s!"memory-{n}"

/-- The ledger after a transaction that creates these records. -/
def carryOut (l : MemoryLedger) (tx : Transaction) (records : List (Address × Record)) :
    MemoryLedger :=
  let after := records.foldl (fun l entry => l.insertRecord entry.1 entry.2) l
  { after with submitted := l.submitted ++ [tx] }

/-- Carry out a transaction, unless one of its records is taken. -/
def submit (l : MemoryLedger) (tx : Transaction) : Except QueryError (String × MemoryLedger) :=
  match l.conflict? tx with
  | some a => .error (.alreadyInitialized a.text)
  | none =>
      let after := l.carryOut tx (l.creations tx)
      .ok (signatureOf after.submitted.length, after)

theorem firstTaken?_eq_none_iff {taken : Address → Bool} {as : List Address} :
    firstTaken? taken as = none ↔ (∀ a ∈ as, taken a = false) ∧ as.Nodup := by
  induction as generalizing taken with
  | nil => simp [firstTaken?]
  | cons a as ih =>
      by_cases h : taken a = true
      · simp [firstTaken?, h]
      · have h' : taken a = false := by simpa using h
        simp only [firstTaken?, h', Bool.false_eq_true, if_false, ih, Bool.or_eq_false_iff,
          beq_eq_false_iff_ne, List.mem_cons, forall_eq_or_imp, List.nodup_cons]
        constructor
        · rintro ⟨hall, hnodup⟩
          exact ⟨⟨trivial, fun b hb => (hall b hb).1⟩, fun ha => (hall a ha).2 rfl, hnodup⟩
        · rintro ⟨⟨_, hall⟩, hnot, hnodup⟩
          exact ⟨fun b hb => ⟨hall b hb, fun hba => hnot (hba ▸ hb)⟩, hnodup⟩

theorem submit_eq_error_iff {l : MemoryLedger} {tx : Transaction} {e : QueryError} :
    l.submit tx = .error e ↔ ∃ a, l.conflict? tx = some a ∧ e = .alreadyInitialized a.text := by
  unfold submit
  cases l.conflict? tx with
  | none => simp
  | some a => simp [eq_comm]

theorem submitted_of_submit {l l' : MemoryLedger} {tx : Transaction} {signature : String}
    (h : l.submit tx = .ok (signature, l')) : l'.submitted = l.submitted ++ [tx] := by
  unfold submit at h
  split at h
  · simp at h
  · simp only [Except.ok.injEq, Prod.mk.injEq] at h
    rw [← h.2]
    rfl

/-! ### Confirming -/

/-- The number that a signature of this ledger ends in, if it is at most `count`. -/
def numberOf? (count : Nat) (signature : String) : Option Nat :=
  let mark := "memory-".toList
  let cs := signature.toList
  if mark.isPrefixOf cs then (Text.natural 10 (count + 1) (cs.drop mark.length)).toOption else none

/-- Whether a signature belongs to a transaction that was carried out. -/
def isKnown (l : MemoryLedger) (signature : String) : Bool :=
  (numberOf? l.submitted.length signature).any fun n => 1 ≤ n

/-- Wait for a transaction; whatever was carried out is certain at once. -/
def confirm (l : MemoryLedger) (signature : String) : Except QueryError Unit :=
  if l.isKnown signature then .ok () else .error (.transport s!"unknown signature {signature}")

/-! ### As a client sees it -/

/-- The reply to a submission, with the ledger after it. -/
def replyToSubmit (tx : Transaction) (l : MemoryLedger) : Reply String × MemoryLedger :=
  match l.submit tx with
  | .ok (signature, after) => (.answered signature, after)
  | .error e => (.failed e, l)

/-- The requests to a ledger in memory, all of which come back. -/
def requests : Ledger MemoryLedger :=
  { account := fun a l => (.answered (l.data? a), l)
    scan := fun owner size window l => (.answered (l.scan owner size window), l)
    balance := fun a l => (.answered (l.balance a), l)
    signatures := fun a l => (.answered (l.signatures a), l)
    transaction := fun signature l => (.answered (l.transaction? signature), l)
    submit := replyToSubmit
    confirm := fun signature _ l => (.ofResult (l.confirm signature), l) }

end MemoryLedger

end AssetMarket
