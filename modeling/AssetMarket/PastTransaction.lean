/-
**Transactions of the past.**

A ledger keeps the transactions it has carried out: their instructions and, grouped under the
position of the instruction that caused them, the instructions that programs carried out on their
own.  Of the latter only plain moves of coins matter, because settled prices are not among the
arguments.

Main definitions:

* `PastTransaction` and its parts;
* `PastTransaction.innerAt` — what was carried out under an instruction;
* `PastTransaction.transferredFrom` — the coins that left an account under an instruction;
* `PastTransaction.names` — whether a transaction names an account.

Main results:

* `PastTransaction.transferredFrom_eq_sum` — the exact sum of the moves, up to the largest amount.
-/

import AssetMarket.Address
import AssetMarket.Saturate

set_option relaxedAutoImplicit false
set_option autoImplicit false

namespace AssetMarket

/-- An instruction as the ledger keeps it. -/
@[ext]
structure PastInstruction where
  program : Address
  accounts : List Address
  data : Bytes
  deriving DecidableEq

/-- An instruction that a program carried out on its own. -/
inductive InnerInstruction where
  /-- A plain move of coins. -/
  | transfer (source destination : Address) (amount : UInt64)
  /-- Anything else. -/
  | other (program : Address)
  deriving DecidableEq

/-- What was carried out under the instruction at a position. -/
@[ext]
structure InnerGroup where
  index : UInt64
  instructions : List InnerInstruction
  deriving DecidableEq

/-- A transaction that was carried out. -/
@[ext]
structure PastTransaction where
  signature : String
  blockTime : Option Int64
  instructions : List PastInstruction
  inner : List InnerGroup
  deriving DecidableEq

/-- The coins that an inner instruction takes from an account, if it is a move out of it. -/
def InnerInstruction.amountFrom? (payer : Address) : InnerInstruction → Option UInt64
  | .transfer source _ amount => if source = payer then some amount else none
  | .other _ => none

namespace PastTransaction

/-- What was carried out under the instruction at a position. -/
def innerAt (tx : PastTransaction) (index : Nat) : List InnerInstruction :=
  (tx.inner.filter fun group => group.index.toNat == index).flatMap (·.instructions)

/-- The coins that left an account under the instruction at a position. -/
def transferredFrom (tx : PastTransaction) (index : Nat) (payer : Address) : UInt64 :=
  ((tx.innerAt index).filterMap (InnerInstruction.amountFrom? payer)).foldl saturatingAdd 0

/-- Whether some instruction of a transaction names an account. -/
def names (tx : PastTransaction) (a : Address) : Bool :=
  tx.instructions.any fun i => a ∈ i.accounts

/-- The accounts that a transaction names, in order and with repetitions. -/
def accounts (tx : PastTransaction) : List Address := tx.instructions.flatMap (·.accounts)

theorem transferredFrom_eq_sum (tx : PastTransaction) (index : Nat) (payer : Address) :
    (tx.transferredFrom index payer).toNat =
      min (2 ^ 64 - 1)
        (((tx.innerAt index).filterMap (InnerInstruction.amountFrom? payer)).map
          UInt64.toNat).sum := by
  simp [transferredFrom, toNat_foldl_saturatingAdd]

end PastTransaction

end AssetMarket
