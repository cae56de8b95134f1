/-
**Instructions and transactions.**

An instruction names a program, the accounts it works on and its data.  A transaction is a list of
instructions that are carried out together, and it is paid for, and signed, by one account.

Main definitions:

* `AccountRef` — an account as an instruction names it;
* `Instruction`, `InstructionSet`, `Transaction` — instructions, and how they are put together;
* `Transaction.countWithOpcode` — how many instructions begin with given bytes.
-/

import AssetMarket.Address

set_option relaxedAutoImplicit false
set_option autoImplicit false

namespace AssetMarket

/-- An account as an instruction names it: whether it signs, and whether it may be written. -/
@[ext]
structure AccountRef where
  address : Address
  isSigner : Bool
  isWritable : Bool
  deriving DecidableEq

namespace AccountRef

/-- An account that signs; it pays, so it may be written too. -/
def signer (a : Address) : AccountRef := ⟨a, true, true⟩

/-- An account that may be written. -/
def writable (a : Address) : AccountRef := ⟨a, false, true⟩

/-- An account that is only read. -/
def readOnly (a : Address) : AccountRef := ⟨a, false, false⟩

end AccountRef

/-- A call of a program. -/
@[ext]
structure Instruction where
  program : Address
  accounts : List AccountRef
  data : Bytes
  deriving DecidableEq

/-- The instruction that does what is wanted, and those that must run before it. -/
@[ext]
structure InstructionSet where
  setup : List Instruction
  primary : Instruction
  deriving DecidableEq

namespace InstructionSet

/-- An instruction that needs nothing before it. -/
def alone (primary : Instruction) : InstructionSet := ⟨[], primary⟩

/-- The set with one more instruction in front of all others. -/
def prepend (set : InstructionSet) (i : Instruction) : InstructionSet :=
  { set with setup := i :: set.setup }

/-- All instructions in the order in which they run. -/
def toList (set : InstructionSet) : List Instruction := set.setup ++ [set.primary]

@[simp] theorem toList_alone (i : Instruction) : (alone i).toList = [i] := rfl

@[simp] theorem toList_prepend (set : InstructionSet) (i : Instruction) :
    (set.prepend i).toList = i :: set.toList := rfl

end InstructionSet

/-- Instructions that are carried out together, and who pays for them. -/
@[ext]
structure Transaction where
  payer : Address
  instructions : List Instruction
  deriving DecidableEq

namespace Transaction

/-- The transaction of an instruction set. -/
def ofSet (payer : Address) (set : InstructionSet) : Transaction := ⟨payer, set.toList⟩

/-- How many instructions have data that begin with these bytes. -/
def countWithOpcode (tx : Transaction) (opcode : Bytes) : Nat :=
  tx.instructions.countP fun i => opcode.isPrefixOf i.data

end Transaction

end AssetMarket
