/-
**Transactions as a node reports them.**

A node of the ledger reports a transaction with much around it that does not matter here.  It
shows the instructions of programs it knows in a form of its own and all others raw.  A report is
one transaction or a list of them; what cannot be converted is passed over with a warning, and
failed transactions are passed over without one.  Where a reader of base 58 breaks down nothing is
passed over: nobody receives any of the transactions then.

Repeated names do not matter in a report, since the last one stands for all; but the whole text
must be sound before any of it is looked at.

Main definitions:

* `NodeInstruction`, `NodeTransaction` — what is read of a report;
* `NodeTransaction.toPast` — the transaction that is meant, unless it failed;
* `NodeReport`, `NodeReport.ofText` — the transactions of a report, and its warnings.

Main results:

* `NodeReport.ofText_eq_ok_iff` — there is a report where the text is sound JSON and no item of it
  breaks down a reader.
-/

import AssetMarket.Json.Inspect.Value
import AssetMarket.PastTransaction.Json

set_option relaxedAutoImplicit false
set_option autoImplicit false

namespace AssetMarket

open Json (Shape required optional asText asU64 asIndex asI64 asList asOption)

/-! ### Instructions -/

/-- The member of an object with this name. -/
def Json.member? (name : String) : Json → Option Json
  | .object members => members.lookup (some name)
  | _ => none

/-- An instruction as a node shows it. -/
inductive NodeInstruction where
  /-- In the form of the node, under the name by which the node knows the program. -/
  | shown (program : String) (family : Option String) (content : Json)
  /-- In the raw form. -/
  | raw (program : String) (accounts : List String) (data : String)

namespace NodeInstruction

/-- Read the form of the node, in which any content will do. -/
def shownOfJson (j : Json) : Shape NodeInstruction := do
  let ms ← j.fields "an instruction" ["programId", "program", "parsed"]
  return .shown (← required ms "programId" asText)
    (← optional ms "program" none (asOption asText)) (← required ms "parsed" .ok)

/-- Read the raw form. -/
def rawOfJson (j : Json) : Shape NodeInstruction := do
  let ms ← j.fields "an instruction" ["programId", "accounts", "data"]
  return .raw (← required ms "programId" asText) (← optional ms "accounts" [] (asList asText))
    (← optional ms "data" "" asText)

/-- Read an instruction, in the form of the node if possible.  It must be an object. -/
def ofJson (j : Json) : Shape NodeInstruction :=
  match j, shownOfJson j, rawOfJson j with
  | .object _, .ok i, _ => .ok i
  | .object _, .error _, .ok i => .ok i
  | _, _, _ => .error (.noVariant "RpcInstruction")

/-- What is said of data that are not base 58. -/
def badData (cause : String) : MarketError :=
  .undecodable "Instruction" s!"invalid base58 data: {cause}"

/-- The instruction that is meant.  The form of the node keeps neither accounts nor data. -/
def toPast : NodeInstruction → Except MarketError PastInstruction
  | .shown program _ _ => return { program := ← Address.ofText program, accounts := [], data := [] }
  | .raw program accounts data => do
      let program ← Address.ofText program
      let accounts ← accounts.mapM Address.ofText
      let data ← (Base58.decode data).mapError (.ofBase58 badData)
      return { program, accounts, data }

/-- A member of the description of a move of coins. -/
def transferField {α : Type} (info : Json) (name : String) (shape : Json → Shape α) :
    Except MarketError α :=
  match (info.member? name).map shape with
  | some (.ok a) => .ok a
  | _ => .error (.undecodable "SystemTransfer" s!"missing '{name}'")

/-- Whether the content of an instruction says that it is a move of coins. -/
def isTransfer (content : Json) : Bool :=
  match content.member? "type" with
  | some (.text (some word)) => word == "transfer"
  | _ => false

/-- The move of coins that the content of an instruction describes. -/
def toTransfer (content : Json) : Except MarketError InnerInstruction := do
  let info := (content.member? "info").getD .null
  let amount ← transferField info "lamports" asU64
  let source ← Address.ofText (← transferField info "source" asText)
  let destination ← Address.ofText (← transferField info "destination" asText)
  return .transfer source destination amount

/-- The inner instruction that is meant. -/
def toInner : NodeInstruction → Except MarketError InnerInstruction
  | .shown program family content => do
      let program ← Address.ofText program
      if family = some "system" ∧ isTransfer content then toTransfer content
      else return .other program
  | .raw program _ _ => return .other (← Address.ofText program)

end NodeInstruction

/-! ### Transactions -/

/-- Inner instructions as a node groups them. -/
structure NodeGroup where
  index : UInt64
  instructions : List NodeInstruction

/-- What a node adds to a transaction that it carried out. -/
structure NodeOutcome where
  failed : Bool
  inner : List NodeGroup

/-- A transaction as a node reports it. -/
structure NodeTransaction where
  blockTime : Option Int64
  signatures : List String
  instructions : List NodeInstruction
  outcome : NodeOutcome

/-- Read a group. -/
def NodeGroup.ofJson (j : Json) : Shape NodeGroup := do
  let ms ← j.members "struct RpcInnerGroup" ["index", "instructions"]
  let index := required ms "index" asIndex
  let instructions := required ms "instructions" (asList NodeInstruction.ofJson)
  ms.settle [index.fault?, instructions.fault?]
  return { index := ← index, instructions := ← instructions }

namespace NodeOutcome

/-- What is assumed where a node adds nothing. -/
def unknown : NodeOutcome := ⟨false, []⟩

/-- Read what a node adds.  Any value but `null` for the error means failure. -/
def ofJson (j : Json) : Shape NodeOutcome := do
  let ms ← j.members "struct RpcMeta" ["err", "innerInstructions"]
  let error := optional ms "err" none (asOption .ok)
  let inner := optional ms "innerInstructions" none (asOption (asList NodeGroup.ofJson))
  ms.settle [error.fault?, inner.fault?]
  return { failed := (← error).isSome, inner := (← inner).getD [] }

end NodeOutcome

namespace NodeTransaction

/-- Read the instructions of a message. -/
def messageOfJson (j : Json) : Shape (List NodeInstruction) := do
  let ms ← j.members "struct RpcMessage" ["instructions"]
  let instructions := required ms "instructions" (asList NodeInstruction.ofJson)
  ms.settle [instructions.fault?]
  instructions

/-- Read the signatures and the instructions. -/
def bodyOfJson (j : Json) : Shape (List String × List NodeInstruction) := do
  let ms ← j.members "struct RpcTransactionBody" ["signatures", "message"]
  let signatures := required ms "signatures" (asList asText)
  let instructions := required ms "message" messageOfJson
  ms.settle [signatures.fault?, instructions.fault?]
  return (← signatures, ← instructions)

/-- Read a transaction. -/
def ofJson (j : Json) : Shape NodeTransaction := do
  let ms ← j.members "struct RpcTransaction" ["blockTime", "transaction", "meta"]
  let blockTime := optional ms "blockTime" none (asOption asI64)
  let body := required ms "transaction" bodyOfJson
  let outcome := optional ms "meta" none (asOption NodeOutcome.ofJson)
  ms.settle [blockTime.fault?, body.fault?, outcome.fault?]
  let (signatures, instructions) ← body
  return {
    blockTime := ← blockTime, signatures, instructions, outcome := (← outcome).getD .unknown }

/-- The signature that names a transaction, which is its first one. -/
def signature (t : NodeTransaction) : Except MarketError String :=
  match t.signatures with
  | signature :: _ => .ok signature
  | [] => .error (.undecodable "Transaction" "no signatures")

/-- The group that is meant. -/
def groupToPast (g : NodeGroup) : Except MarketError InnerGroup :=
  return { index := g.index, instructions := ← g.instructions.mapM NodeInstruction.toInner }

/-- The transaction that is meant, unless it failed. -/
def toPast (t : NodeTransaction) : Except MarketError (Option PastTransaction) := do
  if t.outcome.failed then return none
  let signature ← t.signature
  let instructions ← t.instructions.mapM NodeInstruction.toPast
  let inner ← t.outcome.inner.mapM groupToPast
  return some { signature, blockTime := t.blockTime, instructions, inner }

end NodeTransaction

/-! ### Reports -/

/-- The transactions of a report, and what is said about those that are passed over. -/
structure NodeReport where
  transactions : List PastTransaction
  warnings : List String

namespace NodeReport

/-- The items of a report. -/
def items : Json → List Json
  | .array items => items
  | j => [j]

/-- The transaction of an item. -/
def convert (j : Json) : Except MarketError (Option PastTransaction) := do
  let t ← (NodeTransaction.ofJson j).mapError fun e => .undecodable "Transaction" e.message
  t.toPast

/-- What is said about an item that is passed over. -/
def warning? (entry : Json × Nat) : Option String :=
  match convert entry.1 with
  | .ok _ => none
  | .error e => some s!"⚠️  Skipping transaction #{entry.2}: {e.message}"

/-- The transaction of an item, if there is one. -/
def transaction? (j : Json) : Option PastTransaction :=
  match convert j with
  | .ok t => t
  | .error _ => none

/-- Whether a reader breaks down on an item. -/
def breaksDown (j : Json) : Bool :=
  match convert j with
  | .ok _ => false
  | .error e => e.isBreakdown

/-- The report that a value is.  A breakdown is not passed over with its item: it is the end of all,
also of what was taken over before. -/
def ofJson (j : Json) : Except MarketError NodeReport :=
  if (items j).any breaksDown then .error .breakdown
  else .ok {
    transactions := (items j).filterMap transaction?
    warnings := (items j).zipIdx.filterMap warning? }

/-- The value of a text, if it is sound JSON. -/
def value? (s : String) : Option Json := do
  let j ← Json.ofText? s
  guard (j.isSound PastTransaction.maxLevels)
  return j

/-- What is said of a text that is no sound JSON. -/
def complaint (s : String) : String :=
  Json.Inspect.complaint (Json.Inspect.value (.reading PastTransaction.maxLevels)) s

/-- The report of a text.  Only a text that is no sound JSON is refused. -/
def ofText (s : String) : Except MarketError NodeReport :=
  match value? s with
  | some j => ofJson j.lastOfEach
  | none => .error (.undecodable "Transaction" (complaint s))

theorem ofText_of_value? {text : String} {j : Json} (h : value? text = some j) :
    ofText text = ofJson j.lastOfEach := by
  simp only [ofText, h]

theorem ofText_eq_ok_iff {text : String} {r : NodeReport} :
    ofText text = .ok r ↔ ∃ j, value? text = some j ∧ ofJson j.lastOfEach = .ok r := by
  unfold ofText
  cases value? text <;> simp

end NodeReport

end AssetMarket
