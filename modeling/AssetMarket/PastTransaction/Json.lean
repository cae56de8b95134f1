/-
**Past transactions as JSON.**

This is the form in which snapshots keep past transactions.  Addresses and data are base 58. An
inner instruction tells by its member `type` what it is; because that member may stand anywhere,
the whole value has to be sound before any of it is looked at, whereas elsewhere members that are
not known are passed over.

Main definitions:

* `PastTransaction.toJson`, `PastTransaction.ofJson` — transactions as JSON values;
* `PastTransaction.ofText?` — the transaction of a JSON text.
-/

import AssetMarket.Address.Text
import AssetMarket.Json.Document
import AssetMarket.Json.Shape
import AssetMarket.Json.Writer
import AssetMarket.PastTransaction

set_option relaxedAutoImplicit false
set_option autoImplicit false

namespace AssetMarket

open Json (Shape required optional asText asU64 asIndex asI64 asList asOption asParsed)

/-! ### Plain parts -/

/-- The fault of a value in which a text has this failure. -/
def MarketError.shapeError (e : MarketError) : Json.ShapeError :=
  if e.isBreakdown then .breakdown else .invalid e.message

/-- The fault of a value in which a text has this error in base 58. -/
def Base58.Error.shapeError : Base58.Error → Json.ShapeError
  | .breakdown => .breakdown
  | e => .invalid ("invalid base58 data: " ++ e.message)

/-- An address from its base 58 text. -/
def Address.ofJson (j : Json) : Shape Address := asParsed Address.ofText MarketError.shapeError j

/-- Bytes from their base 58 text. -/
def Bytes.ofBase58Json (j : Json) : Shape Bytes :=
  asParsed Base58.decode Base58.Error.shapeError j

/-! ### Instructions -/

/-- An instruction as JSON. -/
def PastInstruction.toJson (i : PastInstruction) : Json :=
  .record
    [("program_id", .str i.program.text), ("accounts", .array (i.accounts.map (.str ·.text))),
     ("data", .str (Base58.encode i.data))]

/-- Read an instruction. -/
def PastInstruction.ofJson (j : Json) : Shape PastInstruction := do
  let ms ← j.fields "struct RecordedInstruction" ["program_id", "accounts", "data"]
  return {
    program := ← required ms "program_id" Address.ofJson
    accounts := ← optional ms "accounts" [] (asList Address.ofJson)
    data := ← optional ms "data" [] Bytes.ofBase58Json }

namespace InnerInstruction

/-- An inner instruction as JSON. -/
def toJson : InnerInstruction → Json
  | .transfer source destination amount =>
      .record
        [("type", .str "systemTransfer"), ("source", .str source.text),
         ("destination", .str destination.text), ("lamports", .int amount.toNat)]
  | .other program => .record [("type", .str "other"), ("program_id", .str program.text)]

/-- Read an inner instruction of a given type from its other members. -/
def ofFields (type : String) (j : Json) : Shape InnerInstruction := do
  if type = "systemTransfer" then
    let ms ←
      j.fields "struct variant InnerInstruction::SystemTransfer"
        ["source", "destination", "lamports"]
    return .transfer (← required ms "source" Address.ofJson)
      (← required ms "destination" Address.ofJson) (← required ms "lamports" asU64)
  else if type = "other" then
    let ms ← j.fields "struct variant InnerInstruction::Other" ["program_id"]
    return .other (← required ms "program_id" Address.ofJson)
  else throw (.unknownKind type "systemTransfer" "other")

/-- Read an inner instruction, which has room for `levels` containers inside one another.  Written
as an array it has its type in front. -/
def ofJson (levels : Nat) (j : Json) : Shape InnerInstruction := do
  let wanted := "internally tagged enum InnerInstruction"
  if !j.isSound levels then j.unlike wanted
  match j with
  | .array (type :: items) => ofFields (← asText type) (.array items)
  | .object members =>
      let ms ← j.fields wanted ["type"]
      ofFields (← required ms "type" asText) (.object members)
  | _ => j.unlike wanted

end InnerInstruction

/-- A group as JSON. -/
def InnerGroup.toJson (g : InnerGroup) : Json :=
  .record
    [("index", .int g.index.toNat),
     ("instructions", .array (g.instructions.map InnerInstruction.toJson))]

/-- Read a group. -/
def InnerGroup.ofJson (levels : Nat) (j : Json) : Shape InnerGroup := do
  let ms ← j.fields "struct InnerInstructionGroup" ["index", "instructions"]
  return {
    index := ← required ms "index" asIndex
    instructions := ← required ms "instructions" (asList (InnerInstruction.ofJson (levels - 2))) }

/-! ### Transactions -/

namespace PastTransaction

/-- A time as JSON, which may be unknown. -/
def timeToJson : Option Int64 → Json
  | some t => .int t.toInt
  | none => .null

/-- A transaction as JSON. -/
def toJson (tx : PastTransaction) : Json :=
  .record
    [("signature", .str tx.signature), ("blockTime", timeToJson tx.blockTime),
     ("instructions", .array (tx.instructions.map PastInstruction.toJson)),
     ("innerInstructions", .array (tx.inner.map InnerGroup.toJson))]

/-- Read a transaction, which has room for `levels` containers inside one another. -/
def ofJson (levels : Nat) (j : Json) : Shape PastTransaction := do
  let ms ←
    j.fields "struct HistoricalTransaction"
      ["signature", "blockTime", "instructions", "innerInstructions"]
  return {
    signature := ← required ms "signature" asText
    blockTime := ← optional ms "blockTime" none (asOption asI64)
    instructions := ← required ms "instructions" (asList PastInstruction.ofJson)
    inner := ← optional ms "innerInstructions" [] (asList (InnerGroup.ofJson (levels - 2))) }

/-- The most containers inside one another that a text may have where they are looked at. -/
def maxLevels : Nat := 127

/-- The transaction of a JSON text.  There is none if the text is refused, and none if its reader
breaks down. -/
def ofText? (s : String) : Option PastTransaction := do
  let j ← Json.ofText? s
  (ofJson maxLevels j).toOption

end PastTransaction

end AssetMarket
