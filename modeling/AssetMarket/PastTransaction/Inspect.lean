/-
**Faults of past transactions.**

The way through a past transaction in the form of a snapshot.  It ends in a fault just where the
transaction cannot be read.

Main definitions:

* `PastInstruction.way`, `InnerInstruction.way`, `InnerGroup.way` — the ways through the parts;
* `PastTransaction.way` — the way through a transaction.
-/

import AssetMarket.Json.Inspect.Shape
import AssetMarket.PastTransaction.Json

set_option relaxedAutoImplicit false
set_option autoImplicit false

namespace AssetMarket

open Json (ShapeError asText asU64 asIndex asI64 asList asOption contentFault?)
open Json.Inspect (plain parsed checked record list tagged)

/-- The way through an instruction. -/
def PastInstruction.way : Json.Inspect Unit :=
  record "struct RecordedInstruction"
    [⟨"program_id", false, parsed Address.ofJson⟩,
     ⟨"accounts", true,
      checked (fun j => (asList Address.ofJson j).fault?)
        (list (plain fun j => j.asText.fault?))⟩,
     ⟨"data", true, parsed Bytes.ofBase58Json⟩]

namespace InnerInstruction

/-- The fault of a tag. -/
def tagFault? : Json → Option ShapeError
  | .text (some s) =>
      if s = "systemTransfer" ∨ s = "other" then none
      else some (.unknownKind s "systemTransfer" "other")
  | j => some (.unexpected j.describe "variant identifier")

/-- The fault of the fields of an inner instruction, given its tag. -/
def fieldsFault? (tag : Json) (content : Json) : Option ShapeError :=
  let address := fun j => (Address.ofJson j).fault?
  match tag with
  | .text (some "systemTransfer") =>
      contentFault? "struct variant InnerInstruction::SystemTransfer"
        [("source", address), ("destination", address), ("lamports", fun j => j.asU64.fault?)]
        content
  | _ => contentFault? "struct variant InnerInstruction::Other" [("program_id", address)] content

/-- The fault of an inner instruction that has been read as it is. -/
def innerFault? : Json → Option ShapeError
  | .array (tag :: items) => fieldsFault? tag (.array items)
  | .object members => fieldsFault? ((members.lookup (some "type")).getD .null) (.object members)
  | _ => none

/-- The way through an inner instruction. -/
def way (levels : Nat) : Json.Inspect Unit :=
  tagged "internally tagged enum InnerInstruction" "type" (plain tagFault?) levels innerFault?

end InnerInstruction

/-- The way through a group. -/
def InnerGroup.way (levels : Nat) : Json.Inspect Unit :=
  record "struct InnerInstructionGroup"
    [⟨"index", false, plain fun j => j.asIndex.fault?⟩,
     ⟨"instructions", false, list (InnerInstruction.way (levels - 2))⟩]

/-- The way through a transaction, which has room for `levels` containers inside one another. -/
def PastTransaction.way (levels : Nat) : Json.Inspect Unit :=
  record "struct HistoricalTransaction"
    [⟨"signature", false, plain fun j => j.asText.fault?⟩,
     ⟨"blockTime", true, plain fun j => (asOption asI64 j).fault?⟩,
     ⟨"instructions", false, list PastInstruction.way⟩,
     ⟨"innerInstructions", true, list (InnerGroup.way (levels - 2))⟩]

end AssetMarket
