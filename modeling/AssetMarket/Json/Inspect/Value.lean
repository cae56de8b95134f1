/-
**The way through any value.**

Containers that are not yet closed wait in a list, so a value that is passed over may be nested as
deeply as the text allows.  One that is read has room for a number of containers inside one another.

Main definitions:

* `Json.Enclosure`, `Json.Inspect.Stage` — an open container, and what may come next;
* `Json.Inspect.hasItem`, `Json.Inspect.hasName` — whether a container goes on;
* `Json.Inspect.value` — the way through a value.
-/

import AssetMarket.Json.Inspect.Scalar

set_option relaxedAutoImplicit false
set_option autoImplicit false

namespace AssetMarket

namespace Json

/-- A container that is not yet closed. -/
inductive Enclosure where
  | list
  | object
  deriving DecidableEq, Repr

namespace Inspect

/-! ### Commas, names and colons -/

/-- Whether another item comes, with the comma in front of it passed; the end of the array stays. -/
def hasItem (care : Care) (isFirst : Bool) : Inspect Bool := do
  let c ← nextOr .openList
  if c = ']' then return false
  if isFirst then return true
  if c ≠ ',' then failAhead .noListComma
  eat
  if care.isReading then
    if (← nextOr .openValue) = ']' then failAhead .trailingComma
  return true

/-- Whether another name comes, with the comma in front of it passed; the end of the object stays.
A comma before that end is a fault in any case. -/
def hasName (care : Care) (isFirst : Bool) : Inspect Bool := do
  let c ← nextOr .openObject
  if c = '}' then return false
  if isFirst then
    if c ≠ '"' then failAhead .noName
    return true
  if c ≠ ',' then failAhead .noObjectComma
  eat
  let c ← nextOr (if care.isReading then .openValue else .openObject)
  if c = '}' ∧ care.isReading then failAhead .trailingComma
  if c ≠ '"' then failAhead .noName
  return true

/-- The way through the colon behind a name. -/
def colon : Inspect Unit := do
  if (← nextOr .openObject) ≠ ':' then failAhead .noColon
  eat

/-! ### Values -/

/-- What may come next. -/
inductive Stage where
  /-- A value. -/
  | value
  /-- The first item or name of a container, or its end. -/
  | opened
  /-- Another item or name of a container, or its end; the end of all if none is open. -/
  | after
  deriving DecidableEq, Repr

/-- A container begins, if there is room for it. -/
def enter (care : Care) (inside : List Enclosure) (e : Enclosure) :
    Inspect (Stage × List Enclosure) := do
  match care with
  | .reading levels => if levels ≤ inside.length then failAhead .tooDeep
  | .passing => pure ()
  eat
  return (.opened, e :: inside)

/-- A value begins. -/
def stepValue (care : Care) (inside : List Enclosure) : Inspect (Stage × List Enclosure) := do
  match ← nextOr .openValue with
  | '[' => enter care inside .list
  | '{' => enter care inside .object
  | _ =>
      scalar care
      return (.after, inside)

/-- A container goes on or ends. -/
def stepInside (care : Care) (isFirst : Bool) :
    List Enclosure → Inspect (Stage × List Enclosure)
  | [] => return (.after, [])
  | .list :: outer => do
      if ← hasItem care isFirst then stepValue care (.list :: outer)
      else
        eat
        return (.after, outer)
  | .object :: outer => do
      if ← hasName care isFirst then
        text care
        colon
        return (.value, .object :: outer)
      else
        eat
        return (.after, outer)

/-- One step inside of some containers, which passes a character at least unless all is done. -/
def step (care : Care) (stage : Stage) (inside : List Enclosure) :
    Inspect (Stage × List Enclosure) :=
  match stage with
  | .value => stepValue care inside
  | .opened => stepInside care true inside
  | .after => stepInside care false inside

/-- Step by step, until all is done. -/
def walk (care : Care) : Nat → Stage → List Enclosure → Inspect Unit
  | 0, _, _ => pure ()
  | steps + 1, stage, inside => do
      let (stage, inside) ← step care stage inside
      if stage = .after ∧ inside = [] then pure ()
      else walk care steps stage inside

/-- The way through a value. -/
def value (care : Care) : Inspect Unit := do walk care (← enough) .value []

end Inspect

end Json

end AssetMarket
