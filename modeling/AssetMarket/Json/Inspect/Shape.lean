/-
**The way through a value of a known shape.**

The parts of a value are looked at as they come.  A structure or list that turns out wrong is still
followed up to its end, or to where something else stands, and that is the place of a fault that
has none of its own.

Main definitions:

* `Json.Inspect.checked` — a part that has to have a shape once it is passed;
* `Json.Inspect.plain`, `Json.Inspect.list` — values without parts, and arrays of one shape;
* `Json.Inspect.Field`, `Json.Inspect.record` — structures;
* `Json.Inspect.tagged` — structures of several kinds, told apart by one member;
* `Json.contentFault?` — the fault of the fields of such a structure.
-/

import AssetMarket.Json.Document
import AssetMarket.Json.Inspect.Value

set_option relaxedAutoImplicit false
set_option autoImplicit false

namespace AssetMarket

namespace Json

namespace Inspect

/-- How values of a known shape are looked at. -/
def closely : Care := .reading 0

/-! ### Values without parts -/

/-- A part that is passed first, and then has to have a shape. -/
def checked (shape : Json → Option ShapeError) (way : Inspect Unit) : Inspect Unit := do
  match (Json.ofText? (String.ofList (← piece way))).bind shape with
  | some e => blame e
  | none => pure ()

/-- A value without parts.  A container is not even entered. -/
def plain (shape : Json → Option ShapeError) : Inspect Unit := placed do
  match ← nextOr .openValue with
  | '[' => (shape (.array [])).forM blame
  | '{' => (shape (.object [])).forM blame
  | _ => checked shape (scalar closely)

/-- A value that has another sort than the one wanted. -/
def unlike (wanted : String) : Inspect Unit :=
  plain fun j => some (.unexpected j.describe wanted)

/-- A value through a reader of texts. -/
def parsed {α : Type} (shape : Json → Shape α) : Inspect Unit :=
  checked (fun j => (shape j).fault?) (plain fun j => j.asText.fault?)

/-! ### Containers -/

/-- The end of an array. -/
def endList : Inspect Unit := do
  match ← nextOr .openList with
  | ']' => eat
  | ',' =>
      eat
      blanks
      if (← peek?) = some ']' then failAhead .trailingComma
      failAhead .trailingText
  | _ => failAhead .trailingText

/-- The end of an object. -/
def endObject : Inspect Unit := do
  match ← nextOr .openObject with
  | '}' => eat
  | ',' => failAhead .trailingComma
  | _ => failAhead .trailingText

/-- What stands between two brackets.  After a fault inside, the end is still looked for. -/
def enclosed (content ending : Inspect Unit) : Inspect Unit := placed do
  eat
  tryCatch content fun f => do
    tryCatch ending fun _ => pure ()
    throw f
  ending

/-- The items of an array, in so many steps. -/
def items (item : Inspect Unit) : Nat → Bool → Inspect Unit
  | 0, _ => pure ()
  | steps + 1, isFirst => do
      if ← hasItem closely isFirst then
        item
        items item steps false

/-- An array with items of one shape. -/
def list (item : Inspect Unit) : Inspect Unit := do
  match ← nextOr .openValue with
  | '[' => enclosed (do items item (← enough) true) endList
  | _ => unlike "a sequence"

/-- The way through a name, and the name. -/
def name : Inspect String := do
  match Json.ofText? (String.ofList (← piece (text closely))) with
  | some (.text (some s)) => return s
  | _ => return ""

/-! ### Structures -/

/-- A field of a structure. -/
structure Field where
  name : String
  mayBeAbsent : Bool
  way : Inspect Unit

/-- The fields of a structure of `count` fields that is written as an array, with their positions. -/
def arrayFields (wanted : String) (count : Nat) : List (Field × Nat) → Inspect Unit
  | [] => pure ()
  | (field, index) :: fields => do
      if ← hasItem closely (index = 0) then field.way
      else if !field.mayBeAbsent then blame (.tooFew index wanted count)
      arrayFields wanted count fields

/-- The fields of a structure that is written as an object, in so many steps, given the names of
those that have been there. -/
def objectFields (fields : List Field) : Nat → Bool → List String → Inspect Unit
  | 0, _, _ => pure ()
  | steps + 1, isFirst, seen => do
      if ← hasName closely isFirst then
        let name ← name
        match fields.find? (·.name = name) with
        | some field =>
            if name ∈ seen then blame (.repeated name)
            colon
            field.way
        | none =>
            colon
            value .passing
        objectFields fields steps false (name :: seen)
      else
        match fields.find? fun field => !field.mayBeAbsent && field.name ∉ seen with
        | some field => blame (.missing field.name)
        | none => pure ()

/-- A structure. -/
def record (wanted : String) (fields : List Field) : Inspect Unit := do
  match ← nextOr .openValue with
  | '[' => enclosed (arrayFields wanted fields.length fields.zipIdx) endList
  | '{' => enclosed (do objectFields fields (← enough) true []) endObject
  | _ => unlike wanted

/-! ### Structures of several kinds -/

/-- The members of a structure, one of which is its tag, in so many steps. -/
def taggedMembers (key : String) (tag member : Inspect Unit) : Nat → Bool → Bool → Inspect Unit
  | 0, _, _ => pure ()
  | steps + 1, isFirst, seen => do
      if ← hasName closely isFirst then
        let name ← name
        if name = key then
          if seen then blame (.repeated key)
          colon
          tag
        else
          colon
          member
        taggedMembers key tag member steps false (seen || name = key)
      else if !seen then blame (.missing key)

/-- The items of a structure, the first of which is its tag. -/
def taggedItems (key : String) (tag member : Inspect Unit) : Inspect Unit := do
  if ← hasItem closely true then
    tag
    items member (← enough) false
  else blame (.missing key)

/-- A structure that tells by its tag of what kind it is.  Since the tag may stand anywhere, all else
is first read as it is, with room for `levels` containers inside one another, and looked at
afterwards. -/
def tagged (wanted key : String) (tag : Inspect Unit) (levels : Nat)
    (content : Json → Option ShapeError) : Inspect Unit :=
  checked content do
    let member := value (.reading (levels - 1))
    match ← nextOr .openValue with
    | '[' => enclosed (taggedItems key tag member) endList
    | '{' => enclosed (do taggedMembers key tag member (← enough) true false) endObject
    | _ => unlike wanted

end Inspect

/-! ### Fields that have been read before -/

/-- A field of a structure that has been read before: its name and its fault. -/
abbrev ContentField := String × (Json → Option ShapeError)

/-- The first fault of the members of an object, given the names of those in front. -/
def membersFault? (fields : List ContentField) (seen : List String) :
    List (Option String × Json) → Option ShapeError
  | [] => (fields.find? fun field => field.1 ∉ seen).map fun field => .missing field.1
  | (name, value) :: members =>
      let name := name.getD ""
      match fields.lookup name with
      | some fault =>
          if name ∈ seen then some (.repeated name)
          else fault value <|> membersFault? fields (name :: seen) members
      | none => membersFault? fields seen members

/-- The first fault of the items of an array. -/
def itemsFault? (wanted : String) (fields : List ContentField) (items : List Json) :
    Option ShapeError :=
  let faults := (fields.zip items).map fun (field, item) => field.2 item
  faults.findSome? id
    <|> (if items.length < fields.length then some (.tooFew items.length wanted fields.length)
      else if fields.length < items.length then some (.excess items.length fields.length)
      else none)

/-- The first fault of a structure that has been read before. -/
def contentFault? (wanted : String) (fields : List ContentField) : Json → Option ShapeError
  | .array items => itemsFault? wanted fields items
  | .object members => membersFault? fields [] members
  | j => some (.unexpected j.describe wanted)

end Json

end AssetMarket
