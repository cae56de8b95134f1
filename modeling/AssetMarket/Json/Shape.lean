/-
**Taking JSON values apart.**

Whoever reads a value knows which shape it must have.  A structure may be written as an object, in
which members that are not known are passed over and a known one must not be repeated, or as an
array of its fields in order, of which the last ones may be left out.

The fields of a structure are looked at one after another.  Of two faults the one that is come upon
first is reported, and that a field is not there turns out last of all.

Main definitions:

* `Json.ShapeError` — why a value has not the shape wanted;
* `Json.asText`, `Json.asNatural`, `Json.asInteger`, `Json.asBool`, `Json.asList` — plain shapes;
* `Json.Members`, `Json.members`, `Json.fields` — the fields of a structure;
* `Json.Members.settle` — the fault that is reported of them;
* `Json.required`, `Json.optional` — one field.

Main results:

* `Json.Members.settle_eq_ok` — without faults and items in excess, nothing is reported.
-/

import AssetMarket.Json
import AssetMarket.Text.Quoted

set_option relaxedAutoImplicit false
set_option autoImplicit false

namespace AssetMarket

namespace Json

/-- Why a value has not the shape wanted. -/
inductive ShapeError where
  /-- The value is of another sort. -/
  | unexpected (found wanted : String)
  /-- An integer is too large or too small. -/
  | outOfRange (z : Int) (wanted : String)
  /-- A field is not there. -/
  | missing (field : String)
  /-- A field is there twice. -/
  | repeated (field : String)
  /-- An array ends before the field at `index`, of `count` ones. -/
  | tooFew (index : Nat) (wanted : String) (count : Nat)
  /-- An array of `length` items has more of them than the structure has fields. -/
  | tooMany (length : Nat)
  /-- An array that has been read before has `length` items, more than the structure has fields. -/
  | excess (length count : Nat)
  /-- A structure is of no known kind. -/
  | unknownKind (found first second : String)
  /-- A text inside is not what it should denote. -/
  | invalid (message : String)
  /-- The value has none of the shapes that are possible. -/
  | noVariant (kind : String)
  /-- No fault of the value: the reader of a text inside breaks down. -/
  | breakdown
  deriving DecidableEq, Repr

/-- A number of elements in words. -/
def elements (count : Nat) : String := if count = 1 then "1 element" else s!"{count} elements"

/-- The wording of each cause. -/
def ShapeError.message : ShapeError → String
  | .unexpected found wanted => s!"invalid type: {found}, expected {wanted}"
  | .outOfRange z wanted => "invalid value: integer \x60" ++ toString z ++ "\x60, expected " ++ wanted
  | .missing field => "missing field \x60" ++ field ++ "\x60"
  | .repeated field => "duplicate field \x60" ++ field ++ "\x60"
  | .tooFew index wanted count => s!"invalid length {index}, expected {wanted} with {elements count}"
  | .tooMany length => s!"invalid length {length}, expected fewer elements in array"
  | .excess length count => s!"invalid length {length}, expected {elements count} in sequence"
  | .unknownKind found first second =>
      "unknown variant \x60" ++ found ++ "\x60, expected \x60" ++ first ++ "\x60 or \x60"
        ++ second ++ "\x60"
  | .invalid message => message
  | .noVariant kind => s!"data did not match any variant of untagged enum {kind}"
  | .breakdown => "text out of range"

/-- What reading a value gives. -/
abbrev Shape (α : Type) := Except ShapeError α

/-- The fault of a value, if it has one. -/
def Shape.fault? {α : Type} : Shape α → Option ShapeError
  | .ok _ => none
  | .error e => some e

/-! ### Plain shapes -/

/-- What is said of a value whose sort is not the one wanted. -/
def describe : Json → String
  | .null => "null"
  | .bool b => "boolean \x60" ++ toString b ++ "\x60"
  | .int z => "integer \x60" ++ toString z ++ "\x60"
  | .decimal d => "floating point \x60" ++ d.text ++ "\x60"
  | .text s => "string " ++ Text.quoteText (s.getD "")
  | .array _ => "sequence"
  | .object _ => "map"

/-- The error of a value that is not of the sort wanted. -/
def unlike {α : Type} (j : Json) (wanted : String) : Shape α := .error (.unexpected j.describe wanted)

/-- A text. -/
def asText : Json → Shape String
  | .text (some s) => .ok s
  | j => j.unlike "a string"

/-- A truth value. -/
def asBool : Json → Shape Bool
  | .bool b => .ok b
  | j => j.unlike "a boolean"

/-- An integer from zero up to, and not including, a bound. -/
def asNatural (wanted : String) (bound : Nat) : Json → Shape Nat
  | .int z => if 0 ≤ z ∧ z < bound then .ok z.toNat else .error (.outOfRange z wanted)
  | j => j.unlike wanted

/-- An integer from `-bound` up to, and not including, `bound`. -/
def asInteger (wanted : String) (bound : Nat) : Json → Shape Int
  | .int z => if -bound ≤ z ∧ z < bound then .ok z else .error (.outOfRange z wanted)
  | j => j.unlike wanted

/-- An unsigned 64-bit integer. -/
def asU64 (j : Json) : Shape UInt64 := (asNatural "u64" (2 ^ 64) j).map UInt64.ofNat

/-- The position of something in a list. -/
def asIndex (j : Json) : Shape UInt64 := (asNatural "usize" (2 ^ 64) j).map UInt64.ofNat

/-- A signed 64-bit integer. -/
def asI64 (j : Json) : Shape Int64 := (asInteger "i64" (2 ^ 63) j).map Int64.ofInt

/-- An array, each item of which has a shape. -/
def asList {α : Type} (item : Json → Shape α) : Json → Shape (List α)
  | .array items => items.mapM item
  | j => j.unlike "a sequence"

/-- A value of some shape, or `null`. -/
def asOption {α : Type} (some? : Json → Shape α) : Json → Shape (Option α)
  | .null => .ok none
  | j => (some? j).map some

/-- A value through a reader of texts. -/
def asParsed {α ε : Type} (parse : String → Except ε α) (fault : ε → ShapeError) (j : Json) :
    Shape α := do
  let s ← j.asText
  (parse s).mapError fault

/-! ### Structures -/

/-- The fields of a structure as they were written. -/
structure Members where
  /-- The names of all fields, in order. -/
  names : List String
  /-- The fields that are there. -/
  entries : List (String × Json)
  /-- The names of the fields that are there, in the order in which they are looked at. -/
  order : List String
  /-- What is said of a field that is not there. -/
  absent : String → ShapeError
  /-- What is said of items for which no field is left. -/
  excess : Option ShapeError

/-- The known members of an object.  Every name must be a proper text, also of members that are not
known, and no known one may be repeated. -/
def knownMembers (names : List String) :
    List (Option String × Json) → Shape (List (String × Json))
  | [] => .ok []
  | (none, _) :: _ => .error (.unexpected "string" "a field name")
  | (some name, value) :: members => do
      let rest ← knownMembers names members
      if name ∉ names then return rest
      if rest.any (·.1 == name) then throw (.repeated name)
      return (name, value) :: rest

/-- The fields of a structure with these names.  Those of an object are looked at in alphabetical
order, and those of an array in the order of the structure. -/
def members (wanted : String) (names : List String) : Json → Shape Members
  | .object members => do
      let entries ← knownMembers names members
      return {
        names, entries
        order := (entries.map (·.1)).mergeSort (· ≤ ·)
        absent := .missing
        excess := none }
  | .array items =>
      .ok {
        names
        entries := names.zip items
        order := names.take items.length
        absent := fun name => .tooFew (names.idxOf name) wanted names.length
        excess := if items.length ≤ names.length then none else some (.tooMany items.length) }
  | j => j.unlike wanted

/-- Report the first fault of a structure, given what is wrong with each of its fields: the fault of
the field that is looked at first, or else that there are too many items.  That a field is not there
is no fault of this sort. -/
def Members.settle (ms : Members) (faults : List (Option ShapeError)) : Shape Unit :=
  let faultOf? (name : String) := ((ms.names.zip faults).lookup name).join
  match ms.order.findSome? faultOf? <|> ms.excess with
  | some e => .error e
  | none => .ok ()

theorem Members.settle_eq_ok {ms : Members} {faults : List (Option ShapeError)}
    (hf : ∀ fault ∈ faults, fault = none) (hx : ms.excess = none) :
    ms.settle faults = .ok () := by
  have hnone : ∀ name ∈ ms.order, ((ms.names.zip faults).lookup name).join = none := by
    intro name _
    cases hl : (ms.names.zip faults).lookup name with
    | none => rfl
    | some fault =>
        obtain ⟨l₁, l₂, h, -⟩ := List.lookup_eq_some_iff.1 hl
        have hmem : (name, fault) ∈ ms.names.zip faults := by simp [h]
        rw [hf fault (List.of_mem_zip hmem).2, Option.join_some]
  simp only [settle, List.findSome?_eq_none_iff.2 hnone, hx]
  rfl

/-- The fields of a structure, where it does not matter which fault is reported. -/
def fields (wanted : String) (names : List String) (j : Json) : Shape Members := do
  let ms ← j.members wanted names
  ms.settle []
  return ms

/-- A field that must be there. -/
def required {α : Type} (ms : Members) (name : String) (shape : Json → Shape α) : Shape α :=
  match ms.entries.lookup name with
  | some value => shape value
  | none => .error (ms.absent name)

/-- A field that counts as `default` where it is not there. -/
def optional {α : Type} (ms : Members) (name : String) (default : α) (shape : Json → Shape α) :
    Shape α :=
  match ms.entries.lookup name with
  | some value => shape value
  | none => .ok default

end Json

end AssetMarket
