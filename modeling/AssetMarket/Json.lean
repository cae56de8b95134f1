/-
**JSON values.**

Snapshots, past transactions and the catalog are exchanged as JSON. A value keeps what was
written: members stay in order, and a name that is repeated stays repeated, because some readers
refuse that and others take the last one.

Texts can hold an escape for half of a surrogate pair.  No text has such a character, yet a value
that nobody looks at may hold it; so a text is an optional string here, and nothing stands for a
broken one.  Numbers other than integers of 64 bits are kept with their digits, since they may turn
out to be too large for double precision, and are never wanted.

Main definitions:

* `Json` — the values;
* `Json.str`, `Json.record` — texts and objects that are written;
* `Json.isSound` — whether a value is free of broken texts, of numbers out of range, and of deep
  nesting;
* `Json.lastOfEach` — the value in which the last member of each name stands for all;
* `Json.sorted` — the value with its members in alphabetical order.
-/

import AssetMarket.Json.Decimal

set_option relaxedAutoImplicit false
set_option autoImplicit false

namespace AssetMarket

/-- A JSON value as it was written. -/
inductive Json where
  | null
  | bool (b : Bool)
  /-- A number written without point and exponent that fits into 64 bits, with or without a sign,
  other than minus zero. -/
  | int (z : Int)
  /-- Any other number. -/
  | decimal (d : Json.Decimal)
  /-- A text, or nothing where it holds half of a surrogate pair. -/
  | text (s : Option String)
  | array (items : List Json)
  | object (members : List (Option String × Json))

namespace Json

/-- A text that is no broken one. -/
def str (s : String) : Json := .text (some s)

/-- An object with proper names. -/
def record (members : List (String × Json)) : Json :=
  .object (members.map fun (name, value) => (some name, value))

/-! ### Soundness -/

mutual

/-- Whether a value is sound with at most `levels` containers inside one another. -/
def isSound : Nat → Json → Bool
  | _, .null => true
  | _, .bool _ => true
  | _, .int _ => true
  | _, .decimal d => d.isInRange
  | _, .text s => s.isSome
  | 0, .array _ => false
  | 0, .object _ => false
  | levels + 1, .array items => areSound levels items
  | levels + 1, .object members => areSoundMembers levels members

/-- Whether all items are sound. -/
def areSound : Nat → List Json → Bool
  | _, [] => true
  | levels, item :: items => isSound levels item && areSound levels items

/-- Whether all members are sound, names included. -/
def areSoundMembers : Nat → List (Option String × Json) → Bool
  | _, [] => true
  | levels, member :: members => isSoundMember levels member && areSoundMembers levels members

/-- Whether a member is sound. -/
def isSoundMember : Nat → Option String × Json → Bool
  | levels, (name, value) => name.isSome && isSound levels value

end

/-! ### Repeated names -/

mutual

/-- The value in which the last member of each name stands for all of that name, inside as well. -/
def lastOfEach : Json → Json
  | .array items => .array (lastOfEachItem items)
  | .object members => .object (lastOfEachMember members)
  | j => j

/-- The same for the items of an array. -/
def lastOfEachItem : List Json → List Json
  | [] => []
  | item :: items => lastOfEach item :: lastOfEachItem items

/-- The same for the members of an object: a member stays if none after it has its name. -/
def lastOfEachMember : List (Option String × Json) → List (Option String × Json)
  | [] => []
  | member :: members =>
      if members.any (·.1 == member.1) then lastOfEachMember members
      else lastOfEachIn member :: lastOfEachMember members

/-- The same inside one member. -/
def lastOfEachIn : Option String × Json → Option String × Json
  | (name, value) => (name, lastOfEach value)

end

/-! ### Alphabetical order -/

/-- Whether a name comes before another, or is the same. -/
def nameLe (a b : Option String × Json) : Bool := a.1.getD "" ≤ b.1.getD ""

mutual

/-- The value with the members of all its objects in alphabetical order. -/
def sorted : Json → Json
  | .array items => .array (sortedItems items)
  | .object members => .object ((sortedMembers members).mergeSort nameLe)
  | j => j

/-- The same for the items of an array. -/
def sortedItems : List Json → List Json
  | [] => []
  | item :: items => sorted item :: sortedItems items

/-- The same inside the members of an object. -/
def sortedMembers : List (Option String × Json) → List (Option String × Json)
  | [] => []
  | member :: members => sortedMember member :: sortedMembers members

/-- The same inside one member. -/
def sortedMember : Option String × Json → Option String × Json
  | (name, value) => (name, sorted value)

end

end Json

end AssetMarket
