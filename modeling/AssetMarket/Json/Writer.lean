/-
**Writing JSON.**

There are two forms.  The compact one has no blanks at all; the spread one has a line for each
item and member, with two blanks for each level and nothing between the brackets of an empty
container.  Only the characters that JSON cannot hold as they are are escaped, so other alphabets
stay readable.

Main definitions:

* `Json.quote` — a text between quotation marks;
* `Json.compact`, `Json.spread` — the two forms.
-/

import AssetMarket.Json
import AssetMarket.Text.Hex

set_option relaxedAutoImplicit false
set_option autoImplicit false

namespace AssetMarket

namespace Json

/-! ### Texts -/

/-- What stands for a character inside quotation marks. -/
def escape (c : Char) : List Char :=
  if c = '"' then ['\\', '"']
  else if c = '\\' then ['\\', '\\']
  else if c = '\x08' then ['\\', 'b']
  else if c = '\x0C' then ['\\', 'f']
  else if c = '\n' then ['\\', 'n']
  else if c = '\r' then ['\\', 'r']
  else if c = '\t' then ['\\', 't']
  else if c.toNat < 0x20 then
    ['\\', 'u', '0', '0', Hex.digit (c.toNat / 16), Hex.digit (c.toNat % 16)]
  else [c]

/-- A text between quotation marks. -/
def quoteChars (cs : List Char) : List Char := '"' :: (cs.flatMap escape ++ ['"'])

/-- A text that may be broken; a broken one is never written and has an empty form. -/
def quote (s : Option String) : List Char := quoteChars (s.getD "").toList

/-- The digits of an integer, with a minus sign in front of a negative one. -/
def intChars (z : Int) : List Char := (toString z).toList

/-! ### The compact form -/

mutual

/-- A value without blanks.  A number that is no integer is never written and becomes `null`. -/
def compactChars : Json → List Char
  | .null => "null".toList
  | .bool true => "true".toList
  | .bool false => "false".toList
  | .int z => intChars z
  | .decimal _ => "null".toList
  | .text s => quote s
  | .array items => '[' :: (compactItems items ++ [']'])
  | .object members => '{' :: (compactMembers members ++ ['}'])

/-- Items with commas between them. -/
def compactItems : List Json → List Char
  | [] => []
  | [item] => compactChars item
  | item :: items => compactChars item ++ ',' :: compactItems items

/-- Members with commas between them. -/
def compactMembers : List (Option String × Json) → List Char
  | [] => []
  | [member] => compactMember member
  | member :: members => compactMember member ++ ',' :: compactMembers members

/-- A name and its value with a colon between them. -/
def compactMember : Option String × Json → List Char
  | (name, value) => quote name ++ ':' :: compactChars value

end

/-- A value as text without blanks. -/
def compact (j : Json) : String := String.ofList (compactChars j)

/-! ### The spread form -/

/-- The start of a line at some level. -/
def newLine (level : Nat) : List Char := '\n' :: List.replicate (2 * level) ' '

mutual

/-- A value with a line for each item and member; `level` is that of the line it begins on. -/
def spreadChars (level : Nat) : Json → List Char
  | .array [] => "[]".toList
  | .object [] => ['{', '}']
  | .array items => '[' :: (spreadItems (level + 1) items ++ newLine level ++ [']'])
  | .object members => '{' :: (spreadMembers (level + 1) members ++ newLine level ++ ['}'])
  | .null => "null".toList
  | .bool true => "true".toList
  | .bool false => "false".toList
  | .int z => intChars z
  | .decimal _ => "null".toList
  | .text s => quote s

/-- Items on lines of their own. -/
def spreadItems (level : Nat) : List Json → List Char
  | [] => []
  | [item] => newLine level ++ spreadChars level item
  | item :: items => newLine level ++ spreadChars level item ++ ',' :: spreadItems level items

/-- Members on lines of their own. -/
def spreadMembers (level : Nat) : List (Option String × Json) → List Char
  | [] => []
  | [member] => newLine level ++ spreadMember level member
  | member :: members =>
      newLine level ++ spreadMember level member ++ ',' :: spreadMembers level members

/-- A name and its value with a colon and a blank between them. -/
def spreadMember (level : Nat) : Option String × Json → List Char
  | (name, value) => quote name ++ ':' :: ' ' :: spreadChars level value

end

/-- A value as text with a line for each item and member. -/
def spread (j : Json) : String := String.ofList (spreadChars 0 j)

end Json

end AssetMarket
