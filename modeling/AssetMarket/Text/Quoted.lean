/-
**Quoted characters and texts.**

Complaints show the character they are about between single quotes, and a text between double
ones.  What cannot stand there as itself is written as an escape: the quote and the backslash, the
usual three blanks, the null character, and by its number every other character that cannot be seen
by itself.

Main definitions:

* `Text.quoteChar`, `Text.quoteText` — a character and a text in quotes.
-/

import AssetMarket.Text.Radix
import AssetMarket.Text.Hex
import AssetMarket.Text.Unseen

set_option relaxedAutoImplicit false
set_option autoImplicit false

namespace AssetMarket

namespace Text

/-- The number of a character as an escape, `\u` and the hexadecimal digits in braces. -/
def numberedEscape (c : Char) : List Char :=
  ['\\', 'u', '{'] ++ (Radix.digits 16 c.toNat).reverse.map Hex.digit ++ ['}']

/-- What stands for a character between two quotes of a kind. -/
def escapeChar (quote c : Char) : List Char :=
  if c = '\x00' then ['\\', '0']
  else if c = '\t' then ['\\', 't']
  else if c = '\n' then ['\\', 'n']
  else if c = '\r' then ['\\', 'r']
  else if c = quote then ['\\', quote]
  else if c = '\\' then ['\\', '\\']
  else if c.toNat < 0x20 ∨ isUnseen c then numberedEscape c
  else [c]

/-- A character in single quotes. -/
def quoteChar (c : Char) : String := String.ofList (['\''] ++ escapeChar '\'' c ++ ['\''])

/-- A text in double quotes. -/
def quoteText (s : String) : String :=
  String.ofList (['"'] ++ s.toList.flatMap (escapeChar '"') ++ ['"'])

end Text

end AssetMarket
