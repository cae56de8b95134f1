/-
**What is wrong with a JSON text, and where.**

A text may break the grammar, or it may follow the grammar and have another shape than the one
wanted.  A fault is reported with the line, counted from one, and with the number of bytes of that
line up to where it was noticed.

Main definitions:

* `Json.GrammarError`, `Json.GrammarError.message` — how a text can break the grammar;
* `Json.Spot` — a place in a text, with `Json.Spot.past` for the place after a character;
* `Json.Fault`, `Json.Fault.message` — what is wrong, and where.
-/

import AssetMarket.Json.Shape

set_option relaxedAutoImplicit false
set_option autoImplicit false

namespace AssetMarket

namespace Json

/-- How a text breaks the grammar. -/
inductive GrammarError where
  /-- The text ends inside an array. -/
  | openList
  /-- The text ends inside an object. -/
  | openObject
  /-- The text ends inside quotation marks. -/
  | openText
  /-- The text ends where a value should stand. -/
  | openValue
  /-- Something other than a colon follows a name. -/
  | noColon
  /-- Neither a comma nor the end follows an item. -/
  | noListComma
  /-- Neither a comma nor the end follows a member. -/
  | noObjectComma
  /-- A word is none of the three known ones. -/
  | badWord
  /-- No value can begin like this. -/
  | noValue
  /-- A backslash begins no known escape. -/
  | badEscape
  /-- A numeral breaks off or has a zero in front. -/
  | badNumber
  /-- A number is infinite in double precision. -/
  | overflow
  /-- A control character stands inside quotation marks. -/
  | control
  /-- A member has no name. -/
  | noName
  /-- Half of a surrogate pair stands alone. -/
  | loneHalf
  /-- A comma stands before the end of a container. -/
  | trailingComma
  /-- More text follows. -/
  | trailingText
  /-- The second half of a surrogate pair is not even begun. -/
  | cutPair
  /-- Too many containers lie inside one another. -/
  | tooDeep
  deriving DecidableEq, Repr

/-- The wording of each cause. -/
def GrammarError.message : GrammarError → String
  | .openList => "EOF while parsing a list"
  | .openObject => "EOF while parsing an object"
  | .openText => "EOF while parsing a string"
  | .openValue => "EOF while parsing a value"
  | .noColon => "expected \x60:\x60"
  | .noListComma => "expected \x60,\x60 or \x60]\x60"
  | .noObjectComma => "expected \x60,\x60 or \x60\x7d\x60"
  | .badWord => "expected ident"
  | .noValue => "expected value"
  | .badEscape => "invalid escape"
  | .badNumber => "invalid number"
  | .overflow => "number out of range"
  | .control => "control character (\\u0000-\\u001F) found while parsing a string"
  | .noName => "key must be a string"
  | .loneHalf => "lone leading surrogate in hex escape"
  | .trailingComma => "trailing comma"
  | .trailingText => "trailing characters"
  | .cutPair => "unexpected end of hex escape"
  | .tooDeep => "recursion limit exceeded"

/-! ### Places -/

/-- A place in a text: the line, counted from one, and the bytes of that line in front of it. -/
structure Spot where
  line : Nat
  column : Nat
  deriving DecidableEq, Repr

namespace Spot

/-- The beginning of a text. -/
def start : Spot := ⟨1, 0⟩

/-- The place after some bytes of a character, at most all of them. -/
def pastBytesOf (s : Spot) (c : Char) (count : Nat) : Spot :=
  if c = '\n' then ⟨s.line + 1, 0⟩ else ⟨s.line, s.column + count⟩

/-- The place after a character. -/
def past (s : Spot) (c : Char) : Spot := s.pastBytesOf c c.utf8Size

/-- The place after so many bytes of a text, which may lie inside a character. -/
def pastBytes (s : Spot) : Nat → List Char → Spot
  | 0, _ => s
  | _, [] => s
  | count, c :: cs =>
      if c.utf8Size ≤ count then (s.past c).pastBytes (count - c.utf8Size) cs
      else s.pastBytesOf c count

end Spot

/-! ### Faults -/

/-- Why a text cannot be read. -/
inductive Cause where
  | grammar (e : GrammarError)
  | shape (e : ShapeError)
  deriving DecidableEq, Repr

/-- The wording of each cause. -/
def Cause.message : Cause → String
  | .grammar e => e.message
  | .shape e => e.message

/-- What is wrong, and where, once that is known. -/
structure Fault where
  cause : Cause
  spot : Option Spot
  deriving DecidableEq, Repr

/-- A fault in words. -/
def Fault.message (f : Fault) : String :=
  match f.spot with
  | some s => s!"{f.cause.message} at line {s.line} column {s.column}"
  | none => f.cause.message

end Json

end AssetMarket
