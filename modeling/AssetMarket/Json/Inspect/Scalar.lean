/-
**The way through words, numbers and texts.**

A value is either read or passed over.  One that is passed over may hold broken texts and numbers
out of range, since nobody looks at them, but it has to follow the grammar all the same.

Main definitions:

* `Json.Care` — whether a value is read or passed over;
* `Json.Inspect.word`, `Json.Inspect.number`, `Json.Inspect.text` — the ways through each;
* `Json.Inspect.scalar` — the way through any value without parts.
-/

import AssetMarket.Json.Inspect

set_option relaxedAutoImplicit false
set_option autoImplicit false

namespace AssetMarket

namespace Json

/-- Whether a value is read, with room for some containers inside one another, or passed over. -/
inductive Care where
  | reading (levels : Nat)
  | passing
  deriving DecidableEq, Repr

namespace Care

/-- Whether a value is read. -/
def isReading : Care → Bool
  | .reading _ => true
  | .passing => false

/-- The fault of a numeral at the end of the text. -/
def cutNumber : Care → GrammarError
  | .reading _ => .openValue
  | .passing => .badNumber

end Care

namespace Inspect

/-! ### Words -/

/-- The way through a word. -/
def word : List Char → Inspect Unit
  | [] => pure ()
  | letter :: letters => do
      match ← peek? with
      | none => failHere .openValue
      | some c => if c = letter then eat else failAhead .badWord
      word letters

/-! ### Numbers -/

/-- The way through digits, of which there is one at least. -/
def someDigits (care : Care) : Inspect (List Char) := do
  let digits ← eatWhile Text.isDecimal
  if digits.isEmpty then
    if (← peek?).isNone then failHere care.cutNumber
    failAhead .badNumber
  return digits

/-- The way through the digits before the point, where no zero stands in front of others. -/
def wholePart (care : Care) : Inspect Unit := do
  if (← peek?) = some '0' then
    eat
    if (← peek?).any Text.isDecimal then failAhead .badNumber
  else discard (someDigits care)

/-- The way through the digits after the point, if there is one. -/
def fractionPart (care : Care) : Inspect Unit := do
  if (← peek?) = some '.' then
    eat
    discard (someDigits care)

/-- How many digits of an exponent are passed until it has left 32 bits, if it does. -/
def overlong? (digits : List Char) : Option Nat :=
  (List.range (digits.length + 1)).find? fun count => 2 ^ 31 ≤ decimalValue (digits.take count)

/-- The way through an exponent, if there is one, and the place where it has left 32 bits. -/
def exponentPart (care : Care) : Inspect (Option Spot) := do
  let mark ← peek?
  if mark = some 'e' ∨ mark = some 'E' then
    eat
    let sign ← peek?
    if sign = some '+' ∨ sign = some '-' then eat
    let start := (← get).spot
    let digits ← someDigits care
    return (overlong? digits).map fun count => ⟨start.line, start.column + count⟩
  else return none

/-- Whether a numeral denotes a number that is finite in double precision. -/
def isFinite (numeral : List Char) : Bool :=
  match number? numeral with
  | some j => j.isSound 0
  | none => true

/-- The way through a number.  One that is read must be finite, and where its exponent is too large
for any number, that is noticed before its end. -/
def number (care : Care) : Inspect Unit := do
  let before ← get
  if (← peek?) = some '-' then eat
  wholePart care
  fractionPart care
  let overlong ← exponentPart care
  let after ← get
  if care.isReading ∧ !isFinite (before.upTo after) then failAt (overlong.getD after.spot) .overflow

/-! ### Texts -/

/-- The way through four hexadecimal digits, and the code unit that they denote.  Four bytes are
taken at once, whatever they are. -/
def codeUnit : Inspect Nat := do
  let c ← get
  let digits := c.rest.take 4
  if (digits.map Char.utf8Size).sum < 4 then failAt (c.rest.foldl Spot.past c.spot) .openText
  match digits.mapM (Text.digit? 16) with
  | some values =>
      set (digits.foldl (fun c _ => c.next) c)
      return values.foldl (fun n d => n * 16 + d) 0
  | none => failAt (c.spot.pastBytes 4 c.rest) .badEscape

/-- The way through one of the two characters that must follow the first half of a pair. -/
def pairMark (mark : Char) : Inspect Unit := do
  match ← peek? with
  | none => failHere .openText
  | some c => if c = mark then eat else failAhead .cutPair

/-- The way through an escape by number, behind its `u`.  Where the text is read, halves of surrogate
pairs must come in pairs. -/
def numberedEscape (care : Care) : Inspect Unit := do
  let unit ← codeUnit
  if care.isReading then
    if isLowHalf unit then failHere .loneHalf
    if isHighHalf unit then
      pairMark '\\'
      pairMark 'u'
      if !isLowHalf (← codeUnit) then failHere .loneHalf

/-- The way through an escape, behind its backslash. -/
def escape (care : Care) : Inspect Unit := do
  match ← peek? with
  | none => failHere .openText
  | some c =>
      if c = 'u' then
        eat
        numberedEscape care
      else if (shortEscape? c).isSome then eat
      else failAhead .badEscape

/-- The way through a text, behind its first quotation mark, in so many steps. -/
def textBody (care : Care) : Nat → Inspect Unit
  | 0 => pure ()
  | steps + 1 => do
      match ← peek? with
      | none => failHere .openText
      | some c =>
          if c = '"' then eat
          else if c = '\\' then
            eat
            escape care
            textBody care steps
          else if c.toNat < 0x20 then
            if care.isReading then failAhead .control else failHere .control
          else
            eat
            textBody care steps

/-- The way through a text. -/
def text (care : Care) : Inspect Unit := do
  eat
  textBody care (← enough)

/-! ### All of them -/

/-- The way through a value without parts. -/
def scalar (care : Care) : Inspect Unit := do
  match ← nextOr .openValue with
  | 'n' => word "null".toList
  | 't' => word "true".toList
  | 'f' => word "false".toList
  | '"' => text care
  | c => if c = '-' ∨ Text.isDecimal c then number care else failAhead .noValue

end Inspect

end Json

end AssetMarket
