/-
**The tokens of a JSON text.**

A text is first cut into tokens: punctuation, texts, and the words and numbers that are values of
their own.  One character is taken at a time, and a word or number ends where a character comes
that cannot belong to it.

Main definitions:

* `Json.Token` — punctuation or a value without parts;
* `Json.number?` — the value of a numeral, if it follows the grammar;
* `Json.assemble?` — the text of a sequence of code units;
* `Json.Scanner` — where the cutting stands, with `Json.Scanner.step` for one character;
* `Json.tokens?` — the tokens of a text.
-/

import AssetMarket.Json

set_option relaxedAutoImplicit false
set_option autoImplicit false

namespace AssetMarket

namespace Json

/-- A token. -/
inductive Token where
  | openBracket
  | closeBracket
  | openBrace
  | closeBrace
  | comma
  | colon
  /-- A text, or nothing for a broken one. -/
  | text (s : Option String)
  /-- A word or a number. -/
  | scalar (value : Json)

/-! ### Numbers -/

/-- The number that decimal digits denote. -/
def decimalValue (cs : List Char) : Nat :=
  cs.foldl (fun n c => n * 10 + (Text.digit? 10 c).getD 0) 0

/-- The exponent that a sign and digits denote. -/
def exponentValue? : List Char → Option Int
  | '+' :: cs => if cs.isEmpty || !cs.all Text.isDecimal then none else some (decimalValue cs)
  | '-' :: cs => if cs.isEmpty || !cs.all Text.isDecimal then none else some (-decimalValue cs)
  | cs => if cs.isEmpty || !cs.all Text.isDecimal then none else some (decimalValue cs)

/-- A numeral of digits alone.  Minus zero is no integer, nor is a number of more than 64 bits. -/
def wholeNumber (negative : Bool) (digits : List Char) : Json :=
  let n := decimalValue digits
  if !negative && n < 2 ^ 64 then .int n
  else if negative && 0 < n && n ≤ 2 ^ 63 then .int (-n)
  else .decimal (Decimal.ofDigits negative digits [] 0)

/-- A numeral with a point or an exponent, from its parts. -/
def decimalNumber? (negative : Bool) (whole : List Char) (fraction : Option (List Char))
    (exponent : Option (List Char)) : Option Json := do
  let places := fraction.getD []
  guard (places.all Text.isDecimal && (fraction.isNone || !places.isEmpty))
  let power ← exponent.elim (some 0) exponentValue?
  return .decimal (Decimal.ofDigits negative whole places power)

/-- A numeral cut at its exponent mark, if it has one. -/
def splitExponent (cs : List Char) : List Char × Option (List Char) :=
  let (front, back) := cs.span fun c => c ≠ 'e' && c ≠ 'E'
  (front, back.tail?)

/-- A numeral cut at its point, if it has one. -/
def splitFraction (cs : List Char) : List Char × Option (List Char) :=
  let (front, back) := cs.span (· ≠ '.')
  (front, back.tail?)

/-- Whether digits are a whole part: at least one, and no zero in front of others. -/
def isWholePart (cs : List Char) : Bool :=
  cs.all Text.isDecimal && match cs with
    | [] => false
    | ['0'] => true
    | c :: _ => c ≠ '0'

/-- A numeral without its sign. -/
def unsignedNumber? (negative : Bool) (cs : List Char) : Option Json := do
  let (front, exponent) := splitExponent cs
  let (whole, fraction) := splitFraction front
  guard (isWholePart whole)
  if fraction.isNone && exponent.isNone then return wholeNumber negative whole
  else decimalNumber? negative whole fraction exponent

/-- The value of a numeral, if it follows the grammar. -/
def number? : List Char → Option Json
  | '-' :: cs => unsignedNumber? true cs
  | cs => unsignedNumber? false cs

/-- The value of a word. -/
def word? (cs : List Char) : Option Json :=
  if cs = "null".toList then some .null
  else if cs = "true".toList then some (.bool true)
  else if cs = "false".toList then some (.bool false)
  else none

/-! ### Texts -/

/-- Whether a code unit is the first half of a surrogate pair. -/
def isHighHalf (u : Nat) : Bool := 0xD800 ≤ u && u < 0xDC00

/-- Whether a code unit is the second half of a surrogate pair. -/
def isLowHalf (u : Nat) : Bool := 0xDC00 ≤ u && u < 0xE000

/-- The character of a surrogate pair. -/
def joinHalves (high low : Nat) : Char :=
  Char.ofNat (0x10000 + (high - 0xD800) * 0x400 + (low - 0xDC00))

/-- The characters of code points and surrogate halves, or nothing where a half stands alone. -/
def assemble? : List Nat → Option (List Char)
  | [] => some []
  | u :: us =>
      if isLowHalf u then none
      else if isHighHalf u then
        match us with
        | v :: us => if isLowHalf v then (assemble? us).map (joinHalves u v :: ·) else none
        | [] => none
      else (assemble? us).map (Char.ofNat u :: ·)

/-- The code point of an escape of one letter. -/
def shortEscape? : Char → Option Nat
  | '"' => some 0x22
  | '\\' => some 0x5C
  | '/' => some 0x2F
  | 'b' => some 0x08
  | 'f' => some 0x0C
  | 'n' => some 0x0A
  | 'r' => some 0x0D
  | 't' => some 0x09
  | _ => none

/-! ### Scanning -/

/-- What the scanner is inside of.  Characters and code units are kept newest first. -/
inductive Scanner.Mode where
  /-- Between two tokens. -/
  | between
  /-- Inside a word. -/
  | word (seen : List Char)
  /-- Inside a numeral. -/
  | number (seen : List Char)
  /-- Inside a text. -/
  | text (units : List Nat)
  /-- Inside a text, after a backslash. -/
  | escape (units : List Nat)
  /-- Inside an escape by number, with `left` digits to come. -/
  | numbered (units : List Nat) (value left : Nat)

/-- Where the cutting stands: what the scanner is inside of, and the tokens so far, newest first. -/
structure Scanner where
  mode : Scanner.Mode
  done : List Token

namespace Scanner

/-- The scanner before the first character. -/
def start : Scanner := ⟨.between, []⟩

/-- Whether a character is a blank of JSON. -/
def isSpace (c : Char) : Bool := c = ' ' || c = '\t' || c = '\n' || c = '\r'

/-- Whether a character can belong to a numeral after its first one. -/
def isNumberPart (c : Char) : Bool :=
  Text.isDecimal c || c = '+' || c = '-' || c = '.' || c = 'e' || c = 'E'

/-- The token of a punctuation character. -/
def punctuation? : Char → Option Token
  | '[' => some .openBracket
  | ']' => some .closeBracket
  | '{' => some .openBrace
  | '}' => some .closeBrace
  | ',' => some .comma
  | ':' => some .colon
  | _ => none

/-- A character between two tokens. -/
def stepBetween (done : List Token) (c : Char) : Option Scanner :=
  if isSpace c then some ⟨.between, done⟩
  else if c = '"' then some ⟨.text [], done⟩
  else if c = '-' || Text.isDecimal c then some ⟨.number [c], done⟩
  else if c.isAlpha then some ⟨.word [c], done⟩
  else (punctuation? c).map fun token => ⟨.between, token :: done⟩

/-- The tokens when a word or numeral that is open ends here; a text that is open has no end. -/
def close? (s : Scanner) : Option (List Token) :=
  match s.mode with
  | .between => some s.done
  | .word seen => (word? seen.reverse).map fun value => .scalar value :: s.done
  | .number seen => (number? seen.reverse).map fun value => .scalar value :: s.done
  | _ => none

/-- One character. -/
def step (s : Scanner) (c : Char) : Option Scanner :=
  match s.mode with
  | .between => stepBetween s.done c
  | .word seen =>
      if c.isAlpha then some ⟨.word (c :: seen), s.done⟩
      else s.close?.bind fun done => stepBetween done c
  | .number seen =>
      if isNumberPart c then some ⟨.number (c :: seen), s.done⟩
      else s.close?.bind fun done => stepBetween done c
  | .text units =>
      if c = '"' then
        some ⟨.between, .text ((assemble? units.reverse).map String.ofList) :: s.done⟩
      else if c = '\\' then some ⟨.escape units, s.done⟩
      else if c.toNat < 0x20 then none
      else some ⟨.text (c.toNat :: units), s.done⟩
  | .escape units =>
      if c = 'u' then some ⟨.numbered units 0 4, s.done⟩
      else (shortEscape? c).map fun unit => ⟨.text (unit :: units), s.done⟩
  | .numbered units value left =>
      match Text.digit? 16 c with
      | none => none
      | some d =>
          if left = 1 then some ⟨.text ((value * 16 + d) :: units), s.done⟩
          else some ⟨.numbered units (value * 16 + d) (left - 1), s.done⟩

/-- All characters of a text. -/
def run : Scanner → List Char → Option Scanner
  | s, [] => some s
  | s, c :: cs =>
      match s.step c with
      | some s' => run s' cs
      | none => none

end Scanner

/-- The tokens of a text. -/
def tokens? (cs : List Char) : Option (List Token) :=
  (Scanner.start.run cs).bind fun s => s.close?.map List.reverse

end Json

end AssetMarket
