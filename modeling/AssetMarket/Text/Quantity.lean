/-
**Amounts, counts, durations and switches as people write them.**

An amount of money is a decimal number of whole coins with up to nine places, or an integer
followed by the word for the smallest unit; a duration is an integer with the letter of its unit;
a switch is one of three words for each position.  Every complaint shows the text it is about.

Main definitions:

* `Quantity.amount` — money, in the smallest unit;
* `Quantity.count` — a plain unsigned integer;
* `Quantity.duration` — seconds;
* `Quantity.switch` — a truth value;
* `Quantity.Error` — why a text is none of these.

Main results:

* `Quantity.wholeCoin_eq` — a coin has as many of the smallest unit as nine places can tell apart.
-/

import AssetMarket.Text.Blank
import AssetMarket.Text.Numeral

set_option relaxedAutoImplicit false
set_option autoImplicit false

namespace AssetMarket

namespace Quantity

/-- Why a text is not the quantity wanted.  Each cause keeps the text it shows. -/
inductive Error where
  /-- An amount without any digit. -/
  | emptyAmount
  /-- An amount with too many places. -/
  | tooPrecise (text : String)
  /-- The number before the unit word is not a numeral. -/
  | badUnits (text : String) (cause : NumeralError)
  /-- A part of a decimal amount is not a numeral. -/
  | badAmount (text : String) (cause : NumeralError)
  /-- An amount beyond 64 bits. -/
  | amountOverflow (text : String)
  /-- A count that is not a numeral. -/
  | badCount (text : String) (cause : NumeralError)
  /-- The number of a duration is not a numeral. -/
  | badDuration (text : String) (cause : NumeralError)
  /-- A letter that stands for no unit of time. -/
  | unknownUnit (letter : Char) (text : String)
  /-- A duration below zero. -/
  | negativeDuration (text : String)
  /-- A duration beyond 63 bits. -/
  | durationOverflow (text : String)
  /-- A word that is neither position of a switch. -/
  | badSwitch (text : String)
  deriving DecidableEq, Repr

/-- The wording of each cause. -/
def Error.message : Error → String
  | .emptyAmount => "Empty amount"
  | .tooPrecise text => "Amount '" ++ text ++ "' has more than 9 decimal places"
  | .badUnits text cause => "Invalid lamports '" ++ text ++ "': " ++ cause.message
  | .badAmount text cause => "Invalid amount '" ++ text ++ "': " ++ cause.message
  | .amountOverflow text => "Amount '" ++ text ++ "' overflows u64 lamports"
  | .badCount text cause => "Invalid u64 '" ++ text ++ "': " ++ cause.message
  | .badDuration text cause => "Invalid duration '" ++ text ++ "': " ++ cause.message
  | .unknownUnit letter text =>
      "Unknown duration unit '" ++ letter.toString ++ "' in '" ++ text ++ "'"
  | .negativeDuration text => "Duration '" ++ text ++ "' is negative"
  | .durationOverflow text => "Duration '" ++ text ++ "' overflows"
  | .badSwitch text => "Invalid bool '" ++ text ++ "': expected true/false"

/-! ### Money -/

/-- The most places of an amount. -/
def places : Nat := 9

/-- How many of the smallest unit make a coin. -/
def wholeCoin : Nat := 1000000000

theorem wholeCoin_eq : wholeCoin = 10 ^ places := rfl

/-- The word for the smallest unit. -/
def unitWord : List Char := "lamports".toList

/-- A text without a word at its end, or nothing where it does not end in it. -/
def withoutEnding? (word cs : List Char) : Option (List Char) :=
  if word.isSuffixOf cs then some (cs.take (cs.length - word.length)) else none

/-- A text up to its first decimal point, and what follows the point. -/
def splitAtPoint (cs : List Char) : List Char × List Char :=
  (cs.takeWhile (· ≠ '.'), (cs.dropWhile (· ≠ '.')).drop 1)

/-- One part of a decimal amount; a part that is not there counts as zero. -/
def part (text : String) (cs : List Char) : Except Error Nat :=
  if cs.isEmpty then .ok 0
  else (Text.natural 10 (2 ^ 64) cs).mapError (.badAmount text)

/-- The places of an amount, filled up with zeros to the full number of places. -/
def fillPlaces (cs : List Char) : List Char :=
  if cs.isEmpty then [] else cs ++ List.replicate (places - cs.length) '0'

/-- An amount in coins, of which the text is already trimmed. -/
def decimalAmount (cs : List Char) : Except Error UInt64 := do
  let text := String.ofList cs
  let (whole, fraction) := splitAtPoint cs
  if whole.isEmpty && fraction.isEmpty then throw .emptyAmount
  if Text.utf8Length fraction > places then throw (.tooPrecise text)
  let coins ← part text whole
  let rest ← part text (fillPlaces fraction)
  let total := coins * wholeCoin + rest
  if total < 2 ^ 64 then return UInt64.ofNat total else throw (.amountOverflow text)

/-- An amount of money: coins with up to nine places, or an integer and the unit word. -/
def amount (s : String) : Except Error UInt64 :=
  let cs := Text.trim s.toList
  match withoutEnding? unitWord cs with
  | some units => (Text.u64 (Text.trim units)).mapError (.badUnits (String.ofList cs))
  | none => decimalAmount cs

/-! ### Counts -/

/-- A plain unsigned integer. -/
def count (s : String) : Except Error UInt64 :=
  (Text.u64 (Text.trim s.toList)).mapError (.badCount s)

/-! ### Durations -/

/-- The seconds of a unit of time. -/
def unitSeconds? : Char → Option Nat
  | 's' => some 1
  | 'm' => some 60
  | 'h' => some 3600
  | 'd' => some 86400
  | _ => none

/-- A text without the letter at its end, and the letter; seconds where no letter stands there. -/
def splitUnit (cs : List Char) : List Char × Char :=
  match cs.getLast? with
  | some c => if c.isAlpha then (cs.dropLast, c) else (cs, 's')
  | none => (cs, 's')

/-- A duration in seconds: an integer and the letter of a unit, seconds if there is none. -/
def duration (s : String) : Except Error Int64 := do
  let cs := Text.trim s.toList
  let text := String.ofList cs
  let (number, letter) := splitUnit cs
  let n ← (Text.integer 10 (2 ^ 63) number).mapError (.badDuration text)
  let scale ← (unitSeconds? letter).elim (throw (.unknownUnit letter text)) pure
  if n < 0 then throw (.negativeDuration text)
  let total := n * scale
  if total < 2 ^ 63 then return Int64.ofInt total else throw (.durationOverflow text)

/-! ### Switches -/

/-- The position of a switch. -/
def switch (s : String) : Except Error Bool :=
  if s ∈ ["true", "1", "yes"] then .ok true
  else if s ∈ ["false", "0", "no"] then .ok false
  else .error (.badSwitch s)

end Quantity

end AssetMarket
