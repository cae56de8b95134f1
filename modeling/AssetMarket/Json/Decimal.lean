/-
**Numbers as they are written.**

A number with a point, with an exponent, or with more digits than fit into 64 bits is worked out in
double precision: a whole number times a power of ten, where both are rounded first and their
product last.

Digits are taken into the whole number from the left as long as it fits into 64 bits.  A digit
before the point that is left out makes the power of ten larger, and one after the point is lost;
the digits after the point start anew, so one of them may fit where one before it did not.

Main definitions:

* `Json.Decimal`, `Json.Decimal.ofDigits` — a whole number and a power of ten, from digits;
* `Json.Decimal.magnitude?`, `Json.Decimal.isInRange` — the number in double precision, and whether
  it is finite there;
* `Json.Decimal.text` — the number as double precision shows it.
-/

import AssetMarket.Double.Text
import AssetMarket.Text.Numeral

set_option relaxedAutoImplicit false
set_option autoImplicit false

namespace AssetMarket

namespace Json

/-! ### Numbers as written -/

/-- A whole number times a power of ten, with a sign. -/
structure Decimal where
  negative : Bool
  significand : Nat
  exponent : Int
  deriving DecidableEq, Repr

/-- Continue a number with digits as long as it fits into 64 bits, and the digits that are left. -/
def appendDigits (n : Nat) : List Char → Nat × List Char
  | [] => (n, [])
  | c :: cs =>
      let next := n * 10 + (Text.digit? 10 c).getD 0
      if next < 2 ^ 64 then appendDigits next cs else (n, c :: cs)

namespace Decimal

/-- The number with this sign and these digits before and after the point, times a power of ten. -/
def ofDigits (negative : Bool) (whole places : List Char) (power : Int) : Decimal :=
  let (front, beyond) := appendDigits 0 whole
  let (significand, lost) := appendDigits front places
  ⟨negative, significand, power + beyond.length - places.length + lost.length⟩

/-- The number in double precision without its sign, if it is finite there. -/
def magnitude? (d : Decimal) : Option Double :=
  (Double.ofNat? d.significand).bind fun x => x.timesTen? d.exponent

/-- Whether the number is finite in double precision.  Powers of ten end at `10 ^ 308`; a number
that needs a larger one is infinite, even where the whole number would make up for it. -/
def isInRange (d : Decimal) : Bool := d.magnitude?.isSome

/-- The number as double precision shows it.  One that is not finite is never shown. -/
def text (d : Decimal) : String :=
  let digits := d.magnitude?.elim [] Double.chars
  String.ofList (if d.negative then '-' :: digits else digits)

end Decimal

end Json

end AssetMarket
