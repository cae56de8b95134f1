/-
**Numbers of double precision as text.**

A number is written with as few digits as tell it apart from all other ones, and with those that
come nearest to it.  The numbers that round to it form an interval, which has its ends if the last
bit of the mantissa is zero.  The coarsest power of ten with a multiple in that interval gives the
fewest digits.

Numbers from `10 ^ -5` up to, and not including, `10 ^ 16` are written with a point, all others
with one digit before the point and a power of ten, whose sign is always there.

Main definitions:

* `Double.roundsTo` — whether a quotient lies in the interval of a number;
* `Double.shortest` — the fewest digits, with their power of ten;
* `Double.layOut` — digits and a power of ten as text;
* `Double.chars` — a number as text.

Main results:

* `Double.roundsTo_of_multiple?` — the digits that are chosen lie in the interval.
-/

import AssetMarket.Double

set_option relaxedAutoImplicit false
set_option autoImplicit false

namespace AssetMarket

namespace Double

/-! ### The fewest digits -/

/-- The lower end of the interval of a number, in quarters of its last place.  Below a power of two
the neighbour is only half as far away. -/
def lowerEnd (x : Double) : Nat :=
  if x.mantissa = 2 ^ 52 ∧ -1074 < x.exponent then 4 * x.mantissa - 1 else 4 * x.mantissa - 2

/-- The upper end of the interval of a number, in quarters of its last place. -/
def upperEnd (x : Double) : Nat := 4 * x.mantissa + 2

/-- Whether a quotient lies in the interval of a number. -/
def roundsTo (x : Double) (n d : Nat) : Bool :=
  let quarters := n * 2 ^ (2 - x.exponent).toNat
  let quarter := d * 2 ^ (x.exponent - 2).toNat
  if x.mantissa % 2 = 0 then
    x.lowerEnd * quarter ≤ quarters && quarters ≤ x.upperEnd * quarter
  else x.lowerEnd * quarter < quarters && quarters < x.upperEnd * quarter

/-- The multiple of a power of ten that lies in the interval of a number and is nearest to it.  If
any multiple lies there, one of the two beside the number does. -/
def multiple? (x : Double) (power : Int) : Option Nat :=
  let n := x.mantissa * 2 ^ x.exponent.toNat * 10 ^ (-power).toNat
  let d := 2 ^ (-x.exponent).toNat * 10 ^ power.toNat
  let lies (c : Nat) : Bool := x.roundsTo (c * 10 ^ power.toNat) (10 ^ (-power).toNat)
  [roundQuotient n d, n / d, n / d + 1].find? lies

theorem roundsTo_of_multiple? {x : Double} {power : Int} {c : Nat}
    (h : x.multiple? power = some c) :
    x.roundsTo (c * 10 ^ power.toNat) (10 ^ (-power).toNat) = true :=
  List.find?_some (p := fun c => x.roundsTo (c * 10 ^ power.toNat) (10 ^ (-power).toNat)) h

/-- The powers of ten from the largest one below a number down to one that is finer than the
distance of any two numbers. -/
def powers : List Int := (List.range 633).map fun (i : Nat) => 308 - i

/-- The fewest digits of a number that tell it apart, as a whole number, with their power of ten. -/
def shortest (x : Double) : Nat × Int :=
  if x.mantissa = 0 then (0, 0)
  else (powers.findSome? fun power => (x.multiple? power).map (·, power)).getD (0, 0)

/-! ### Their layout -/

/-- A power of ten behind digits, with its sign. -/
def exponentChars (power : Int) : List Char :=
  'e' :: (if power < 0 then '-' else '+') :: (toString power.natAbs).toList

/-- Digits times a power of ten as text. -/
def layOut (digits : List Char) (power : Int) : List Char :=
  let point : Int := digits.length + power
  if 0 ≤ power ∧ point ≤ 16 then digits ++ List.replicate power.toNat '0' ++ ['.', '0']
  else if 0 < point ∧ point ≤ 16 then
    digits.take point.toNat ++ '.' :: digits.drop point.toNat
  else if -5 < point ∧ point ≤ 0 then
    '0' :: '.' :: (List.replicate (-point).toNat '0' ++ digits)
  else
    let more := digits.drop 1
    digits.take 1 ++ (if more.isEmpty then [] else '.' :: more) ++ exponentChars (point - 1)

/-- A number as text. -/
def chars (x : Double) : List Char :=
  let (digits, power) := x.shortest
  layOut (toString digits).toList power

end Double

end AssetMarket
