/-
**Numbers of double precision.**

A finite number of double precision is, without its sign, a whole number of at most 53 bits times a
power of two.  Whatever lies between two of them is rounded to the nearer one, and halfway to the
one whose last bit is zero; what would need a larger power of two is infinite and no number here.

Main definitions:

* `roundQuotient` — the whole number nearest to a quotient;
* `Double` — the numbers, with `Double.ofQuotient?` for a quotient that is rounded;
* `Double.times?`, `Double.over?`, `Double.timesTen?` — products, quotients, and powers of ten.

Main results:

* `roundQuotient_near` — rounding moves a quotient by one half at most;
* `roundQuotient_mul_self` — what is a whole number stays as it is.
-/

import AssetMarket.Number

set_option relaxedAutoImplicit false
set_option autoImplicit false

namespace AssetMarket

/-! ### Rounding to a whole number -/

/-- The whole number nearest to a quotient; halfway between two of them, the even one. -/
def roundQuotient (n d : Nat) : Nat :=
  let twice := 2 * (n % d)
  if twice < d ∨ (twice = d ∧ n / d % 2 = 0) then n / d else n / d + 1

theorem roundQuotient_near {n d : Nat} (hd : 0 < d) :
    2 * (d * roundQuotient n d) ≤ 2 * n + d ∧ 2 * n ≤ 2 * (d * roundQuotient n d) + d := by
  have hcut := Nat.div_add_mod n d
  have hrest := Nat.mod_lt n hd
  simp only [roundQuotient]
  split
  · omega
  · rw [Nat.mul_add, Nat.mul_one]
    omega

theorem roundQuotient_mul_self (q : Nat) {d : Nat} (hd : 0 < d) :
    roundQuotient (q * d) d = q := by
  simp [roundQuotient, hd]

/-! ### The numbers -/

/-- A finite number of double precision without its sign: `mantissa` times two to the power of
`exponent`. -/
structure Double where
  mantissa : Nat
  exponent : Int
  mantissa_lt : mantissa < 2 ^ 53
  le_exponent : -1074 ≤ exponent
  exponent_le : exponent ≤ 971
  deriving DecidableEq, Repr

namespace Double

/-- The number with this mantissa and this exponent, if there is room for them. -/
def ofParts? (mantissa : Nat) (exponent : Int) : Option Double :=
  if h : mantissa < 2 ^ 53 ∧ -1074 ≤ exponent ∧ exponent ≤ 971 then
    some ⟨mantissa, exponent, h.1, h.2.1, h.2.2⟩
  else none

/-- Zero. -/
def zero : Double := ⟨0, -1074, by decide, by decide, by decide⟩

/-- The exponent at which a positive quotient has a mantissa of exactly 53 bits, or else the least
one.  The lengths of both numbers tell the power of two in their quotient, or one too many. -/
def exponentOf (n d : Nat) : Int :=
  let length : Int := n.log2 - d.log2
  let fits : Bool := d * 2 ^ length.toNat ≤ n * 2 ^ (-length).toNat
  max (-1074) ((if fits then length else length - 1) - 52)

/-- The number nearest to a quotient, if that is finite.  A mantissa that rounds up to 54 bits has a
one with zeros, so it loses nothing at the next exponent. -/
def ofQuotient? (n d : Nat) : Option Double :=
  if n = 0 then some zero
  else
    let exponent := exponentOf n d
    let mantissa := roundQuotient (n * 2 ^ (-exponent).toNat) (d * 2 ^ exponent.toNat)
    if mantissa < 2 ^ 53 then ofParts? mantissa exponent else ofParts? (2 ^ 52) (exponent + 1)

/-- The number nearest to a whole number, if that is finite. -/
def ofNat? (n : Nat) : Option Double := ofQuotient? n 1

/-- The number nearest to a product, if that is finite. -/
def times? (x y : Double) : Option Double :=
  let exponent := x.exponent + y.exponent
  ofQuotient? (x.mantissa * y.mantissa * 2 ^ exponent.toNat) (2 ^ (-exponent).toNat)

/-- The number nearest to a quotient, if that is finite. -/
def over? (x y : Double) : Option Double :=
  let exponent := x.exponent - y.exponent
  ofQuotient? (x.mantissa * 2 ^ exponent.toNat) (y.mantissa * 2 ^ (-exponent).toNat)

/-- The number nearest to a power of ten, if that is finite. -/
def tenTo? (power : Nat) : Option Double := ofNat? (10 ^ power)

/-- A number divided by a power of ten so many times, or until nothing is left of it. -/
def overTens? (power : Nat) : Nat → Double → Option Double
  | 0, x => some x
  | times + 1, x =>
      if x.mantissa = 0 then some x
      else (tenTo? power).bind fun ten => (x.over? ten).bind (overTens? power times)

/-- A number times a power of ten, if that is finite.  A power of ten is itself rounded, and a
negative one divides.  Beyond `10 ^ 308`, any number but zero becomes infinite, and a number is
divided by several powers after each other where one does not do. -/
def timesTen? (x : Double) (power : Int) : Option Double :=
  if x.mantissa = 0 then some x
  else if 308 < power then none
  else if 0 ≤ power then (tenTo? power.toNat).bind x.times?
  else
    let places := (-power).toNat
    let times := (places - 1) / 308
    (overTens? 308 times x).bind (overTens? (places - 308 * times) 1)

end Double

end AssetMarket
