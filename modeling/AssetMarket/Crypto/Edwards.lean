/-
**Points of the twisted Edwards curve.**

An address that somebody can sign for is the compressed form of a point of the curve `-x² + y² = 1
+ d·x²·y²` over the integers modulo `2²⁵⁵ - 19`; a derived address must not be one.  The
compressed form is `y`, lowest byte first, with the sign of `x` in the highest bit.  Solving for
`x²` gives `(y² - 1) / (d·y² + 1)`, and a quotient is a square exactly if the product of its two
terms is, so no division is needed: by Euler's criterion the product is raised to half of one less
than the modulus.

Main definitions:

* `Edwards.power` — repeated squaring;
* `Edwards.isSquare` — Euler's criterion;
* `Edwards.isPoint` — whether bytes are the compressed form of a point.
-/

import AssetMarket.Bytes

set_option relaxedAutoImplicit false
set_option autoImplicit false

namespace AssetMarket

namespace Edwards

/-- The modulus of the field. -/
def modulus : Nat := 2 ^ 255 - 19

/-- The constant `d` of the curve. -/
def curveConstant : Nat :=
  37095705934669439343138083508754565189542113879843219016388785533085940283555

/-- `result · base ^ exponent` modulo `m`, by squaring once for each of `bits` bits. -/
def power (m : Nat) : Nat → Nat → Nat → Nat → Nat
  | 0, _, _, result => result
  | bits + 1, base, exponent, result =>
      power m bits (base * base % m) (exponent / 2)
        (if exponent % 2 = 1 then result * base % m else result)

/-- Whether a number is a square modulo the modulus: its power to half of one less is zero or one.
-/
def isSquare (n : Nat) : Bool := power modulus 255 (n % modulus) ((modulus - 1) / 2) 1 ≤ 1

/-- Whether bytes are the compressed form of a point.  The sign of `x` does not matter, and `y`
counts modulo the modulus.  -/
def isPoint (bytes : Bytes) : Bool :=
  let y := Bytes.number bytes % 2 ^ 255 % modulus
  let square := y * y % modulus
  isSquare ((square + modulus - 1) * (curveConstant * square + 1))

end Edwards

end AssetMarket
