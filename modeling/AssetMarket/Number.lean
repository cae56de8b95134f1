/-
**Plain numbers.**

Bounds are written as powers and sizes as sums.  What `2 ^ 64` and a sum of a list stand for is
settled here, once for the program and for all that is proved about it: they are the operations of
the core library, also in modules that import an algebraic library with operations of its own.

Main definitions:

* `instZeroNat` — the zero with which a sum of natural numbers begins.
-/

set_option relaxedAutoImplicit false
set_option autoImplicit false

namespace AssetMarket

attribute [instance (2000), default_instance 20000] instPowNat

/-- The zero with which a sum of natural numbers begins. -/
instance (priority := 2000) instZeroNat : Zero Nat := ⟨0⟩

end AssetMarket
