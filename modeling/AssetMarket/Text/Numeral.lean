/-
**Integers written as numerals.**

A numeral is a sign, if any, and at least one digit.  Digits are taken left to right, and a
character that is no digit is reported before the size of the number is looked at, so of a text
with both faults the one further left wins.

Main definitions:

* `Text.digit?` — the value of a character as a digit of a base;
* `NumeralError` — why a text is not a numeral of the wanted type, with `NumeralError.message`;
* `Text.natural`, `Text.integer` — the readers, for numbers below a bound.

Main results:

* `Text.digit?_lt` — a digit is smaller than its base;
* `Text.natural_lt` — a number that is read is below the bound.
-/

import AssetMarket.Number

set_option relaxedAutoImplicit false
set_option autoImplicit false

namespace AssetMarket

/-- Why a text is not a numeral. -/
inductive NumeralError where
  /-- Nothing was written. -/
  | empty
  /-- A character is not a digit. -/
  | invalidDigit
  /-- The number lies above the largest of its type. -/
  | tooLarge
  /-- The number lies below the smallest of its type. -/
  | tooSmall
  deriving DecidableEq, Repr

/-- The wording of each cause. -/
def NumeralError.message : NumeralError → String
  | .empty => "cannot parse integer from empty string"
  | .invalidDigit => "invalid digit found in string"
  | .tooLarge => "number too large to fit in target type"
  | .tooSmall => "number too small to fit in target type"

namespace Text

/-! ### Digits -/

/-- The value of a letter or decimal digit: `0` to `9`, then `a` to `z` in either case. -/
def alphanumeric? (c : Char) : Option Nat :=
  if '0' ≤ c ∧ c ≤ '9' then some (c.toNat - '0'.toNat)
  else if 'a' ≤ c ∧ c ≤ 'z' then some (c.toNat - 'a'.toNat + 10)
  else if 'A' ≤ c ∧ c ≤ 'Z' then some (c.toNat - 'A'.toNat + 10)
  else none

/-- The value of a character as a digit in a base up to 36. -/
def digit? (base : Nat) (c : Char) : Option Nat :=
  (alphanumeric? c).filter (· < base)

theorem digit?_lt {base : Nat} {c : Char} {d : Nat} (h : digit? base c = some d) : d < base := by
  simp only [digit?, Option.filter_eq_some_iff, decide_eq_true_eq] at h
  exact h.2

/-- Whether a character is a decimal digit. -/
def isDecimal (c : Char) : Bool := (digit? 10 c).isSome

/-- Whether a character is a hexadecimal digit. -/
def isHexadecimal (c : Char) : Bool := (digit? 16 c).isSome

/-! ### Numerals -/

/-- Continue a number with more digits, as long as it stays below the bound. -/
def digits (base bound : Nat) (value : Nat) : List Char → Except NumeralError Nat
  | [] => .ok value
  | c :: cs =>
      match digit? base c with
      | none => .error .invalidDigit
      | some d =>
          if value * base + d < bound then digits base bound (value * base + d) cs
          else .error .tooLarge

theorem digits_lt {base bound : Nat} {cs : List Char} :
    ∀ {value n : Nat}, value < bound → digits base bound value cs = .ok n → n < bound := by
  induction cs with
  | nil =>
      intro value n hv h
      simp only [digits, Except.ok.injEq] at h
      omega
  | cons c cs ih =>
      intro value n _ h
      simp only [digits] at h
      split at h
      · simp at h
      · split at h
        · exact ih (by assumption) h
        · simp at h

/-- Read a number below `bound`: digits, with a plus sign in front if one likes. -/
def natural (base bound : Nat) : List Char → Except NumeralError Nat
  | [] => .error .empty
  | '+' :: c :: cs => digits base bound 0 (c :: cs)
  | cs => digits base bound 0 cs

theorem natural_lt {base bound : Nat} {cs : List Char} {n : Nat} (hb : 0 < bound)
    (h : natural base bound cs = .ok n) : n < bound := by
  unfold natural at h
  split at h
  · simp at h
  · exact digits_lt hb h
  · exact digits_lt hb h

/-- Read a number from `-bound` up to, and not including, `bound`: digits with or without a sign. -/
def integer (base bound : Nat) : List Char → Except NumeralError Int
  | '-' :: c :: cs =>
      match digits base (bound + 1) 0 (c :: cs) with
      | .ok n => .ok (-n)
      | .error .tooLarge => .error .tooSmall
      | .error e => .error e
  | cs => (natural base bound cs).map Int.ofNat

/-- Read an unsigned 64-bit integer in decimal. -/
def u64 (cs : List Char) : Except NumeralError UInt64 :=
  (natural 10 (2 ^ 64) cs).map UInt64.ofNat

/-- Read a signed 64-bit integer in decimal. -/
def i64 (cs : List Char) : Except NumeralError Int64 :=
  (integer 10 (2 ^ 63) cs).map Int64.ofInt

end Text

end AssetMarket
