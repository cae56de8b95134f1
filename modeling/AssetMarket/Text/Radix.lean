/-
**Positional notation in an arbitrary base.**

A number is the same number in base 58, where people read it, and in base 256, where the ledger
stores it.  Both are digit lists here, lowest digit first; zero has no digits at all, so a number
has exactly one list whose last digit is not zero.

Main definitions:

* `Radix.value` — the number a list of digits denotes;
* `Radix.digits` — the digits of a number.

Main results:

* `Radix.value_digits` — the digits of a number denote it;
* `Radix.digits_lt` — digits are smaller than the base;
* `Radix.getLast_digits_ne_zero` — the highest digit is not zero;
* `Radix.digits_value` — a list of digits that does not end in zero is the list of its number;
* `Radix.drop_digits` — without its lowest digits a number is divided by a power of the base;
* `Radix.pow_le_of_lt_length` — a number is as large as its count of digits says.
-/

import AssetMarket.Number

set_option relaxedAutoImplicit false
set_option autoImplicit false

namespace AssetMarket

namespace Radix

/-- The number that digits denote in a base, lowest digit first. -/
def value (base : Nat) : List Nat → Nat
  | [] => 0
  | d :: ds => d + base * value base ds

/-- At most `fuel` digits of a number, lowest first. -/
def digitsUpTo (base : Nat) : Nat → Nat → List Nat
  | 0, _ => []
  | fuel + 1, n => if n = 0 then [] else n % base :: digitsUpTo base fuel (n / base)

/-- The digits of a number, lowest first.  In a base of two or more a number has no more digits than
it has bits, which is why the count of bits is enough. -/
def digits (base n : Nat) : List Nat := digitsUpTo base (n.log2 + 1) n

/-! ### Digits denote their number -/

theorem value_digitsUpTo {base : Nat} (hb : 2 ≤ base) :
    ∀ (fuel n : Nat), n < 2 ^ fuel → value base (digitsUpTo base fuel n) = n := by
  intro fuel
  induction fuel with
  | zero => intro n hn; simp at hn; simp [digitsUpTo, value, hn]
  | succ fuel ih =>
      intro n hn
      by_cases h0 : n = 0
      · simp [digitsUpTo, value, h0]
      · have hle : n / base ≤ n / 2 := Nat.div_le_div_left hb (by decide)
        have hlt : n / base < 2 ^ fuel := by
          rw [Nat.pow_succ] at hn
          omega
        simp only [digitsUpTo, if_neg h0, value, ih _ hlt]
        exact Nat.mod_add_div n base

theorem value_digits {base : Nat} (hb : 2 ≤ base) (n : Nat) : value base (digits base n) = n :=
  value_digitsUpTo hb _ n Nat.lt_log2_self

theorem digitsUpTo_lt {base : Nat} (hb : 0 < base) :
    ∀ (fuel n : Nat), ∀ d ∈ digitsUpTo base fuel n, d < base := by
  intro fuel
  induction fuel with
  | zero => intro n d hd; simp [digitsUpTo] at hd
  | succ fuel ih =>
      intro n d hd
      simp only [digitsUpTo] at hd
      split at hd
      · simp at hd
      · rcases List.mem_cons.1 hd with rfl | hd
        · exact Nat.mod_lt _ hb
        · exact ih _ _ hd

theorem digits_lt {base : Nat} (hb : 0 < base) (n : Nat) : ∀ d ∈ digits base n, d < base :=
  digitsUpTo_lt hb _ n

/-! ### Lists that denote the same number -/

theorem value_eq_zero_iff {base : Nat} (hb : 0 < base) (ds : List Nat) :
    value base ds = 0 ↔ ∀ d ∈ ds, d = 0 := by
  induction ds with
  | nil => simp [value]
  | cons d ds ih =>
      simp only [value, List.forall_mem_cons, ← ih]
      constructor
      · intro h
        have hmul : base * value base ds = 0 := by omega
        exact ⟨by omega, (Nat.mul_eq_zero.1 hmul).resolve_left (by omega)⟩
      · rintro ⟨rfl, h⟩
        simp [h]

/-- Of two lists of digits that do not end in zero and denote the same number, both are equal. -/
theorem value_injective {base : Nat} (hb : 0 < base) :
    ∀ {as bs : List Nat}, (∀ d ∈ as, d < base) → (∀ d ∈ bs, d < base) →
      (∀ d ∈ as.getLast?, d ≠ 0) → (∀ d ∈ bs.getLast?, d ≠ 0) →
      value base as = value base bs → as = bs := by
  have nonzero : ∀ ds : List Nat, (∀ d ∈ ds.getLast?, d ≠ 0) → ds ≠ [] → value base ds ≠ 0 := by
    intro ds hlast hne hzero
    have hall := (value_eq_zero_iff hb ds).1 hzero
    have hmem := List.getLast_mem hne
    exact hlast (ds.getLast hne) (List.getLast?_eq_some_getLast hne) (hall _ hmem)
  intro as
  induction as with
  | nil =>
      intro bs _ _ _ hlast h
      by_cases hne : bs = []
      · exact hne.symm
      · exact absurd h.symm (nonzero bs hlast hne)
  | cons a as ih =>
      intro bs ha hb' hla hlb h
      cases bs with
      | nil => exact absurd h (nonzero (a :: as) hla (by simp))
      | cons b bs =>
          simp only [List.forall_mem_cons] at ha hb'
          simp only [value] at h
          have hab : a = b := by
            have := congrArg (· % base) h
            simpa [Nat.add_mul_mod_self_left, Nat.mod_eq_of_lt ha.1, Nat.mod_eq_of_lt hb'.1]
              using this
          subst hab
          have hv : value base as = value base bs :=
            Nat.eq_of_mul_eq_mul_left hb (Nat.add_left_cancel h)
          have hla' : ∀ d ∈ as.getLast?, d ≠ 0 := by
            intro d hd
            apply hla d
            rw [List.getLast?_cons]
            simp_all
          have hlb' : ∀ d ∈ bs.getLast?, d ≠ 0 := by
            intro d hd
            apply hlb d
            rw [List.getLast?_cons]
            simp_all
          rw [ih ha.2 hb'.2 hla' hlb' hv]

theorem getLast_digitsUpTo_ne_zero {base : Nat} (hb : 2 ≤ base) :
    ∀ (fuel n : Nat), n < 2 ^ fuel → ∀ d ∈ (digitsUpTo base fuel n).getLast?, d ≠ 0 := by
  intro fuel
  induction fuel with
  | zero => intro n _ d hd; simp [digitsUpTo] at hd
  | succ fuel ih =>
      intro n hn d hd
      simp only [digitsUpTo] at hd
      split at hd
      · simp at hd
      · rename_i h0
        have hle : n / base ≤ n / 2 := Nat.div_le_div_left hb (by decide)
        have hlt : n / base < 2 ^ fuel := by
          rw [Nat.pow_succ] at hn
          omega
        rw [List.getLast?_cons] at hd
        cases hrest : (digitsUpTo base fuel (n / base)).getLast? with
        | some e =>
            rw [hrest] at hd
            simp only [Option.getD_some, Option.mem_def, Option.some.injEq] at hd
            subst hd
            exact ih _ hlt e hrest
        | none =>
            rw [hrest] at hd
            simp only [Option.getD_none, Option.mem_def, Option.some.injEq] at hd
            have hempty : digitsUpTo base fuel (n / base) = [] := List.getLast?_eq_none_iff.1 hrest
            have hzero : n / base = 0 := by
              have := value_digitsUpTo hb fuel (n / base) hlt
              rw [hempty] at this
              exact this.symm
            have hsmall : n < base := (Nat.div_eq_zero_iff_lt (by omega)).1 hzero
            rw [Nat.mod_eq_of_lt hsmall] at hd
            omega

theorem getLast_digits_ne_zero {base : Nat} (hb : 2 ≤ base) (n : Nat) :
    ∀ d ∈ (digits base n).getLast?, d ≠ 0 :=
  getLast_digitsUpTo_ne_zero hb _ n Nat.lt_log2_self

theorem digits_value {base : Nat} (hb : 2 ≤ base) {ds : List Nat} (hds : ∀ d ∈ ds, d < base)
    (hlast : ∀ d ∈ ds.getLast?, d ≠ 0) : digits base (value base ds) = ds :=
  value_injective (by omega) (digits_lt (by omega) _) hds (getLast_digits_ne_zero hb _) hlast
    (value_digits hb _)

/-! ### Dropping digits -/

@[simp] theorem digits_zero (base : Nat) : digits base 0 = [] := by
  simp [digits, digitsUpTo]

theorem digits_of_ne_zero {base n : Nat} (hb : 2 ≤ base) (hn : n ≠ 0) :
    digits base n = n % base :: digits base (n / base) := by
  have hmem : ∀ d ∈ n % base :: digits base (n / base), d < base := by
    intro d hd
    rcases List.mem_cons.1 hd with rfl | hd
    · exact Nat.mod_lt _ (by omega)
    · exact digits_lt (by omega) _ d hd
  have hlast : ∀ d ∈ (n % base :: digits base (n / base)).getLast?, d ≠ 0 := by
    intro d hd
    by_cases hquot : n / base = 0
    · -- the number is its own only digit
      have hsmall : n < base := (Nat.div_eq_zero_iff_lt (by omega)).1 hquot
      rw [hquot, digits_zero, Nat.mod_eq_of_lt hsmall] at hd
      simp only [List.getLast?_singleton, Option.mem_def, Option.some.injEq] at hd
      omega
    · have hvalue := value_digits hb (n / base)
      cases hrest : digits base (n / base) with
      | nil =>
          rw [hrest] at hvalue
          exact absurd hvalue.symm hquot
      | cons e es =>
          rw [hrest, List.getLast?_cons_cons, ← hrest] at hd
          exact getLast_digits_ne_zero hb _ d hd
  have hsame := digits_value hb hmem hlast
  rw [value, value_digits hb, Nat.mod_add_div] at hsame
  exact hsame

theorem drop_digits {base : Nat} (hb : 2 ≤ base) (n k : Nat) :
    (digits base n).drop k = digits base (n / base ^ k) := by
  induction k generalizing n with
  | zero => simp
  | succ k ih =>
      by_cases hn : n = 0
      · simp [hn]
      · rw [digits_of_ne_zero hb hn, List.drop_succ_cons, ih, Nat.div_div_eq_div_mul,
          Nat.pow_succ, Nat.mul_comm base]

/-! ### Counting digits -/

/-- A number with more than `k` digits is at least the power `k` of the base. -/
theorem pow_le_of_lt_length {base : Nat} (hb : 2 ≤ base) {n k : Nat}
    (h : k < (digits base n).length) : base ^ k ≤ n := by
  refine Nat.not_lt.1 fun hlt => ?_
  -- without its lowest `k` digits nothing of the number would be left
  have hdrop := drop_digits hb n k
  rw [Nat.div_eq_of_lt hlt, digits_zero, List.drop_eq_nil_iff] at hdrop
  omega

end Radix

end AssetMarket
