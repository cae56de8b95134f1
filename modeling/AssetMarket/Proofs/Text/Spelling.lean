/-
**How a number is spelled.**

A number has one shortest numeral in a base.  Zeros in front of it and the case of its letters do
not change the number, and this is all the freedom there is: a run of digits, unless it is empty,
is the shortest numeral of the number it denotes, spelled so or so.

Main definitions:

* `Text.Spells` — the shortest numeral of a number, with zeros in front, in letters of either case;
* `Text.isDigitOf` — whether a character is a digit of a base.

Main results:

* `Text.toDigits_append_of_digitRun` — digits behind the shortest numeral of a number lengthen it;
* `Text.digitRun_toDigits` — the shortest numeral is a run of digits;
* `Text.spells_iff` — **what is spelled are the runs of digits, but the empty one**;
* `Text.natural_eq_ok_iff_spells` — digits alone are read as the number they spell.
-/

import AssetMarket.Proofs.Text.Hex

set_option relaxedAutoImplicit false
set_option autoImplicit false

namespace AssetMarket

namespace Text

/-- The shortest numeral of a number in a base, with zeros in front and in letters of either case as
one likes. -/
def Spells (base : Nat) (cs : List Char) (n : Nat) : Prop :=
  ∃ zeros, cs.map Char.toLower = List.replicate zeros '0' ++ Nat.toDigits base n

variable {base n : Nat} {c : Char} {cs : List Char}

/-! ### Single digits -/

theorem hexDigit_eq_digitChar : ∀ d < 16, Hex.digit d = Nat.digitChar d := by decide

/-- In lower case a digit is the one that the shortest numeral has. -/
theorem toLower_eq_digitChar {d : Nat} (hbase : base ≤ 16) (h : digit? base c = some d) :
    c.toLower = d.digitChar := by
  have hd := digit?_lt h
  have hhex : digit? 16 c = some d := by
    rw [digit?, Option.filter_eq_some_iff] at h ⊢
    exact ⟨h.1, by simp; omega⟩
  rw [Hex.toLower_of_digit? hhex, hexDigit_eq_digitChar d (by omega)]

/-! ### Runs of digits -/

theorem digitRun_map_toLower_iff : DigitRun base (cs.map Char.toLower) n ↔ DigitRun base cs n := by
  induction cs generalizing n with
  | nil => exact Iff.rfl
  | cons c cs ih =>
      constructor
      · rintro (_ | ⟨hd, hrest⟩)
        rw [List.length_map]
        exact .cons (Hex.digit?_toLower base c ▸ hd) (ih.1 hrest)
      · rintro (_ | ⟨hd, hrest⟩)
        rw [← List.length_map Char.toLower]
        exact .cons ((Hex.digit?_toLower base c).trans hd) (ih.2 hrest)

/-- Digits behind the shortest numeral of a number make the shortest numeral of a longer one. -/
theorem toDigits_append_of_digitRun (hbase : 1 < base) (hbase' : base ≤ 16) {front : Nat}
    (hfront : 0 < front) (h : DigitRun base cs n) :
    Nat.toDigits base front ++ cs.map Char.toLower
      = Nat.toDigits base (front * base ^ cs.length + n) := by
  induction h generalizing front with
  | nil => simp
  | @cons c cs d n hd _ ih =>
      have hlt := digit?_lt hd
      have hnext : 0 < base * front + d :=
        Nat.add_pos_left (Nat.mul_pos (by omega) hfront) d
      have hvalue : (base * front + d) * base ^ cs.length + n
          = front * base ^ (c :: cs).length + (d * base ^ cs.length + n) := by
        rw [List.length_cons, Nat.pow_succ, Nat.add_mul, Nat.mul_comm base, Nat.mul_assoc,
          Nat.mul_comm base, Nat.add_assoc]
      calc Nat.toDigits base front ++ (c :: cs).map Char.toLower
          = (Nat.toDigits base front ++ [d.digitChar]) ++ cs.map Char.toLower := by
            rw [List.map_cons, toLower_eq_digitChar hbase' hd, List.append_assoc,
              List.singleton_append]
        _ = Nat.toDigits base (base * front + d) ++ cs.map Char.toLower := by
            rw [← Nat.toDigits_of_lt_base hlt, Nat.toDigits_append_toDigits hbase hfront hlt]
        _ = _ := by rw [ih hnext, hvalue]

/-- The shortest numeral of a number is a run of digits that denotes it. -/
theorem digitRun_toDigits (hbase : 1 < base) (hbase' : base ≤ 16) (n : Nat) :
    DigitRun base (Nat.toDigits base n) n := by
  have hsingle {d : Nat} (h : d < base) : DigitRun base [d.digitChar] d := by
    simpa using DigitRun.cons (digit?_digitChar hbase' h) .nil
  induction n using Nat.strongRecOn with
  | ind n ih =>
      rcases Nat.lt_or_ge n base with hlt | hge
      · rw [Nat.toDigits_of_lt_base hlt]
        exact hsingle hlt
      · rw [Nat.toDigits_of_base_le hbase hge, DigitRun.append_iff]
        refine ⟨n / base, n % base, ih _ (Nat.div_lt_self (by omega) hbase),
          hsingle (Nat.mod_lt _ (by omega)), ?_⟩
        simpa using (Nat.div_add_mod' n base).symm

/-! ### Spelled numbers -/

theorem spells_of_digitRun (hbase : 1 < base) (hbase' : base ≤ 16) (h : DigitRun base cs n)
    (hne : cs ≠ []) : Spells base cs n := by
  induction h with
  | nil => exact absurd rfl hne
  | @cons c cs d n hd hrest ih =>
      have hlower := toLower_eq_digitChar hbase' hd
      rcases Nat.eq_zero_or_pos d with rfl | hpos
      · rw [Nat.zero_mul, Nat.zero_add]
        by_cases hcs : cs = []
        · -- nothing but a zero, which is the shortest numeral and not in front of one
          subst hcs
          cases hrest
          exact ⟨0, by rw [List.map_singleton, hlower, Nat.toDigits_zero]; rfl⟩
        · obtain ⟨zeros, hzeros⟩ := ih hcs
          refine ⟨zeros + 1, ?_⟩
          rw [List.map_cons, hlower, hzeros]
          rfl
      · refine ⟨0, ?_⟩
        rw [List.map_cons, hlower, ← toDigits_append_of_digitRun hbase hbase' hpos hrest,
          Nat.toDigits_of_lt_base (digit?_lt hd)]
        rfl

theorem digitRun_of_spells (hbase : 1 < base) (hbase' : base ≤ 16) (h : Spells base cs n) :
    DigitRun base cs n := by
  obtain ⟨zeros, hzeros⟩ := h
  rw [← digitRun_map_toLower_iff, hzeros, DigitRun.append_iff]
  exact ⟨0, n, digitRun_zeros (by omega) zeros, digitRun_toDigits hbase hbase' n, by simp⟩

/-- **What is spelled are the runs of digits**, but the empty one. -/
theorem spells_iff (hbase : 1 < base) (hbase' : base ≤ 16) :
    Spells base cs n ↔ cs ≠ [] ∧ DigitRun base cs n := by
  refine ⟨fun h => ⟨?_, digitRun_of_spells hbase hbase' h⟩,
    fun h => spells_of_digitRun hbase hbase' h.2 h.1⟩
  rintro rfl
  obtain ⟨zeros, hzeros⟩ := h
  exact Nat.toDigits_ne_nil (List.append_eq_nil_iff.1 hzeros.symm).2

theorem Spells.unique {m : Nat} (hbase : 1 < base) (hbase' : base ≤ 16) (h : Spells base cs m)
    (h' : Spells base cs n) : m = n :=
  (digitRun_of_spells hbase hbase' h).unique (digitRun_of_spells hbase hbase' h')

/-! ### Reading digits alone -/

/-- Whether a character is a digit of a base. -/
def isDigitOf (base : Nat) (c : Char) : Bool := (digit? base c).isSome

theorem Spells.all_isDigitOf (hbase : 1 < base) (hbase' : base ≤ 16) (h : Spells base cs n) :
    ∀ c ∈ cs, isDigitOf base c = true := by
  intro c hc
  obtain ⟨d, hd⟩ := (digitRun_of_spells hbase hbase' h).exists_digit? c hc
  rw [isDigitOf, hd]
  rfl

/-- Among digits there is no sign, so they are read as the number they spell. -/
theorem natural_eq_ok_iff_spells {bound : Nat} (hbase : 1 < base) (hbase' : base ≤ 16)
    (hbound : 0 < bound) (h : ∀ c ∈ cs, isDigitOf base c = true) :
    natural base bound cs = .ok n ↔ Spells base cs n ∧ n < bound := by
  rw [natural_eq_ok_iff hbound, spells_iff hbase hbase']
  constructor
  · rintro ⟨⟨ds, hne, hrun, rfl | rfl⟩, hlt⟩
    · exact ⟨⟨hne, hrun⟩, hlt⟩
    · have hplus := h '+' (List.mem_cons_self ..)
      rw [isDigitOf, digit?_plus] at hplus
      cases hplus
  · rintro ⟨⟨hne, hrun⟩, hlt⟩
    exact ⟨⟨cs, hne, hrun, .inl rfl⟩, hlt⟩

end Text

end AssetMarket
