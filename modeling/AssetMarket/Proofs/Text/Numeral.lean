/-
**Reading numerals.**

A number written in decimal, without a sign and without leading zeros, is read as that number
whenever it is below the bound of the reader, and refused as too large whenever it is not.  The
bound decides only whether a text is read, not as which number.

Which texts are read at all, and as which number, is said without the reader: each digit counts its
value times a power of the base, one power for each digit behind it.

Main definitions:

* `Text.DigitRun` — a run of digits and the number it denotes;
* `Text.IsNatural`, `Text.IsInteger` — a numeral without a minus sign and with any sign, and its
  number.

Main results:

* `Text.digits_append` — a reader takes a text piece by piece;
* `Text.natural_of_lt` — readers with different bounds agree on a number that is below both;
* `Text.natural_toDigits` — **what is written in decimal is read back**;
* `Text.DigitRun.append_iff` — runs of digits one behind the other;
* `Text.natural_eq_ok_iff`, `Text.integer_eq_ok_iff` — **exactly the numerals are read, as their
  numbers**.
-/

import AssetMarket.Text.Blank
import AssetMarket.Text.Numeral

set_option relaxedAutoImplicit false
set_option autoImplicit false

namespace AssetMarket

namespace Text

theorem digits_append (base bound value : Nat) (cs ds : List Char) :
    digits base bound value (cs ++ ds)
      = (digits base bound value cs).bind fun n => digits base bound n ds := by
  induction cs generalizing value with
  | nil => rfl
  | cons c cs ih =>
      rw [List.cons_append, digits, digits]
      cases digit? base c with
      | none => rfl
      | some d =>
          dsimp only
          split
          · exact ih _
          · rfl

theorem le_of_digits {base bound : Nat} (hbase : 1 ≤ base) {cs : List Char} {value n : Nat}
    (h : digits base bound value cs = .ok n) : value ≤ n := by
  induction cs generalizing value with
  | nil => exact Nat.le_of_eq (Except.ok.inj h)
  | cons c cs ih =>
      rw [digits] at h
      split at h
      · cases h
      · split at h
        · have hnext := ih h
          have hscale := Nat.le_mul_of_pos_right value hbase
          omega
        · cases h

theorem digits_of_lt {base bound bound' : Nat} (hbase : 1 ≤ base) {cs : List Char} {value n : Nat}
    (h : digits base bound value cs = .ok n) (hn : n < bound') :
    digits base bound' value cs = .ok n := by
  induction cs generalizing value with
  | nil => exact h
  | cons c cs ih =>
      rw [digits] at h ⊢
      split at h
      · cases h
      next d =>
        split at h
        · -- the number only grows while it is read
          have hle := le_of_digits hbase h
          rw [if_pos (by omega)]
          exact ih h
        · cases h

/-- Readers with different bounds agree on a number that is below both. -/
theorem natural_of_lt {base bound bound' : Nat} (hbase : 1 ≤ base) {cs : List Char} {n : Nat}
    (h : natural base bound cs = .ok n) (hn : n < bound') : natural base bound' cs = .ok n := by
  unfold natural at h ⊢
  split at h
  · cases h
  · exact digits_of_lt hbase h hn
  · exact digits_of_lt hbase h hn

theorem alphanumeric?_digitChar : ∀ d < 16, alphanumeric? (Nat.digitChar d) = some d := by decide

theorem digit?_digitChar {base d : Nat} (hbase : base ≤ 16) (h : d < base) :
    digit? base d.digitChar = some d := by
  rw [digit?, alphanumeric?_digitChar d (by omega), Option.filter_some_pos (by simpa using h)]

theorem digits_digitChar {bound value d : Nat} (h : d < 10) :
    digits 10 bound value [d.digitChar]
      = if value * 10 + d < bound then .ok (value * 10 + d) else .error .tooLarge := by
  rw [digits, digit?_digitChar (by decide) h]
  rfl

theorem digits_toDigits (bound n : Nat) :
    digits 10 bound 0 (Nat.toDigits 10 n) = if n < bound then .ok n else .error .tooLarge := by
  induction n using Nat.strongRecOn with
  | ind n ih =>
      rcases Nat.lt_or_ge n 10 with hlt | hge
      · rw [Nat.toDigits_of_lt_base hlt, digits_digitChar hlt, Nat.zero_mul, Nat.zero_add]
      · rw [Nat.toDigits_of_base_le (by decide) hge, digits_append, ih (n / 10) (by omega)]
        -- a number whose upper digits are beyond the bound is beyond it too
        by_cases hupper : n / 10 < bound
        · have hvalue : n / 10 * 10 + n % 10 = n := by omega
          rw [if_pos hupper, Except.bind, digits_digitChar (by omega), hvalue]
        · rw [if_neg hupper, Except.bind, if_neg (by omega)]

/-- **What is written in decimal is read back**, if it is below the bound. -/
theorem natural_toDigits (bound n : Nat) :
    natural 10 bound (Nat.toDigits 10 n) = if n < bound then .ok n else .error .tooLarge := by
  rw [← digits_toDigits]
  cases hcs : Nat.toDigits 10 n with
  | nil => exact absurd hcs Nat.toDigits_ne_nil
  | cons c cs =>
      -- the text begins with a digit, so the reader does not take it for a sign
      have hdigit : c.isDigit = true :=
        Nat.isDigit_of_mem_toDigits (b := 10) (n := n) (by decide) (by decide) (by simp [hcs])
      have hplus : c ≠ '+' := by
        rintro rfl
        exact absurd hdigit (by decide)
      unfold natural
      split
      next heq => cases heq
      next heq => exact absurd (List.cons.inj heq).1 hplus
      next => rfl

/-! ### Digits among characters -/

theorem isSome_of_digit? {base : Nat} {c : Char} {d : Nat} (h : digit? base c = some d) :
    (alphanumeric? c).isSome = true := by
  rw [digit?, Option.filter_eq_some_iff] at h
  rw [h.1]
  rfl

theorem toNat_lt_of_digit? {base : Nat} {c : Char} {d : Nat} (h : digit? base c = some d) :
    c.toNat < 128 := by
  have hsome := isSome_of_digit? h
  have hle {a : Char} (hc : c ≤ a) : c.toNat ≤ a.toNat := hc
  rw [alphanumeric?] at hsome
  split at hsome
  case isTrue hdecimal => exact Nat.lt_of_le_of_lt (hle hdecimal.2) (by decide)
  split at hsome
  case isTrue hlower => exact Nat.lt_of_le_of_lt (hle hlower.2) (by decide)
  split at hsome
  case isTrue hupper => exact Nat.lt_of_le_of_lt (hle hupper.2) (by decide)
  case isFalse => cases hsome

theorem ascii_alphanumeric : ∀ n < 128, (alphanumeric? (Char.ofNat n)).isSome = true →
    isBlank (Char.ofNat n) = false ∧ (Char.ofNat n).utf8Size = 1 := by
  decide

/-- A digit is not blank and takes one byte. -/
theorem plain_of_digit? {base : Nat} {c : Char} {d : Nat} (h : digit? base c = some d) :
    isBlank c = false ∧ c.utf8Size = 1 := by
  have hplain := ascii_alphanumeric c.toNat (toNat_lt_of_digit? h)
  rw [Char.ofNat_toNat] at hplain
  exact hplain (isSome_of_digit? h)

/-- The longest run of characters of a sort ends where the first of another sort stands. -/
theorem takeWhile_append_of_stops {p : Char → Bool} {front back : List Char}
    (hfront : ∀ c ∈ front, p c = true) (hback : ∀ c ∈ back.head?, p c = false) :
    (front ++ back).takeWhile p = front := by
  rw [List.takeWhile_append_of_pos hfront]
  cases back with
  | nil => exact List.append_nil front
  | cons c back => rw [List.takeWhile_cons_of_neg (by simpa using hback c rfl), List.append_nil]

/-! ### The grammar of numerals -/

/-- A run of digits and the number it denotes.  A run may be empty, and then it denotes zero. -/
inductive DigitRun (base : Nat) : List Char → Nat → Prop where
  | nil : DigitRun base [] 0
  | cons {c : Char} {cs : List Char} {d n : Nat} : digit? base c = some d → DigitRun base cs n →
      DigitRun base (c :: cs) (d * base ^ cs.length + n)

/-- A numeral without a minus sign, and its number: digits, at least one, with a plus sign in front
if one likes. -/
def IsNatural (base : Nat) (cs : List Char) (n : Nat) : Prop :=
  ∃ ds, ds ≠ [] ∧ DigitRun base ds n ∧ (cs = ds ∨ cs = '+' :: ds)

/-- A numeral with or without a sign, and its number. -/
inductive IsInteger (base : Nat) : List Char → Int → Prop where
  | natural {cs : List Char} {n : Nat} : IsNatural base cs n → IsInteger base cs n
  | negative {ds : List Char} {n : Nat} : ds ≠ [] → DigitRun base ds n →
      IsInteger base ('-' :: ds) (-n)

theorem DigitRun.exists_digit? {base n : Nat} {cs : List Char} (h : DigitRun base cs n) :
    ∀ c ∈ cs, ∃ d, digit? base c = some d := by
  induction h with
  | nil => nofun
  | cons hd _ ih => exact List.forall_mem_cons.2 ⟨⟨_, hd⟩, ih⟩

theorem DigitRun.utf8Length {base n : Nat} {cs : List Char} (h : DigitRun base cs n) :
    utf8Length cs = cs.length := by
  induction h with
  | nil => rfl
  | cons hd _ ih =>
      rw [utf8Length_cons, (plain_of_digit? hd).2, ih, List.length_cons, Nat.add_comm]

theorem DigitRun.not_isBlank {base n : Nat} {cs : List Char} (h : DigitRun base cs n) :
    ∀ c ∈ cs, isBlank c = false := by
  intro c hc
  obtain ⟨d, hd⟩ := h.exists_digit? c hc
  exact (plain_of_digit? hd).1

theorem IsNatural.ne_nil {base n : Nat} {cs : List Char} (h : IsNatural base cs n) : cs ≠ [] := by
  obtain ⟨ds, hne, -, rfl | rfl⟩ := h
  · exact hne
  · exact List.cons_ne_nil _ _

theorem IsNatural.not_isBlank {base n : Nat} {cs : List Char} (h : IsNatural base cs n) :
    ∀ c ∈ cs, isBlank c = false := by
  obtain ⟨ds, -, hrun, rfl | rfl⟩ := h
  · exact hrun.not_isBlank
  · exact List.forall_mem_cons.2 ⟨rfl, hrun.not_isBlank⟩

/-- Of two runs of digits one behind the other, the first counts a power of the base for each digit
of the second. -/
theorem DigitRun.append_iff {base n : Nat} {cs ds : List Char} :
    DigitRun base (cs ++ ds) n ↔
      ∃ a b, DigitRun base cs a ∧ DigitRun base ds b ∧ n = a * base ^ ds.length + b := by
  induction cs generalizing n with
  | nil =>
      constructor
      · exact fun h => ⟨0, n, .nil, h, by simp⟩
      · rintro ⟨a, b, ⟨⟩, hb, rfl⟩
        simpa using hb
  | cons c cs ih =>
      have hpow (d a b : Nat) : d * base ^ (cs ++ ds).length + (a * base ^ ds.length + b)
          = (d * base ^ cs.length + a) * base ^ ds.length + b := by
        rw [List.length_append, Nat.pow_add, Nat.add_mul, Nat.mul_assoc, Nat.add_assoc]
      constructor
      · rintro (_ | ⟨hd, hrest⟩)
        obtain ⟨a, b, ha, hb, rfl⟩ := ih.1 hrest
        exact ⟨_, b, .cons hd ha, hb, hpow _ a b⟩
      · rintro ⟨_, b, _ | ⟨hd, ha⟩, hb, rfl⟩
        rw [← hpow]
        exact .cons hd (ih.2 ⟨_, b, ha, hb, rfl⟩)

theorem digitRun_zeros {base : Nat} (h : 0 < base) (k : Nat) :
    DigitRun base (List.replicate k '0') 0 := by
  have hzero : digit? base '0' = some 0 := by
    rw [digit?, show alphanumeric? '0' = some 0 from rfl, Option.filter_some_pos (by simpa using h)]
  induction k with
  | zero => exact .nil
  | succ k ih =>
      have hcons := DigitRun.cons hzero ih
      rwa [Nat.zero_mul, Nat.zero_add] at hcons

theorem DigitRun.lt {base n : Nat} {cs : List Char} (h : DigitRun base cs n) :
    n < base ^ cs.length := by
  induction h with
  | nil => exact Nat.one_pos
  | @cons c cs d n hd _ ih =>
      have hdigit := Nat.mul_le_mul_right (base ^ cs.length) (digit?_lt hd)
      rw [Nat.succ_mul] at hdigit
      rw [List.length_cons, Nat.pow_succ, Nat.mul_comm _ base]
      omega

theorem DigitRun.unique {base m n : Nat} {cs : List Char} (h : DigitRun base cs m)
    (h' : DigitRun base cs n) : m = n := by
  induction h generalizing n with
  | nil =>
      cases h'
      rfl
  | cons hd _ ih =>
      obtain _ | ⟨hd', hrest⟩ := h'
      rw [hd] at hd'
      rw [Option.some.inj hd', ih hrest]

/-- Zeros behind a run multiply its number. -/
theorem digitRun_append_zeros_iff {base n : Nat} (hb : 0 < base) {cs : List Char} {k : Nat} :
    DigitRun base (cs ++ List.replicate k '0') n ↔
      ∃ m, DigitRun base cs m ∧ n = m * base ^ k := by
  rw [DigitRun.append_iff]
  constructor
  · rintro ⟨a, b, ha, hzeros, rfl⟩
    refine ⟨a, ha, ?_⟩
    rw [hzeros.unique (digitRun_zeros hb k), List.length_replicate, Nat.add_zero]
  · rintro ⟨m, hm, rfl⟩
    refine ⟨m, 0, hm, digitRun_zeros hb k, ?_⟩
    rw [List.length_replicate, Nat.add_zero]

/-- The reader continues a number with the number of a run of digits. -/
theorem digits_eq_ok_iff {base bound value n : Nat} {cs : List Char} (hvalue : value < bound) :
    digits base bound value cs = .ok n ↔
      ∃ m, DigitRun base cs m ∧ n = value * base ^ cs.length + m ∧ n < bound := by
  induction cs generalizing value with
  | nil =>
      rw [digits, Except.ok.injEq]
      constructor
      · rintro rfl
        exact ⟨0, .nil, by simp, hvalue⟩
      · rintro ⟨m, ⟨⟩, rfl, -⟩
        simp
  | cons c cs ih =>
      have hstep (d m : Nat) : value * base ^ (c :: cs).length + (d * base ^ cs.length + m)
          = (value * base + d) * base ^ cs.length + m := by
        rw [List.length_cons, Nat.pow_succ, Nat.add_mul, Nat.mul_assoc value, Nat.mul_comm base,
          Nat.add_assoc]
      rw [digits]
      cases hdigit : digit? base c with
      | none =>
          constructor
          · intro h
            cases h
          · rintro ⟨m, _ | ⟨hd, -⟩, -⟩
            rw [hdigit] at hd
            cases hd
      | some d =>
          dsimp only
          split
          next hnext =>
            rw [ih hnext]
            constructor
            · rintro ⟨m, hm, rfl, hlt⟩
              exact ⟨_, .cons hdigit hm, (hstep d m).symm, hlt⟩
            · rintro ⟨_, _ | ⟨hd, hm⟩, rfl, hlt⟩
              rw [hdigit] at hd
              cases hd
              exact ⟨_, hm, hstep d _, hlt⟩
          next hlarge =>
            constructor
            · intro h
              cases h
            · -- a number that is too large already does not become smaller
              rintro ⟨_, _ | ⟨hd, hm⟩, rfl, hlt⟩
              rw [hdigit] at hd
              cases hd
              rw [hstep] at hlt
              have hbase : 0 < base := Nat.lt_of_le_of_lt (Nat.zero_le d) (digit?_lt hdigit)
              have hgrow := Nat.le_mul_of_pos_right (value * base + d)
                (Nat.pow_pos hbase (n := cs.length))
              omega

theorem digit?_plus (base : Nat) : digit? base '+' = none := rfl

theorem digit?_minus (base : Nat) : digit? base '-' = none := rfl

/-- A run of digits does not begin with what is no digit. -/
theorem not_digitRun_cons {base n : Nat} {c : Char} {cs : List Char} (h : digit? base c = none) :
    ¬ DigitRun base (c :: cs) n := by
  rintro (_ | ⟨hd, -⟩)
  rw [h] at hd
  cases hd

/-- From nothing, exactly the runs of digits are read. -/
theorem digits_zero_eq_ok_iff {base bound n : Nat} (hbound : 0 < bound) {cs : List Char} :
    digits base bound 0 cs = .ok n ↔ DigitRun base cs n ∧ n < bound := by
  rw [digits_eq_ok_iff hbound]
  constructor
  · rintro ⟨m, hm, rfl, hlt⟩
    rw [Nat.zero_mul, Nat.zero_add] at hlt ⊢
    exact ⟨hm, hlt⟩
  · rintro ⟨hn, hlt⟩
    exact ⟨n, hn, by rw [Nat.zero_mul, Nat.zero_add], hlt⟩

/-- **Exactly the numerals are read**, as their numbers, as long as these are below the bound. -/
theorem natural_eq_ok_iff {base bound n : Nat} (hbound : 0 < bound) {cs : List Char} :
    natural base bound cs = .ok n ↔ IsNatural base cs n ∧ n < bound := by
  unfold natural
  split
  next =>
    constructor
    · intro h
      cases h
    · rintro ⟨⟨ds, hne, -, rfl | hcs⟩, -⟩
      · exact absurd rfl hne
      · cases hcs
  next c cs =>
    rw [digits_zero_eq_ok_iff hbound]
    constructor
    · rintro ⟨hrun, hlt⟩
      exact ⟨⟨c :: cs, List.cons_ne_nil _ _, hrun, .inr rfl⟩, hlt⟩
    · rintro ⟨⟨ds, -, hrun, rfl | hcs⟩, hlt⟩
      · exact absurd hrun (not_digitRun_cons (digit?_plus base))
      · cases hcs
        exact ⟨hrun, hlt⟩
  next hne hsign =>
    rw [digits_zero_eq_ok_iff hbound]
    constructor
    · rintro ⟨hrun, hlt⟩
      exact ⟨⟨cs, hne, hrun, .inl rfl⟩, hlt⟩
    · rintro ⟨⟨ds, hds, hrun, rfl | rfl⟩, hlt⟩
      · exact ⟨hrun, hlt⟩
      · -- a sign with digits behind it is read by the case before
        obtain ⟨c, ds, rfl⟩ := List.exists_cons_of_ne_nil hds
        exact absurd rfl (hsign c ds)

/-- With a minus sign exactly the runs of digits are read, as the numbers below zero. -/
theorem integer_minus_eq_ok_iff {base bound : Nat} {c : Char} {cs : List Char} {z : Int} :
    integer base bound ('-' :: c :: cs) = .ok z ↔
      ∃ n, DigitRun base (c :: cs) n ∧ n ≤ bound ∧ z = -n := by
  rw [integer]
  constructor
  · intro h
    split at h
    next n hn =>
      cases h
      obtain ⟨hrun, hlt⟩ := (digits_zero_eq_ok_iff (Nat.succ_pos bound)).1 hn
      exact ⟨n, hrun, Nat.le_of_lt_succ hlt, rfl⟩
    next => cases h
    next => cases h
  · rintro ⟨n, hrun, hle, rfl⟩
    rw [(digits_zero_eq_ok_iff (Nat.succ_pos bound)).2 ⟨hrun, Nat.lt_succ_of_le hle⟩]

/-- **Exactly the numerals are read**, with a minus sign as well, if they lie between the bounds. -/
theorem integer_eq_ok_iff {base bound : Nat} (hbound : 0 < bound) {cs : List Char} {z : Int} :
    integer base bound cs = .ok z ↔ IsInteger base cs z ∧ -bound ≤ z ∧ z < bound := by
  by_cases hminus : ∃ c ds, cs = '-' :: c :: ds
  · obtain ⟨c, ds, rfl⟩ := hminus
    rw [integer_minus_eq_ok_iff]
    constructor
    · rintro ⟨n, hrun, hle, rfl⟩
      exact ⟨.negative (List.cons_ne_nil _ _) hrun, by omega, by omega⟩
    · rintro ⟨⟨ns, hne, hrun, heq | heq⟩ | ⟨-, hrun⟩, hlow, hhigh⟩
      · exact absurd (heq ▸ hrun) (not_digitRun_cons (digit?_minus base))
      · cases heq
      · exact ⟨_, hrun, by omega, rfl⟩
  · have hplain : integer base bound cs = (natural base bound cs).map Int.ofNat := by
      unfold integer
      split
      next c ds => exact absurd ⟨c, ds, rfl⟩ hminus
      next => rfl
    rw [hplain]
    constructor
    · intro h
      cases hn : natural base bound cs with
      | error e =>
          rw [hn] at h
          cases h
      | ok n =>
          rw [hn] at h
          cases h
          obtain ⟨hnatural, hlt⟩ := (natural_eq_ok_iff hbound).1 hn
          exact ⟨.natural hnatural, by rw [Int.ofNat_eq_natCast]; omega, Int.ofNat_lt.2 hlt⟩
    · rintro ⟨hnatural | ⟨hne, hrun⟩, -, hhigh⟩
      · rw [(natural_eq_ok_iff hbound).2 ⟨hnatural, Int.ofNat_lt.1 hhigh⟩]
        rfl
      · obtain ⟨c, ds, rfl⟩ := List.exists_cons_of_ne_nil hne
        exact absurd ⟨c, ds, rfl⟩ hminus

theorem u64_eq_ok_iff {cs : List Char} {v : UInt64} :
    u64 cs = .ok v ↔ IsNatural 10 cs v.toNat := by
  rw [u64]
  constructor
  · intro h
    cases hn : natural 10 (2 ^ 64) cs with
    | error e =>
        rw [hn] at h
        cases h
    | ok n =>
        rw [hn] at h
        cases h
        obtain ⟨hnatural, hlt⟩ := (natural_eq_ok_iff (by decide)).1 hn
        rwa [UInt64.toNat_ofNat_of_lt' hlt]
  · intro h
    rw [(natural_eq_ok_iff (by decide)).2 ⟨h, v.toNat_lt⟩]
    exact congrArg Except.ok UInt64.ofNat_toNat

end Text

end AssetMarket
