/-
**Which texts are amounts.**

An amount is a numeral and the word for the smallest unit, or a numeral of coins with up to nine
places behind a point.  What the places are worth is found by writing zeros behind them until there
are nine, and by reading these as a numeral.

A numeral may have a plus sign in front, and nobody looks for one among the places.  So a sign right
behind the point is read too, as if it were a zero: `1.+5` is read like `1.05`, though it is no
amount.  Apart from this, exactly the amounts are read.

Main definitions:

* `Quantity.IsPlaces`, `Quantity.IsSignedPlaces` — what stands behind a point, without a sign and
  with one;
* `Quantity.IsAmount` — an amount, and how much it is.

Main results:

* `Quantity.part_fillPlaces_eq_ok_iff` — what is read behind the point;
* `Quantity.decimalAmount_eq_ok_iff` — what is read as coins;
* `Quantity.amount_grammar` — **amounts are read, and amounts with a sign behind the point**;
* `Quantity.sign_behind_point` — such a text is no amount.
-/

import AssetMarket.Text.Quantity
import AssetMarket.Proofs.Text.Blank
import AssetMarket.Proofs.Text.Numeral

set_option relaxedAutoImplicit false
set_option autoImplicit false

namespace AssetMarket

namespace Quantity

open Text (DigitRun IsNatural isBlank utf8Length)

/-! ### Amounts -/

/-- The coins of an amount: a numeral, or nothing at all for none. -/
def IsCoins (cs : List Char) (n : Nat) : Prop := (cs = [] ∧ n = 0) ∨ IsNatural 10 cs n

/-- At most nine places, and what they are worth in the smallest unit. -/
def IsPlaces (cs : List Char) (n : Nat) : Prop :=
  ∃ m, DigitRun 10 cs m ∧ cs.length ≤ 9 ∧ n = m * 10 ^ (9 - cs.length)

/-- Places with a plus sign where the first should be, worth as much as with a zero there. -/
def IsSignedPlaces (cs : List Char) (n : Nat) : Prop :=
  ∃ ds, cs = '+' :: ds ∧ IsPlaces ('0' :: ds) n

/-- Coins, a point and what stands behind it, and how much this is in the smallest unit.  On one
side of the point there must be something. -/
def IsPointed (behind : List Char → Nat → Prop) (cs : List Char) (n : Nat) : Prop :=
  ∃ coins places k m, cs = coins ++ '.' :: places ∧ IsCoins coins k ∧ behind places m ∧
    (coins = [] → places ≠ []) ∧ n = k * 10 ^ 9 + m

/-- A numeral and the word for the smallest unit, with blanks between them if one likes. -/
def IsUnits (cs : List Char) (n : Nat) : Prop :=
  ∃ number gap, IsNatural 10 number n ∧ (∀ c ∈ gap, isBlank c = true) ∧
    cs = number ++ gap ++ "lamports".toList

/-- An amount, and how much it is in the smallest unit. -/
inductive IsAmount : List Char → Nat → Prop where
  | units {cs : List Char} {n : Nat} : IsUnits cs n → IsAmount cs n
  | whole {cs : List Char} {n : Nat} : IsNatural 10 cs n → IsAmount cs (n * 10 ^ 9)
  | pointed {cs : List Char} {n : Nat} : IsPointed IsPlaces cs n → IsAmount cs n

theorem isSignedPlaces_iff {cs : List Char} {n : Nat} :
    IsSignedPlaces cs n ↔ ∃ ds m, cs = '+' :: ds ∧ DigitRun 10 ds m ∧ ds.length ≤ 8 ∧
      n = m * 10 ^ (8 - ds.length) := by
  have hzero : Text.digit? 10 '0' = some 0 := rfl
  have hleft (ds : List Char) : 9 - ('0' :: ds).length = 8 - ds.length := by
    rw [List.length_cons]
    omega
  constructor
  · rintro ⟨ds, rfl, m, _ | ⟨hd, hrun⟩, hlen, rfl⟩
    rw [hzero] at hd
    cases hd
    rw [Nat.zero_mul, Nat.zero_add, hleft]
    exact ⟨ds, _, rfl, hrun, Nat.le_of_succ_le_succ hlen, rfl⟩
  · rintro ⟨ds, m, rfl, hrun, hlen, rfl⟩
    have hcons := DigitRun.cons hzero hrun
    rw [Nat.zero_mul, Nat.zero_add] at hcons
    exact ⟨ds, rfl, m, hcons, Nat.succ_le_succ hlen, by rw [hleft]⟩

/-! ### Characters of an amount -/

section

variable {cs : List Char} {n : Nat}

/-- Whether a character is a sign or a decimal digit. -/
def isNumeralChar (c : Char) : Bool := c == '+' || Text.isDecimal c

theorem isNumeralChar_of_digitRun (h : DigitRun 10 cs n) : ∀ c ∈ cs, isNumeralChar c = true := by
  intro c hc
  obtain ⟨d, hd⟩ := h.exists_digit? c hc
  rw [isNumeralChar, Text.isDecimal, hd]
  exact Bool.or_true _

theorem isNumeralChar_of_isNatural (h : IsNatural 10 cs n) :
    ∀ c ∈ cs, isNumeralChar c = true := by
  obtain ⟨ds, -, hrun, rfl | rfl⟩ := h
  · exact isNumeralChar_of_digitRun hrun
  · exact List.forall_mem_cons.2 ⟨rfl, isNumeralChar_of_digitRun hrun⟩

theorem isNumeralChar_of_isCoins (h : IsCoins cs n) : ∀ c ∈ cs, isNumeralChar c = true := by
  rcases h with ⟨rfl, -⟩ | h
  · nofun
  · exact isNumeralChar_of_isNatural h

theorem isNumeralChar_of_isPlaces (h : IsPlaces cs n ∨ IsSignedPlaces cs n) :
    ∀ c ∈ cs, isNumeralChar c = true := by
  rcases h with ⟨m, hrun, -⟩ | h
  · exact isNumeralChar_of_digitRun hrun
  · obtain ⟨ds, m, rfl, hrun, -⟩ := isSignedPlaces_iff.1 h
    exact List.forall_mem_cons.2 ⟨rfl, isNumeralChar_of_digitRun hrun⟩

theorem not_isNumeralChar_point : isNumeralChar '.' = false := by decide

end

/-! ### Parts of an amount -/

section

variable {cs : List Char} {n : Nat} {text : String}

theorem mapError_eq_ok_iff {ε ε' α : Type} {f : ε → ε'} {x : Except ε α} {a : α} :
    x.mapError f = .ok a ↔ x = .ok a := by
  cases x with
  | error e => exact ⟨nofun, nofun⟩
  | ok b => simp [Except.mapError]

theorem part_eq_ok_iff : part text cs = .ok n ↔ IsCoins cs n ∧ n < 2 ^ 64 := by
  cases cs with
  | nil =>
      constructor
      · rintro ⟨⟩
        exact ⟨.inl ⟨rfl, rfl⟩, by decide⟩
      · rintro ⟨⟨-, rfl⟩ | h, -⟩
        · rfl
        · exact absurd rfl h.ne_nil
  | cons c cs =>
      have hcoins : IsCoins (c :: cs) n ↔ IsNatural 10 (c :: cs) n :=
        ⟨fun h => h.resolve_left fun hnil => List.cons_ne_nil _ _ hnil.1, .inr⟩
      rw [part, List.isEmpty_cons, if_neg Bool.false_ne_true, mapError_eq_ok_iff,
        Text.natural_eq_ok_iff (by decide), hcoins]

theorem lt_of_isPlaces (h : IsPlaces cs n ∨ IsSignedPlaces cs n) : n < 2 ^ 64 := by
  have hscale {ds : List Char} {m k : Nat} (hrun : DigitRun 10 ds m) (hlen : ds.length ≤ k)
      (hk : k ≤ 9) : m * 10 ^ (k - ds.length) < 2 ^ 64 := by
    have hfull : DigitRun 10 (ds ++ List.replicate (k - ds.length) '0')
        (m * 10 ^ (k - ds.length)) :=
      (Text.digitRun_append_zeros_iff (by decide)).2 ⟨m, hrun, rfl⟩
    have hlt := hfull.lt
    rw [List.length_append, List.length_replicate, Nat.add_sub_cancel' hlen] at hlt
    have hpow : 10 ^ k ≤ 10 ^ 9 := Nat.pow_le_pow_right (by decide) hk
    omega
  rcases h with ⟨m, hrun, hlen, rfl⟩ | h
  · exact hscale hrun hlen (by decide)
  · obtain ⟨ds, m, -, hrun, hlen, rfl⟩ := isSignedPlaces_iff.1 h
    exact hscale hrun hlen (by decide)

theorem utf8Length_of_isPlaces (h : IsPlaces cs n ∨ IsSignedPlaces cs n) : utf8Length cs ≤ 9 := by
  rcases h with ⟨m, hrun, hlen, -⟩ | h
  · rw [hrun.utf8Length]
    exact hlen
  · obtain ⟨ds, m, rfl, hrun, hlen, -⟩ := isSignedPlaces_iff.1 h
    rw [Text.utf8Length_cons, hrun.utf8Length, show Char.utf8Size '+' = 1 from rfl]
    omega

/-- What is read behind the point: the places, also with a sign as the first of them. -/
theorem part_fillPlaces_eq_ok_iff (h : utf8Length cs ≤ 9) :
    part text (fillPlaces cs) = .ok n ↔ IsPlaces cs n ∨ IsSignedPlaces cs n := by
  rw [part_eq_ok_iff]
  constructor
  · rintro ⟨hcoins, -⟩
    cases cs with
    | nil =>
        have hn : n = 0 := by
          rcases hcoins with hcoins | hcoins
          · exact hcoins.2
          · exact absurd rfl hcoins.ne_nil
        subst hn
        exact .inl ⟨0, .nil, Nat.zero_le _, (Nat.zero_mul _).symm⟩
    | cons c cs =>
        rw [fillPlaces, List.isEmpty_cons, if_neg Bool.false_ne_true] at hcoins
        rcases hcoins with ⟨hnil, -⟩ | ⟨ds, -, hrun, hds | hds⟩
        · cases hnil
        · rw [← hds, Text.digitRun_append_zeros_iff (by decide)] at hrun
          obtain ⟨m, hm, rfl⟩ := hrun
          rw [hm.utf8Length] at h
          exact .inl ⟨m, hm, h, rfl⟩
        · -- the sign takes one of the nine places, so eight are left for digits
          rw [List.cons_append, List.cons.injEq] at hds
          obtain ⟨rfl, rfl⟩ := hds
          rw [Text.digitRun_append_zeros_iff (by decide)] at hrun
          obtain ⟨m, hm, rfl⟩ := hrun
          rw [Text.utf8Length_cons, hm.utf8Length, show Char.utf8Size '+' = 1 from rfl] at h
          have hleft : places - ('+' :: cs).length = 8 - cs.length := by
            rw [List.length_cons, places]
            omega
          exact .inr (isSignedPlaces_iff.2 ⟨cs, m, rfl, hm, by omega, by rw [hleft]⟩)
  · intro hplaces
    refine ⟨?_, lt_of_isPlaces hplaces⟩
    rcases hplaces with ⟨m, hrun, hlen, rfl⟩ | hsigned
    · cases cs with
      | nil =>
          cases hrun
          exact .inl ⟨rfl, Nat.zero_mul _⟩
      | cons c cs =>
          exact .inr ⟨c :: cs ++ List.replicate (places - (c :: cs).length) '0',
            List.cons_ne_nil _ _, (Text.digitRun_append_zeros_iff (by decide)).2 ⟨m, hrun, rfl⟩,
            .inl rfl⟩
    · obtain ⟨ds, m, rfl, hrun, hlen, rfl⟩ := isSignedPlaces_iff.1 hsigned
      have hleft : places - ('+' :: ds).length = 8 - ds.length := by
        rw [List.length_cons, places]
        omega
      have hne : ds ++ List.replicate (8 - ds.length) '0' ≠ [] := by
        intro hnil
        have hlength := congrArg List.length hnil
        rw [List.length_append, List.length_replicate, Nat.add_sub_cancel' hlen] at hlength
        cases hlength
      refine .inr ⟨_, hne, (Text.digitRun_append_zeros_iff (by decide)).2 ⟨m, hrun, rfl⟩, .inr ?_⟩
      rw [fillPlaces, List.isEmpty_cons, if_neg Bool.false_ne_true, hleft, List.cons_append]

end

/-! ### Coins -/

section

variable {cs : List Char} {v : UInt64} {n : Nat}

theorem splitAtPoint_of_notMem (h : '.' ∉ cs) : splitAtPoint cs = (cs, []) := by
  have hall : ∀ c ∈ cs, decide (c ≠ '.') = true := fun c hc => by
    simpa using ne_of_mem_of_not_mem hc h
  rw [splitAtPoint, List.takeWhile_eq_self_iff.2 hall, List.dropWhile_eq_nil_iff.2 hall]
  rfl

theorem splitAtPoint_append {coins : List Char} (h : '.' ∉ coins) (places : List Char) :
    splitAtPoint (coins ++ '.' :: places) = (coins, places) := by
  have hall : ∀ c ∈ coins, decide (c ≠ '.') = true := fun c hc => by
    simpa using ne_of_mem_of_not_mem hc h
  rw [splitAtPoint, List.takeWhile_append_of_pos hall, List.dropWhile_append_of_pos hall]
  simp

/-- A text has no point, or it is split at the first one. -/
theorem splitAtPoint_cases (cs : List Char) :
    '.' ∉ cs ∨ ∃ coins places, '.' ∉ coins ∧ cs = coins ++ '.' :: places := by
  induction cs with
  | nil => exact .inl List.not_mem_nil
  | cons c cs ih =>
      by_cases hc : c = '.'
      · exact .inr ⟨[], cs, List.not_mem_nil, by rw [hc, List.nil_append]⟩
      · rcases ih with hmem | ⟨coins, places, hmem, rfl⟩
        · exact .inl (List.not_mem_cons_of_ne_of_not_mem (Ne.symm hc) hmem)
        · exact .inr ⟨c :: coins, places, List.not_mem_cons_of_ne_of_not_mem (Ne.symm hc) hmem, rfl⟩

theorem point_notMem_of_isCoins (h : IsCoins cs n) : '.' ∉ cs := by
  intro hmem
  have hpoint := isNumeralChar_of_isCoins h '.' hmem
  rw [not_isNumeralChar_point] at hpoint
  cases hpoint

/-- The two parts of an amount are put together if they fit. -/
theorem total_eq_ok_iff {coins rest : Except Error Nat} {failure : Error} (unit : Nat) :
    (do
      let k ← coins
      let m ← rest
      if k * unit + m < 2 ^ 64 then return UInt64.ofNat (k * unit + m)
      else throw failure) = .ok v ↔
    ∃ k m, coins = .ok k ∧ rest = .ok m ∧ v.toNat = k * unit + m := by
  cases coins with
  | error e => exact ⟨nofun, nofun⟩
  | ok k =>
      cases rest with
      | error e => exact ⟨nofun, nofun⟩
      | ok m =>
          show (if k * unit + m < 2 ^ 64 then Except.ok (UInt64.ofNat (k * unit + m))
            else .error failure) = .ok v ↔ _
          constructor
          · intro h
            split at h
            next hlt =>
              cases h
              exact ⟨k, m, rfl, rfl, UInt64.toNat_ofNat_of_lt' hlt⟩
            next => cases h
          · rintro ⟨_, _, ⟨⟩, ⟨⟩, hv⟩
            rw [← hv, if_pos v.toNat_lt, UInt64.ofNat_toNat]

theorem decimalAmount_eq_ok_iff_of_split {coins fraction : List Char}
    (h : splitAtPoint cs = (coins, fraction)) :
    decimalAmount cs = .ok v ↔ (coins = [] → fraction ≠ []) ∧
      ∃ k m, IsCoins coins k ∧ (IsPlaces fraction m ∨ IsSignedPlaces fraction m) ∧
        v.toNat = k * 10 ^ 9 + m := by
  rw [decimalAmount, h]
  dsimp only
  by_cases hempty : coins = [] ∧ fraction = []
  · obtain ⟨rfl, rfl⟩ := hempty
    exact ⟨nofun, fun ⟨hne, _⟩ => absurd rfl (hne rfl)⟩
  have hsome : (coins = [] → fraction ≠ []) := fun hcoins hfraction => hempty ⟨hcoins, hfraction⟩
  rw [if_neg (by simpa using hempty)]
  by_cases hlen : utf8Length fraction ≤ 9
  · rw [if_neg (show ¬ utf8Length fraction > places from Nat.not_lt.2 hlen)]
    refine (total_eq_ok_iff wholeCoin).trans ?_
    simp only [wholeCoin_eq, places, part_fillPlaces_eq_ok_iff hlen, part_eq_ok_iff]
    constructor
    · rintro ⟨k, m, ⟨hk, -⟩, hm, hv⟩
      exact ⟨hsome, k, m, hk, hm, hv⟩
    · rintro ⟨-, k, m, hk, hm, hv⟩
      have hlt := v.toNat_lt
      exact ⟨k, m, ⟨hk, by omega⟩, hm, hv⟩
  · rw [if_pos (show utf8Length fraction > places from Nat.not_le.1 hlen)]
    exact ⟨nofun, fun ⟨_, _, _, _, hplaces, _⟩ => absurd (utf8Length_of_isPlaces hplaces) hlen⟩

theorem isPlaces_nil_iff : IsPlaces [] n ∨ IsSignedPlaces [] n ↔ n = 0 := by
  constructor
  · rintro (⟨m, ⟨⟩, -, rfl⟩ | ⟨ds, ⟨⟩, -⟩)
    exact Nat.zero_mul _
  · rintro rfl
    exact .inl ⟨0, .nil, Nat.zero_le _, (Nat.zero_mul _).symm⟩

/-- What is read as coins: a numeral, and with a point also what stands behind it. -/
theorem decimalAmount_eq_ok_iff :
    decimalAmount cs = .ok v ↔ (∃ n, IsNatural 10 cs n ∧ v.toNat = n * 10 ^ 9) ∨
      IsPointed IsPlaces cs v.toNat ∨ IsPointed IsSignedPlaces cs v.toNat := by
  rcases splitAtPoint_cases cs with hpoint | ⟨coins, places, hpoint, rfl⟩
  · have hnot {behind : List Char → Nat → Prop} : ¬ IsPointed behind cs v.toNat := by
      rintro ⟨coins, places, _, _, rfl, -⟩
      exact hpoint (by simp)
    rw [decimalAmount_eq_ok_iff_of_split (splitAtPoint_of_notMem hpoint)]
    constructor
    · rintro ⟨hne, k, m, hk, hm, hv⟩
      rw [isPlaces_nil_iff] at hm
      subst hm
      rcases hk with ⟨hnil, -⟩ | hk
      · exact absurd rfl (hne hnil)
      · exact .inl ⟨k, hk, hv.trans (Nat.add_zero _)⟩
    · rintro (⟨n, hn, hv⟩ | h | h)
      · exact ⟨fun hnil => absurd hnil hn.ne_nil, n, 0, .inr hn,
          isPlaces_nil_iff.2 rfl, hv.trans (Nat.add_zero _).symm⟩
      · exact absurd h hnot
      · exact absurd h hnot
  · rw [decimalAmount_eq_ok_iff_of_split (splitAtPoint_append hpoint places)]
    constructor
    · rintro ⟨hne, k, m, hk, hm | hm, hv⟩
      · exact .inr (.inl ⟨coins, places, k, m, rfl, hk, hm, hne, hv⟩)
      · exact .inr (.inr ⟨coins, places, k, m, rfl, hk, hm, hne, hv⟩)
    · -- no other point than the first has only coins before it
      have hsame {coins' places' : List Char} {k : Nat} (hk : IsCoins coins' k)
          (h : coins ++ '.' :: places = coins' ++ '.' :: places') :
          coins = coins' ∧ places = places' := by
        have hsplit := splitAtPoint_append hpoint places
        rw [h, splitAtPoint_append (point_notMem_of_isCoins hk)] at hsplit
        cases hsplit
        exact ⟨rfl, rfl⟩
      rintro (⟨n, hn, -⟩ | ⟨coins', places', k, m, h, hk, hm, hne, hv⟩ |
        ⟨coins', places', k, m, h, hk, hm, hne, hv⟩)
      · exact absurd (by simp) (point_notMem_of_isCoins (.inr hn))
      · obtain ⟨rfl, rfl⟩ := hsame hk h
        exact ⟨hne, k, m, hk, .inl hm, hv⟩
      · obtain ⟨rfl, rfl⟩ := hsame hk h
        exact ⟨hne, k, m, hk, .inr hm, hv⟩

/-! ### Units -/

theorem withoutEnding?_append (word cs : List Char) :
    withoutEnding? word (cs ++ word) = some cs := by
  rw [withoutEnding?, if_pos (List.isSuffixOf_iff_suffix.2 (List.suffix_append _ _)),
    List.length_append, Nat.add_sub_cancel, List.take_left]

theorem withoutEnding?_cases (word cs : List Char) :
    withoutEnding? word cs = none ∨ ∃ front, cs = front ++ word := by
  by_cases hword : word <:+ cs
  · obtain ⟨front, rfl⟩ := hword
    exact .inr ⟨front, rfl⟩
  · rw [← List.isSuffixOf_iff_suffix] at hword
    exact .inl (by rw [withoutEnding?, if_neg hword])

/-- A number and the unit word, with the number alone. -/
theorem isUnits_append_iff {front : List Char}
    (h : ∀ c ∈ (front ++ unitWord).head?, isBlank c = false) :
    IsUnits (front ++ unitWord) n ↔ IsNatural 10 (Text.trim front) n := by
  constructor
  · rintro ⟨number, gap, hnumber, hgap, hword⟩
    have hfront : front = number ++ gap := List.append_cancel_right hword
    have hsurrounds : Text.Surrounds front number :=
      ⟨[], gap, nofun, hgap, by rw [hfront, List.nil_append]⟩
    rw [(Text.surrounds_iff hnumber.not_isBlank).1 hsurrounds]
    exact hnumber
  · intro hnumber
    obtain ⟨before, gap, hbefore, hgap, hfront⟩ := Text.surrounds_trim front
    have hnil : before = [] := by
      cases before with
      | nil => rfl
      | cons c before =>
          have hblank := hbefore c (List.mem_cons_self ..)
          rw [h c (by rw [hfront]; rfl)] at hblank
          cases hblank
    rw [hnil, List.nil_append] at hfront
    exact ⟨Text.trim front, gap, hnumber, hgap, by rw [← hfront]; rfl⟩

theorem chars_of_decimalAmount (h : decimalAmount cs = .ok v) :
    ∀ c ∈ cs, c = '.' ∨ isNumeralChar c = true := by
  have hpointed {behind : List Char → Nat → Prop}
      (hbehind : ∀ places m, behind places m → ∀ c ∈ places, isNumeralChar c = true)
      (h : IsPointed behind cs v.toNat) : ∀ c ∈ cs, c = '.' ∨ isNumeralChar c = true := by
    obtain ⟨coins, places, k, m, rfl, hk, hm, -⟩ := h
    intro c hc
    rcases List.mem_append.1 hc with hc | hc
    · exact .inr (isNumeralChar_of_isCoins hk c hc)
    · rcases List.mem_cons.1 hc with hc | hc
      · exact .inl hc
      · exact .inr (hbehind places m hm c hc)
  rcases decimalAmount_eq_ok_iff.1 h with ⟨n, hn, -⟩ | h | h
  · exact fun c hc => .inr (isNumeralChar_of_isNatural hn c hc)
  · exact hpointed (fun _ _ hm => isNumeralChar_of_isPlaces (.inl hm)) h
  · exact hpointed (fun _ _ hm => isNumeralChar_of_isPlaces (.inr hm)) h

theorem decimalAmount_append_unitWord (front : List Char) :
    decimalAmount (front ++ unitWord) ≠ .ok v := by
  intro h
  have hword : 's' ∈ front ++ unitWord := List.mem_append_right _ (by decide)
  rcases chars_of_decimalAmount h 's' hword with hpoint | hnumeral
  · exact absurd hpoint (by decide)
  · exact absurd hnumeral (by decide)

theorem amount_eq_ok_iff {s : String} :
    amount s = .ok v ↔
      IsUnits (Text.trim s.toList) v.toNat ∨ decimalAmount (Text.trim s.toList) = .ok v := by
  rw [amount]
  have hhead : ∀ c ∈ (Text.trim s.toList).head?, isBlank c = false := Text.not_isBlank_head_trim
  revert hhead
  generalize Text.trim s.toList = cs
  intro hhead
  rcases withoutEnding?_cases unitWord cs with hnone | ⟨front, rfl⟩
  · have hunits : ¬ IsUnits cs v.toNat := by
      rintro ⟨number, gap, -, -, rfl⟩
      rw [show "lamports".toList = unitWord from rfl, withoutEnding?_append] at hnone
      cases hnone
    rw [hnone]
    exact ⟨.inr, fun h => h.resolve_left hunits⟩
  · rw [withoutEnding?_append]
    dsimp only
    rw [mapError_eq_ok_iff, Text.u64_eq_ok_iff, ← isUnits_append_iff hhead]
    exact ⟨.inl, fun h => h.resolve_right (decimalAmount_append_unitWord front)⟩

/-- Amounts are read. -/
theorem amount_of_isAmount {s : String} (h : IsAmount (Text.trim s.toList) v.toNat) :
    amount s = .ok v := by
  rw [amount_eq_ok_iff, decimalAmount_eq_ok_iff]
  revert h
  generalize v.toNat = total
  rintro (hunits | hn | hplaces)
  · exact .inl hunits
  · exact .inr (.inl ⟨_, hn, rfl⟩)
  · exact .inr (.inr (.inl hplaces))

end

/-- **Amounts are read, and amounts with a sign behind the point.**  A text is read as so much
exactly if it is an amount of so much, with blanks around it if one likes, or if it has a plus sign
right behind its point and is an amount of so much with a zero in its place.  What is too much for
64 bits is not read. -/
theorem amount_grammar (s : String) (v : UInt64) :
    amount s = .ok v ↔ IsAmount (Text.trim s.toList) v.toNat ∨
      IsPointed IsSignedPlaces (Text.trim s.toList) v.toNat := by
  rw [amount_eq_ok_iff, decimalAmount_eq_ok_iff]
  generalize v.toNat = total
  constructor
  · rintro (hunits | ⟨n, hn, rfl⟩ | hplaces | hsigned)
    · exact .inl (.units hunits)
    · exact .inl (.whole hn)
    · exact .inl (.pointed hplaces)
    · exact .inr hsigned
  · rintro ((hunits | hn | hplaces) | hsigned)
    · exact .inl hunits
    · exact .inr (.inl ⟨_, hn, rfl⟩)
    · exact .inr (.inr (.inl hplaces))
    · exact .inr (.inr (.inr hsigned))

/-- **With a sign behind the point a text is read though it is no amount**, as one coin and five
hundredths. -/
theorem sign_behind_point : amount "1.+5" = .ok 1050000000 ∧
    ∀ n, ¬ IsAmount (Text.trim "1.+5".toList) n := by
  have htrim : Text.trim "1.+5".toList = ['1', '.', '+', '5'] := by decide +kernel
  refine ⟨by decide +kernel, fun n h => ?_⟩
  rw [htrim] at h
  rcases h with ⟨number, gap, -, -, hword⟩ | hn | ⟨coins, places, k, m, hcs, hk, hplaces, -⟩
  · have hlength := congrArg List.length hword
    rw [List.length_append, show "lamports".toList.length = 8 from rfl] at hlength
    simp only [List.length_cons, List.length_nil] at hlength
    omega
  · have hpoint := isNumeralChar_of_isNatural hn '.' (by decide)
    rw [not_isNumeralChar_point] at hpoint
    cases hpoint
  · have hsplit : splitAtPoint ['1', '.', '+', '5'] = (['1'], ['+', '5']) := rfl
    rw [hcs, splitAtPoint_append (point_notMem_of_isCoins hk)] at hsplit
    cases hsplit
    obtain ⟨m, hrun, -⟩ := hplaces
    obtain ⟨d, hd⟩ := hrun.exists_digit? '+' (List.mem_cons_self ..)
    rw [Text.digit?_plus] at hd
    cases hd

end Quantity

end AssetMarket
