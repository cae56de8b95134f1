/-
**Which texts are durations.**

A duration is an integer, and the letter of a unit may stand behind it.  The last character of a
text is taken for such a letter only if it is an ASCII letter, and no integer ends in one; so there
is one way to cut a text, and it is cut between two characters.

The product of the integer and the seconds of its unit has to fit into 63 bits.  It is worked out
exactly, so it never wraps, and it is not looked at where the integer is below zero.

Main definitions:

* `Quantity.IsTimeUnit` — what may stand behind the integer, and how many seconds it stands for;
* `Quantity.IsDuration` — an integer with a unit behind it.

Main results:

* `Quantity.splitUnit_cases` — where a text is cut;
* `Quantity.isDuration_iff` — a text is a duration if the parts it is cut into are right;
* `Quantity.duration_grammar` — **exactly the durations that fit are read**.
-/

import AssetMarket.Proofs.Text.Quantity

set_option relaxedAutoImplicit false
set_option autoImplicit false

namespace AssetMarket

namespace Quantity

open Text (IsInteger DigitRun)

/-- What may stand behind the integer of a duration, and how many seconds it stands for: nothing, or
the letter of a unit. -/
inductive IsTimeUnit : List Char → Nat → Prop where
  | none : IsTimeUnit [] 1
  | second : IsTimeUnit ['s'] 1
  | minute : IsTimeUnit ['m'] 60
  | hour : IsTimeUnit ['h'] 3600
  | day : IsTimeUnit ['d'] 86400

/-- An integer with a unit behind it, and how many seconds the unit stands for. -/
def IsDuration (cs : List Char) (n : Int) (scale : Nat) : Prop :=
  ∃ number unit, cs = number ++ unit ∧ IsInteger 10 number n ∧ IsTimeUnit unit scale

/-! ### Letters -/

section

variable {cs : List Char} {n : Int} {scale : Nat}

theorem ascii_isAlpha : ∀ n < 128, Text.isDecimal (Char.ofNat n) = true →
    (Char.ofNat n).isAlpha = false := by
  decide

/-- A decimal digit is no letter. -/
theorem not_isAlpha_of_digit? {c : Char} {d : Nat} (h : Text.digit? 10 c = some d) :
    c.isAlpha = false := by
  have hdecimal : Text.isDecimal c = true := by
    rw [Text.isDecimal, h]
    rfl
  have hplain := ascii_isAlpha c.toNat (Text.toNat_lt_of_digit? h)
  rw [Char.ofNat_toNat] at hplain
  exact hplain hdecimal

/-- There is no letter in an integer. -/
theorem not_isAlpha_of_isInteger (h : IsInteger 10 cs n) : ∀ c ∈ cs, c.isAlpha = false := by
  have hdigits {ds : List Char} {m : Nat} (hrun : DigitRun 10 ds m) :
      ∀ c ∈ ds, c.isAlpha = false := by
    intro c hc
    obtain ⟨d, hd⟩ := hrun.exists_digit? c hc
    exact not_isAlpha_of_digit? hd
  rcases h with ⟨ds, -, hrun, rfl | rfl⟩ | ⟨-, hrun⟩
  · exact hdigits hrun
  · exact List.forall_mem_cons.2 ⟨rfl, hdigits hrun⟩
  · exact List.forall_mem_cons.2 ⟨rfl, hdigits hrun⟩

theorem unitSeconds?_eq_some_iff {c : Char} :
    unitSeconds? c = some scale ↔ IsTimeUnit [c] scale := by
  constructor
  · intro h
    unfold unitSeconds? at h
    split at h
    · cases h; exact .second
    · cases h; exact .minute
    · cases h; exact .hour
    · cases h; exact .day
    · cases h
  · rintro (_ | _ | _ | _ | _)
    · rfl
    · rfl
    · rfl
    · rfl

/-- A unit is not shorter than a second. -/
theorem le_mul_of_isDuration (h : IsDuration cs n scale) (hn : 0 ≤ n) : n ≤ n * scale := by
  obtain ⟨number, unit, -, -, hunit⟩ := h
  cases hunit <;> omega

/-- A letter takes one byte. -/
theorem utf8Size_of_isAlpha {c : Char} (h : c.isAlpha = true) : c.utf8Size = 1 := by
  rw [Char.utf8Size_eq_one_iff]
  rcases Bool.or_eq_true_iff.1 h with hupper | hlower
  · have hbounds : 'A'.val ≤ c.val ∧ c.val ≤ 'Z'.val := of_decide_eq_true hupper
    exact UInt32.le_trans hbounds.2 (by decide)
  · have hbounds : (decide ('a'.val ≤ c.val) && decide (c.val ≤ 'z'.val)) = true := hlower
    have hle := of_decide_eq_true (Bool.and_eq_true_iff.1 hbounds).2
    exact UInt32.le_trans hle (by decide)

/-! ### Cutting off the unit -/

/-- A text is cut in front of its last character if that is a letter, and otherwise not at all. -/
theorem splitUnit_cases (cs : List Char) :
    (∃ front c, cs = front ++ [c] ∧ c.isAlpha = true ∧ splitUnit cs = (front, c)) ∨
      (∀ front c, cs = front ++ [c] → c.isAlpha = false) ∧ splitUnit cs = (cs, 's') := by
  rcases List.eq_nil_or_concat cs with rfl | ⟨front, c, rfl⟩
  · exact .inr ⟨fun front c h => absurd h (by simp), rfl⟩
  · rw [List.concat_eq_append, splitUnit, List.getLast?_concat, List.dropLast_concat]
    dsimp only
    cases halpha : c.isAlpha with
    | true => exact .inl ⟨front, c, rfl, halpha, rfl⟩
    | false =>
        refine .inr ⟨fun front' c' h => ?_, rfl⟩
        obtain ⟨-, rfl⟩ := List.append_singleton_inj.1 h
        exact halpha

/-- A text is a duration if what it is cut into are an integer and a unit. -/
theorem isDuration_iff :
    IsDuration cs n scale ↔
      IsInteger 10 (splitUnit cs).1 n ∧ unitSeconds? (splitUnit cs).2 = some scale := by
  rcases splitUnit_cases cs with ⟨front, c, rfl, halpha, hsplit⟩ | ⟨hlast, hsplit⟩
  · rw [hsplit, unitSeconds?_eq_some_iff]
    constructor
    · rintro ⟨number, unit, hcs, hnumber, hunit⟩
      cases hunit with
      | none =>
          -- the integer would end in a letter
          rw [List.append_nil] at hcs
          have hplain := not_isAlpha_of_isInteger hnumber c (by rw [← hcs]; simp)
          rw [hplain] at halpha
          cases halpha
      | second | minute | hour | day =>
          obtain ⟨rfl, rfl⟩ := List.append_singleton_inj.1 hcs
          exact ⟨hnumber, by constructor⟩
    · rintro ⟨hnumber, hunit⟩
      exact ⟨front, [c], rfl, hnumber, hunit⟩
  · rw [hsplit]
    constructor
    · rintro ⟨number, unit, hcs, hnumber, hunit⟩
      cases hunit with
      | none =>
          rw [List.append_nil] at hcs
          exact ⟨hcs ▸ hnumber, rfl⟩
      | second | minute | hour | day => exact absurd (hlast _ _ hcs) (by decide)
    · rintro ⟨hnumber, hunit⟩
      cases hunit
      exact ⟨cs, [], (List.append_nil cs).symm, hnumber, .none⟩

end

/-! ### Reading -/

section

variable {s : String} {v : Int64}

theorem toInt_eq_iff {z : Int} (hlow : 0 ≤ z) (hhigh : z < 2 ^ 63) :
    v.toInt = z ↔ Int64.ofInt z = v := by
  constructor
  · rintro rfl
    exact Int64.ofInt_toInt v
  · rintro rfl
    exact Int64.toInt_ofInt_of_le (by omega) hhigh

/-- A duration is read if its parts are, if it is not negative and if it fits. -/
theorem duration_eq_ok_iff_of_split {number : List Char} {letter : Char}
    (h : splitUnit (Text.trim s.toList) = (number, letter)) :
    duration s = .ok v ↔ ∃ n scale, Text.integer 10 (2 ^ 63) number = .ok n ∧
      unitSeconds? letter = some scale ∧ 0 ≤ n ∧ n * scale < 2 ^ 63 ∧
      v.toInt = n * scale := by
  rw [duration, h]
  dsimp only
  cases Text.integer 10 (2 ^ 63) number with
  | error e => exact ⟨nofun, nofun⟩
  | ok n =>
      cases unitSeconds? letter with
      | none => exact ⟨nofun, nofun⟩
      | some scale =>
          simp only [Except.mapError, Option.elim_some, pure, Except.pure, bind, Except.bind]
          by_cases hnegative : n < 0
          · rw [if_pos hnegative]
            refine ⟨nofun, ?_⟩
            rintro ⟨_, _, ⟨⟩, ⟨⟩, hn, -⟩
            omega
          · rw [if_neg hnegative]
            have hn : 0 ≤ n := Int.not_lt.1 hnegative
            have hproduct : 0 ≤ n * scale := Int.mul_nonneg hn (Int.natCast_nonneg scale)
            by_cases hfits : n * scale < 2 ^ 63
            · rw [if_pos hfits, Except.ok.injEq]
              constructor
              · intro hv
                exact ⟨n, scale, rfl, rfl, hn, hfits, (toInt_eq_iff hproduct hfits).2 hv⟩
              · rintro ⟨_, _, ⟨⟩, ⟨⟩, -, -, hv⟩
                exact (toInt_eq_iff hproduct hfits).1 hv
            · rw [if_neg hfits]
              refine ⟨nofun, ?_⟩
              rintro ⟨_, _, ⟨⟩, ⟨⟩, -, hlt, -⟩
              exact absurd hlt hfits

theorem duration_eq_ok_iff :
    duration s = .ok v ↔ ∃ n scale, IsDuration (Text.trim s.toList) n scale ∧
      0 ≤ n ∧ n ≤ 2 ^ 63 - 1 ∧ n * scale ≤ 2 ^ 63 - 1 ∧ v.toInt = n * scale := by
  rw [duration_eq_ok_iff_of_split rfl]
  simp only [isDuration_iff, Text.integer_eq_ok_iff (show 0 < 2 ^ 63 by decide)]
  constructor
  · rintro ⟨n, scale, ⟨hnumber, -, hlt⟩, hunit, hn, hfits, hv⟩
    exact ⟨n, scale, ⟨hnumber, hunit⟩, hn, by omega, by omega, hv⟩
  · rintro ⟨n, scale, ⟨hnumber, hunit⟩, hn, hle, hfits, hv⟩
    exact ⟨n, scale, ⟨hnumber, by omega, by omega⟩, hunit, hn, by omega, hv⟩

/-- An integer that is not below zero is read as so many seconds. -/
theorem duration_of_isInteger (hv : 0 ≤ v.toInt)
    (h : IsInteger 10 (Text.trim s.toList) v.toInt) : duration s = .ok v := by
  have hhigh := v.toInt_lt
  exact duration_eq_ok_iff.2 ⟨v.toInt, 1, ⟨_, [], (List.append_nil _).symm, h, .none⟩, hv,
    by omega, by omega, (Int.mul_one _).symm⟩

end

/-- **Exactly the durations that fit are read.**  A text is read as so many seconds exactly if
without the blanks around it it is an integer with a unit behind it, the integer is not below zero,
neither it nor its product with the seconds of the unit is beyond 63 bits, and that product is the
answer.  So whatever is such a text is read, and no answer is negative.  What is taken for the
integer ends between two characters of the text, and behind it stands nothing or a letter of one
byte. -/
theorem duration_grammar (s : String) :
    (∀ v : Int64, duration s = .ok v ↔ ∃ n scale, IsDuration (Text.trim s.toList) n scale ∧
      0 ≤ n ∧ n ≤ 2 ^ 63 - 1 ∧ n * scale ≤ 2 ^ 63 - 1 ∧ v.toInt = n * scale) ∧
    (∀ n scale, IsDuration (Text.trim s.toList) n scale → 0 ≤ n → n * scale ≤ 2 ^ 63 - 1 →
      ∃ v, duration s = .ok v) ∧
    (∀ v, duration s = .ok v → 0 ≤ v.toInt) ∧
    ∀ number letter, splitUnit (Text.trim s.toList) = (number, letter) →
      (String.ofList number).rawEndPos.IsValid (String.ofList (Text.trim s.toList)) ∧
        (Text.trim s.toList = number ∨
          Text.trim s.toList = number ++ [letter] ∧ letter.utf8Size = 1) := by
  refine ⟨fun v => duration_eq_ok_iff, ?_, ?_, ?_⟩
  · intro n scale hduration hn hfits
    have hle := le_mul_of_isDuration hduration hn
    have hproduct : (Int64.ofInt (n * scale)).toInt = n * scale :=
      Int64.toInt_ofInt_of_le (by omega) (by omega)
    exact ⟨_, duration_eq_ok_iff.2 ⟨n, scale, hduration, hn, by omega, hfits, hproduct⟩⟩
  · intro v hv
    obtain ⟨n, scale, hduration, hn, -, -, heq⟩ := duration_eq_ok_iff.1 hv
    rw [heq]
    exact Int.mul_nonneg hn (Int.natCast_nonneg scale)
  · intro number letter hsplit
    rcases splitUnit_cases (Text.trim s.toList) with ⟨front, c, hcs, halpha, hcut⟩ | ⟨-, hcut⟩
    · rw [hcut] at hsplit
      cases hsplit
      refine ⟨?_, .inr ⟨hcs, utf8Size_of_isAlpha halpha⟩⟩
      rw [String.Pos.Raw.isValid_iff_exists_append, hcs, String.ofList_append]
      exact ⟨_, _, rfl, rfl⟩
    · rw [hcut] at hsplit
      cases hsplit
      exact ⟨String.Pos.Raw.isValid_rawEndPos, .inl rfl⟩

/-- Two days, the longest time in seconds, and a text that ends in a character of three bytes. -/
theorem duration_grammar_days : duration "\u00a0+2d " = .ok 172800 ∧
    (∃ v, duration "9223372036854775807" = .ok v ∧ 0 ≤ v.toInt) ∧
    (String.ofList ['5', '\u20ac']).rawEndPos.IsValid
      (String.ofList (Text.trim "5\u20ac".toList)) := by
  have hdays : Text.trim "\u00a0+2d ".toList = ['+', '2'] ++ ['d'] := by decide +kernel
  have hlongest : Text.trim "9223372036854775807".toList = "9223372036854775807".toList ++ [] := by
    decide +kernel
  have htwo : IsInteger 10 ['+', '2'] 2 :=
    ((Text.integer_eq_ok_iff (show 0 < 2 ^ 63 by decide)).1 rfl).1
  have hmost : IsInteger 10 "9223372036854775807".toList (2 ^ 63 - 1) :=
    ((Text.integer_eq_ok_iff (show 0 < 2 ^ 63 by decide)).1 (by decide +kernel)).1
  refine ⟨?_, ?_, ?_⟩
  · exact ((duration_grammar _).1 172800).2 ⟨2, 86400, ⟨_, _, hdays, htwo, .day⟩, by decide,
      by decide, by decide, by decide⟩
  · obtain ⟨-, hexists, hpositive, -⟩ := duration_grammar "9223372036854775807"
    obtain ⟨v, hv⟩ := hexists _ _ ⟨_, _, hlongest, hmost, .none⟩ (by decide) (by decide)
    exact ⟨v, hv, hpositive v hv⟩
  · exact ((duration_grammar "5\u20ac").2.2.2 _ 's' (by decide +kernel)).1

end Quantity

end AssetMarket
