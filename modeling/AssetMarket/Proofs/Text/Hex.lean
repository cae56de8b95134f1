/-
**Bytes as hexadecimal text.**

The digits of a byte string are neither blank nor part of a mark, so that nothing of them is taken
off before they are read.  The reader takes letters in either case, and this is all the freedom it
leaves: what it reads are the digits of the result, once all letters are small.

Every other text is refused, and the refusal points to the first character that is no digit.  Where
bytes are read, all characters take one byte, so two of them stand between any two even positions.

Main definitions:

* `Hex.Form` — the ways to write a byte string;
* `Hex.Refuses` — why digits are refused.

Main results:

* `Hex.dropMark_eq_self` — digits have no mark in front;
* `Hex.decode_encode` — **the text of a byte string reads back**;
* `Hex.digit?_toLower` — the case of a letter does not matter;
* `Hex.decodeDigits_eq_ok_iff` — **exactly the digits of a byte string are read as it**;
* `Hex.decodeDigits_eq_error_iff` — which texts are refused for which cause;
* `Hex.exists_pair` — where in a text each byte stands;
* `Hex.text_exact` — **the forms of a byte string are read as it, and all else is refused**.
-/

import AssetMarket.Text.Hex
import AssetMarket.Proofs.Text.Blank
import AssetMarket.Proofs.Text.Numeral

set_option relaxedAutoImplicit false
set_option autoImplicit false

namespace AssetMarket

namespace Hex

open Text (isHexadecimal isBlank utf8Length)

/-! ### Digits -/

section

variable {c : Char}

theorem toNat_lt_of_isHexadecimal (h : isHexadecimal c = true) : c.toNat < 128 := by
  obtain ⟨d, hd⟩ := Option.isSome_iff_exists.1 h
  exact Text.toNat_lt_of_digit? hd

theorem ascii_digits : ∀ n < 128, isHexadecimal (Char.ofNat n) = true →
    isBlank (Char.ofNat n) = false ∧ Char.ofNat n ≠ 'x' ∧ Char.ofNat n ≠ 'X' ∧
      (Char.ofNat n).utf8Size = 1 := by
  decide

/-- A digit is not blank, is not the second character of a mark and takes one byte. -/
theorem plain_of_isHexadecimal (h : isHexadecimal c = true) :
    isBlank c = false ∧ c ≠ 'x' ∧ c ≠ 'X' ∧ c.utf8Size = 1 := by
  have hplain := ascii_digits c.toNat (toNat_lt_of_isHexadecimal h)
  rw [Char.ofNat_toNat] at hplain
  exact hplain h

end

section

variable {cs : List Char}

/-- Digits have no mark in front. -/
theorem dropMark_eq_self (h : ∀ c ∈ cs, isHexadecimal c = true) : dropMark cs = cs := by
  match cs, h with
  | [], _ => rfl
  | [c], _ => rw [dropMark] <;> simp
  | c :: c' :: cs, h =>
      obtain ⟨-, hx, hX, -⟩ := plain_of_isHexadecimal (h c' (by simp))
      rw [dropMark]
      · rintro rest hrest
        injection hrest with _ hrest
        exact hx (List.cons.inj hrest).1
      · rintro rest hrest
        injection hrest with _ hrest
        exact hX (List.cons.inj hrest).1

theorem utf8Length_eq_length (h : ∀ c ∈ cs, isHexadecimal c = true) :
    utf8Length cs = cs.length := by
  induction cs with
  | nil => rfl
  | cons c cs ih =>
      obtain ⟨-, -, -, hsize⟩ := plain_of_isHexadecimal (h c (List.mem_cons_self ..))
      rw [Text.utf8Length_cons, hsize, ih fun c hc => h c (List.mem_cons_of_mem _ hc),
        List.length_cons, Nat.add_comm]

end

theorem isHexadecimal_of_mem_digits {bs : Bytes} : ∀ c ∈ digits bs, isHexadecimal c = true := by
  intro c hc
  rw [digits, List.mem_flatMap] at hc
  obtain ⟨b, -, hc⟩ := hc
  have hb := b.toNat_lt
  have hdigit {n : Nat} (hn : n < 16) : isHexadecimal (digit n) = true := by
    rw [isHexadecimal, digit?_digit n hn]
    rfl
  rw [byteDigits, List.mem_cons, List.mem_singleton] at hc
  rcases hc with rfl | rfl
  · exact hdigit (by omega)
  · exact hdigit (by omega)

/-! ### Reading back -/

/-- **The text of a byte string reads back.** -/
theorem decode_encode (bs : Bytes) : decode (encode bs) = .ok bs := by
  have hdigits : ∀ c ∈ digits bs, isHexadecimal c = true := isHexadecimal_of_mem_digits
  have htrim : Text.trim (digits bs) = digits bs :=
    Text.trim_eq_self _ fun c hc => (plain_of_isHexadecimal (hdigits c hc)).1
  have heven : ¬ utf8Length (digits bs) % 2 ≠ 0 := by
    rw [utf8Length_eq_length hdigits, length_digits]
    omega
  rw [decode, encode, String.toList_ofList, htrim, dropMark_eq_self hdigits, decodeDigits,
    if_neg heven, if_pos (List.all_eq_true.2 hdigits), decodePairs_digits]

/-! ### Letter case -/

theorem toLower_of_le {c : Char} (h : 128 ≤ c.toNat) : c.toLower = c := by
  have hnot : ¬ (c.val ≥ 'A'.val ∧ c.val ≤ 'Z'.val) := by
    rintro ⟨-, hle⟩
    have hnat : c.toNat ≤ 'Z'.toNat := hle
    exact absurd (Nat.le_trans h hnat) (by decide)
  exact dif_neg hnot

theorem ascii_toLower : ∀ n < 128,
    Text.alphanumeric? (Char.ofNat n).toLower = Text.alphanumeric? (Char.ofNat n) ∧
      (Text.digit? 16 (Char.ofNat n)).all
        (fun d => (Char.ofNat n).toLower == digit d) = true := by
  decide +kernel

/-- The case of a letter does not matter to its value as a digit. -/
theorem digit?_toLower (base : Nat) (c : Char) :
    Text.digit? base c.toLower = Text.digit? base c := by
  rcases Nat.lt_or_ge c.toNat 128 with hlt | hge
  · have halphanumeric := (ascii_toLower c.toNat hlt).1
    rw [Char.ofNat_toNat] at halphanumeric
    rw [Text.digit?, halphanumeric, Text.digit?]
  · rw [toLower_of_le hge]

/-- In lower case a digit is the digit that is written for its value. -/
theorem toLower_of_digit? {c : Char} {d : Nat} (h : Text.digit? 16 c = some d) :
    c.toLower = digit d := by
  have hascii := (ascii_toLower c.toNat
    (toNat_lt_of_isHexadecimal (by rw [isHexadecimal, h]; rfl))).2
  rw [Char.ofNat_toNat, h] at hascii
  exact eq_of_beq hascii

theorem isHexadecimal_toLower (c : Char) : isHexadecimal c.toLower = isHexadecimal c := by
  rw [isHexadecimal, digit?_toLower, isHexadecimal]

theorem decodePairs_map_toLower (cs : List Char) :
    decodePairs (cs.map Char.toLower) = decodePairs cs := by
  match cs with
  | [] => rfl
  | [_] => rfl
  | high :: low :: rest =>
      rw [List.map_cons, List.map_cons, decodePairs, decodePairs, digit?_toLower, digit?_toLower,
        decodePairs_map_toLower rest]

theorem map_toLower_eq_digits {cs : List Char} (h : ∀ c ∈ cs, isHexadecimal c = true)
    (heven : cs.length % 2 = 0) : cs.map Char.toLower = digits (decodePairs cs) := by
  match cs, h, heven with
  | [], _, _ => rfl
  | high :: low :: rest, h, heven =>
      simp only [List.forall_mem_cons] at h
      obtain ⟨d, hd⟩ := Option.isSome_iff_exists.1 h.1
      obtain ⟨e, he⟩ := Option.isSome_iff_exists.1 h.2.1
      have hdlt := Text.digit?_lt hd
      have helt := Text.digit?_lt he
      have hbyte : (UInt8.ofNat (d * 16 + e)).toNat = d * 16 + e :=
        UInt8.toNat_ofNat_of_lt' (show d * 16 + e < 256 by omega)
      have hhigh : (d * 16 + e) / 16 = d := by omega
      have hlow : (d * 16 + e) % 16 = e := by omega
      rw [List.map_cons, List.map_cons, decodePairs, hd, he, Option.getD_some, Option.getD_some,
        digits_cons, hbyte, hhigh, hlow, toLower_of_digit? hd, toLower_of_digit? he,
        map_toLower_eq_digits h.2.2 (by simp only [List.length_cons] at heven; omega)]

/-! ### Exactly the digits are read -/

section

variable {cs : List Char} {bs : Bytes}

theorem isHexadecimal_of_map_toLower (h : cs.map Char.toLower = digits bs) :
    ∀ c ∈ cs, isHexadecimal c = true := by
  intro c hc
  rw [← isHexadecimal_toLower]
  exact isHexadecimal_of_mem_digits _ (h ▸ List.mem_map_of_mem hc)

theorem length_of_map_toLower (h : cs.map Char.toLower = digits bs) :
    cs.length = 2 * bs.length := by
  have hlen := congrArg List.length h
  rwa [List.length_map, length_digits] at hlen

/-- **Digits are read as the byte string of which they are the digits** in either case, and nothing
else is read. -/
theorem decodeDigits_eq_ok_iff : decodeDigits cs = .ok bs ↔ cs.map Char.toLower = digits bs := by
  constructor
  · intro h
    rw [decodeDigits] at h
    split at h
    next => cases h
    next heven =>
      split at h
      next hall =>
        cases h
        have hmem : ∀ c ∈ cs, isHexadecimal c = true := List.all_eq_true.1 hall
        rw [utf8Length_eq_length hmem] at heven
        exact map_toLower_eq_digits hmem (by omega)
      next => cases h
  · intro h
    have hmem := isHexadecimal_of_map_toLower h
    have heven : ¬ utf8Length cs % 2 ≠ 0 := by
      rw [utf8Length_eq_length hmem, length_of_map_toLower h]
      omega
    rw [decodeDigits, if_neg heven, if_pos (List.all_eq_true.2 hmem), ← decodePairs_map_toLower, h,
      decodePairs_digits]

/-- At most one mark is taken off. -/
theorem dropMark_cases (cs : List Char) :
    dropMark cs = cs ∨ ∃ mark, (mark = 'x' ∨ mark = 'X') ∧ cs = '0' :: mark :: dropMark cs := by
  match cs with
  | [] => exact .inl rfl
  | [c] => exact .inl (by rw [dropMark] <;> simp)
  | first :: second :: rest =>
      by_cases hmark : first = '0' ∧ (second = 'x' ∨ second = 'X')
      · obtain ⟨rfl, rfl | rfl⟩ := hmark
        · exact .inr ⟨'x', .inl rfl, rfl⟩
        · exact .inr ⟨'X', .inr rfl, rfl⟩
      · refine .inl ?_
        rw [dropMark]
        · rintro rest' h
          cases h
          exact hmark ⟨rfl, .inl rfl⟩
        · rintro rest' h
          cases h
          exact hmark ⟨rfl, .inr rfl⟩

/-! ### Forms of a byte string -/

/-- The ways to write a byte string: its digits in letters of either case, with a mark in front or
without. -/
inductive Form (bs : Bytes) : List Char → Prop where
  | digits {ds : List Char} : ds.map Char.toLower = digits bs → Form bs ds
  | marked {mark : Char} {ds : List Char} : mark = 'x' ∨ mark = 'X' →
      ds.map Char.toLower = digits bs → Form bs ('0' :: mark :: ds)

theorem form_iff : Form bs cs ↔ (dropMark cs).map Char.toLower = digits bs := by
  constructor
  · intro h
    cases h with
    | digits hdigits => rwa [dropMark_eq_self (isHexadecimal_of_map_toLower hdigits)]
    | marked hmark hdigits =>
        rcases hmark with rfl | rfl
        · exact hdigits
        · exact hdigits
  · intro h
    rcases dropMark_cases cs with hself | ⟨mark, hmark, hcs⟩
    · exact .digits (hself ▸ h)
    · rw [hcs]
      exact .marked hmark h

theorem Form.not_isBlank (h : Form bs cs) : ∀ c ∈ cs, isBlank c = false := by
  have hplain {ds : List Char} (hdigits : ds.map Char.toLower = Hex.digits bs) :
      ∀ c ∈ ds, isBlank c = false := fun c hc =>
    (plain_of_isHexadecimal (isHexadecimal_of_map_toLower hdigits c hc)).1
  cases h with
  | digits hdigits => exact hplain hdigits
  | marked hmark hdigits =>
      refine List.forall_mem_cons.2 ⟨by decide, List.forall_mem_cons.2 ⟨?_, hplain hdigits⟩⟩
      rcases hmark with rfl | rfl
      · decide
      · decide

theorem decode_eq_ok_iff {s : String} : decode s = .ok bs ↔ Form bs (Text.trim s.toList) := by
  rw [decode, decodeDigits_eq_ok_iff, form_iff]

/-! ### Refusals -/

/-- Why digits are refused: their bytes do not pair up, or some character is no digit, and then the
first one that is none is pointed to. -/
inductive Refuses (cs : List Char) : Error → Prop where
  | oddLength : utf8Length cs % 2 = 1 → Refuses cs (.oddLength (utf8Length cs))
  | invalidCharacter {front back : List Char} {c : Char} : utf8Length cs % 2 = 0 →
      cs = front ++ c :: back → (∀ d ∈ front, isHexadecimal d = true) → isHexadecimal c = false →
      Refuses cs (.invalidCharacter (utf8Length front))

theorem takeWhile_isHexadecimal {front back : List Char} {c : Char}
    (hfront : ∀ d ∈ front, isHexadecimal d = true) (hc : isHexadecimal c = false) :
    (front ++ c :: back).takeWhile isHexadecimal = front := by
  refine Text.takeWhile_append_of_stops hfront ?_
  rintro d ⟨⟩
  exact hc

theorem exists_split_of_all_eq_false (h : cs.all isHexadecimal = false) :
    ∃ front c back, cs = front ++ c :: back ∧ (∀ d ∈ front, isHexadecimal d = true) ∧
      isHexadecimal c = false := by
  have hsplit : cs.takeWhile isHexadecimal ++ cs.dropWhile isHexadecimal = cs :=
    List.takeWhile_append_dropWhile
  cases hrest : cs.dropWhile isHexadecimal with
  | nil =>
      rw [List.dropWhile_eq_nil_iff, ← List.all_eq_true, h] at hrest
      cases hrest
  | cons c back =>
      have hstop := List.head?_dropWhile_not isHexadecimal cs
      rw [hrest] at hstop hsplit
      exact ⟨_, c, back, hsplit.symm, fun d => List.mem_takeWhile_imp, hstop⟩

theorem decodeDigits_eq_error_iff {e : Error} : decodeDigits cs = .error e ↔ Refuses cs e := by
  rw [decodeDigits]
  constructor
  · intro h
    split at h
    next hodd =>
      cases h
      exact .oddLength (by omega)
    next heven =>
      split at h
      next => cases h
      next hall =>
        cases h
        obtain ⟨front, c, back, hcs, hfront, hc⟩ :=
          exists_split_of_all_eq_false (Bool.eq_false_iff.2 hall)
        rw [hcs, takeWhile_isHexadecimal hfront hc, ← hcs]
        exact .invalidCharacter (by omega) hcs hfront hc
  · intro h
    cases h with
    | oddLength hodd => rw [if_pos (by omega)]
    | @invalidCharacter front back c heven hcs hfront hc =>
        have hall : ¬ cs.all isHexadecimal = true := by
          rw [hcs, List.all_append, List.all_cons, hc]
          simp
        rw [if_neg (by omega), if_neg hall, hcs, takeWhile_isHexadecimal hfront hc]

/-! ### Where the bytes stand -/

/-- Each byte is read from two digits, behind the digits of the bytes before. -/
theorem exists_pair (h : cs.map Char.toLower = digits bs) {i : Nat} {b : UInt8}
    (hb : bs[i]? = some b) : ∃ front high low back, cs = front ++ high :: low :: back ∧
      front.length = 2 * i ∧ Text.DigitRun 16 [high, low] b.toNat := by
  -- on the bytes: the first one takes two digits, and all others stand two places further
  induction bs generalizing cs i with
  | nil => cases hb
  | cons first bs ih =>
      rw [digits_cons] at h
      obtain ⟨high, _, rfl, hhigh, hrest⟩ := List.map_eq_cons_iff.1 h
      obtain ⟨low, rest, rfl, hlow, hrest⟩ := List.map_eq_cons_iff.1 hrest
      cases i with
      | zero =>
          have hlt := first.toNat_lt
          have hvalue : first.toNat / 16 * 16 + (first.toNat % 16) = first.toNat := by omega
          rw [List.getElem?_cons_zero, Option.some.injEq] at hb
          subst hb
          have hhighDigit : Text.digit? 16 high = some (first.toNat / 16) := by
            rw [← digit?_toLower, hhigh, digit?_digit _ (by omega)]
          have hlowDigit : Text.digit? 16 low = some (first.toNat % 16) := by
            rw [← digit?_toLower, hlow, digit?_digit _ (by omega)]
          refine ⟨[], high, low, rest, rfl, rfl, ?_⟩
          simpa [hvalue] using Text.DigitRun.cons hhighDigit (.cons hlowDigit .nil)
      | succ i =>
          obtain ⟨front, high', low', back, rfl, hlength, hrun⟩ := ih hrest hb
          refine ⟨high :: low :: front, high', low', back, rfl, ?_, hrun⟩
          rw [List.length_cons, List.length_cons, hlength]
          omega

end

/-- **The forms of a byte string are read as it, and all else is refused.**  The digits of a byte
string read back.  A text is read as a byte string exactly if it is one of its forms with blanks
around it; every other text is refused, for digits that do not pair up or for the first character
that is no digit.  Where bytes are read, the byte at an index stands between two even positions of
the text, and there are two characters of one byte between them, so that no character is cut. -/
theorem text_exact :
    (∀ bs : Bytes, decode (encode bs) = .ok bs) ∧
    (∀ (s : String) (bs : Bytes),
      decode s = .ok bs ↔ ∃ cs, Form bs cs ∧ Text.Surrounds s.toList cs) ∧
    (∀ s : String, (∀ bs cs, Form bs cs → ¬ Text.Surrounds s.toList cs) →
      ∃ e, decode s = .error e ∧ Refuses (dropMark (Text.trim s.toList)) e) ∧
    (∀ (s : String) (e : Error),
      decode s = .error e ↔ Refuses (dropMark (Text.trim s.toList)) e) ∧
    ∀ (s : String) (bs : Bytes), decode s = .ok bs →
      utf8Length (dropMark (Text.trim s.toList)) = 2 * bs.length ∧
      ∀ (i : Nat) (b : UInt8), bs[i]? = some b → ∃ front high low back,
        dropMark (Text.trim s.toList) = front ++ high :: low :: back ∧
          utf8Length front = 2 * i ∧ high.utf8Size = 1 ∧ low.utf8Size = 1 ∧
          Text.DigitRun 16 [high, low] b.toNat := by
  have hread (s : String) (bs : Bytes) :
      decode s = .ok bs ↔ ∃ cs, Form bs cs ∧ Text.Surrounds s.toList cs := by
    rw [decode_eq_ok_iff]
    constructor
    · exact fun h => ⟨_, h, Text.surrounds_trim _⟩
    · rintro ⟨cs, hform, hsurrounds⟩
      rwa [(Text.surrounds_iff hform.not_isBlank).1 hsurrounds]
  refine ⟨decode_encode, hread, fun s hno => ?_, fun s e => decodeDigits_eq_error_iff,
    fun s bs h => ?_⟩
  · cases hs : decode s with
    | error e => exact ⟨e, rfl, decodeDigits_eq_error_iff.1 hs⟩
    | ok bs =>
        obtain ⟨cs, hform, hsurrounds⟩ := (hread s bs).1 hs
        exact absurd hsurrounds (hno bs cs hform)
  · have hdigits := form_iff.1 (decode_eq_ok_iff.1 h)
    have hmem := isHexadecimal_of_map_toLower hdigits
    refine ⟨by rw [utf8Length_eq_length hmem, length_of_map_toLower hdigits], fun i b hb => ?_⟩
    obtain ⟨front, high, low, back, hcs, hlength, hrun⟩ := exists_pair hdigits hb
    rw [hcs] at hmem
    simp only [List.forall_mem_append, List.forall_mem_cons] at hmem
    obtain ⟨hfront, hhigh, hlow, -⟩ := hmem
    exact ⟨front, high, low, back, hcs, by rw [utf8Length_eq_length hfront, hlength],
      (plain_of_isHexadecimal hhigh).2.2.2, (plain_of_isHexadecimal hlow).2.2.2, hrun⟩

/-- A marked form with blanks around it, where its second byte stands, and a text of two bytes that
is one character. -/
theorem text_exact_marked : decode "\u00a00X0aFf\n" = .ok [10, 255] ∧
    (∃ front high low back, dropMark (Text.trim "\u00a00X0aFf\n".toList)
      = front ++ high :: low :: back ∧ utf8Length front = 2 ∧
        Text.DigitRun 16 [high, low] 255) ∧
    decode "\u00e9" = .error (.invalidCharacter 0) := by
  obtain ⟨-, hread, -, hrefused, hpairs⟩ := text_exact
  have hdigits : ['0', 'a', 'F', 'f'].map Char.toLower = digits [10, 255] := by decide
  have hmarked : decode "\u00a00X0aFf\n" = .ok [10, 255] :=
    (hread _ _).2 ⟨_, .marked (.inr rfl) hdigits, ['\u00a0'], ['\n'],
      List.forall_mem_singleton.2 rfl, List.forall_mem_singleton.2 rfl, by decide +kernel⟩
  refine ⟨hmarked, ?_, ?_⟩
  · obtain ⟨front, high, low, back, hcs, hlength, -, -, hrun⟩ := (hpairs _ _ hmarked).2 1 255 rfl
    exact ⟨front, high, low, back, hcs, hlength, hrun⟩
  · have hchars : dropMark (Text.trim "\u00e9".toList) = [] ++ '\u00e9' :: [] := by decide +kernel
    exact (hrefused _ _).2 (.invalidCharacter (by decide +kernel) hchars nofun (by decide))

end Hex

end AssetMarket
