/-
**Texts in base 58.**

The first characters of a text in base 58 are the highest digits of a number.  They do not change as
long as the number stays between two multiples of a power of 58, which is why the last bytes of a
byte string, if they are few against the first, have no influence on the head of its text.

A text is read back as the byte string that was written, since leading zero bytes and the digits of
the number after them are told apart by the first digit that is not zero.  The writer takes byte
strings of any length, the reader has room for 132 bytes.  The text of a longer byte string is refused
if the bytes after the leading zeros are too many by themselves; if it is only together with the
leading zeros that they are, the reader breaks down on it.

Main definitions:

* `Base58.numeral` — the characters of a number;
* `Base58.significant` — a byte string without its leading zero bytes.

Main results:

* `Base58.encodeChars_cons` — without a leading zero byte the text is the number;
* `Base58.take_encodeChars` — **the head of a text is the text of a quotient**;
* `Base58.readNumber_letters` — what the reader makes of digits;
* `Base58.decode_encode` — **a text reads back if it stands for at most 132 bytes**, and what
  becomes of it otherwise;
* `Base58.eq_encodeChars_of_decodeChars` — **only what was written is read**;
* `Base58.decodeChars_eq_ok_iff` — exactly what is read, and as what;
* `Base58.decodeChars_eq_breakdown_iff` — exactly where the reader breaks down;
* `Base58.length_encodeChars_le` — how long a text can be.
-/

import AssetMarket.Text.Base58

set_option relaxedAutoImplicit false
set_option autoImplicit false

namespace AssetMarket

namespace Base58

/-- The characters of a number. -/
def numeral (n : Nat) : List Char := (Radix.digits 58 n).reverse.map letter

theorem encodeChars_cons {b : UInt8} (hb : b ≠ 0) (bs : Bytes) :
    encodeChars (b :: bs) = numeral (Bytes.number (b :: bs).reverse) := by
  simp [encodeChars, numeral, hb]

/-- The numeral of a number begins with the numeral of each of its quotients by a power of 58. -/
theorem numeral_div_prefix (n k : Nat) : numeral (n / 58 ^ k) <+: numeral n := by
  have hsplit : Radix.digits 58 n = (Radix.digits 58 n).take k ++ Radix.digits 58 (n / 58 ^ k) := by
    rw [← Radix.drop_digits (by decide), List.take_append_drop]
  rw [numeral, numeral, hsplit, List.reverse_append, List.map_append]
  exact List.prefix_append _ _

theorem take_encodeChars {b : UInt8} (hb : b ≠ 0) (bs : Bytes) {k quotient : Nat}
    (h : Bytes.number (b :: bs).reverse / 58 ^ k = quotient) :
    (numeral quotient).length ≤ (encodeChars (b :: bs)).length ∧
      (encodeChars (b :: bs)).take (numeral quotient).length = numeral quotient := by
  have hstart : numeral quotient <+: encodeChars (b :: bs) := by
    rw [encodeChars_cons hb, ← h]
    exact numeral_div_prefix _ k
  exact ⟨hstart.length_le, (List.prefix_iff_eq_take.1 hstart).symm⟩

/-! ### Reading back -/

/-- The number that digits denote, highest first, after a number that was read already. -/
def horner (value : Nat) (ds : List Nat) : Nat := ds.foldl (fun n d => n * 58 + d) value

theorem horner_append (value : Nat) (ds es : List Nat) :
    horner value (ds ++ es) = horner (horner value ds) es := List.foldl_append

theorem le_horner (ds : List Nat) (value : Nat) : value ≤ horner value ds := by
  induction ds generalizing value with
  | nil => exact Nat.le_refl _
  | cons d ds ih =>
      have hrest := ih (value * 58 + d)
      rw [horner, List.foldl_cons, ← horner]
      omega

theorem horner_replicate_zero (k : Nat) : horner 0 (List.replicate k 0) = 0 := by
  induction k with
  | zero => rfl
  | succ k ih => exact ih

theorem horner_reverse (ds : List Nat) : horner 0 ds.reverse = Radix.value 58 ds := by
  induction ds with
  | nil => rfl
  | cons d ds ih =>
      have hlast (value : Nat) : horner value [d] = value * 58 + d := rfl
      rw [List.reverse_cons, horner_append, ih, hlast, Radix.value]
      omega

theorem numberBound_eq : numberBound = 256 ^ room := by
  have hpow {k n : Nat} (h : n = 8 * k) : 2 ^ n = 256 ^ k := by
    rw [h]
    exact Nat.pow_mul 2 8 k
  rw [numberBound, hpow (show 1056 = 8 * room from rfl)]

/-- The reader reads digits until the number is too large. -/
theorem readNumber_letters {ds : List Nat} (hds : ∀ d ∈ ds, d < 58) {offset value : Nat}
    (hvalue : value < numberBound) :
    readNumber offset value (ds.map letter)
      = if horner value ds < numberBound then .ok (horner value ds) else .error .invalidLength := by
  induction ds generalizing offset value with
  | nil => exact (if_pos hvalue).symm
  | cons d ds ih =>
      rw [List.forall_mem_cons] at hds
      rw [List.map_cons, readNumber, digitOf_letter d hds.1]
      have hstep : horner value (d :: ds) = horner (value * 58 + d) ds := rfl
      rw [hstep]
      by_cases hnext : value * 58 + d < numberBound
      · simp only [hnext, if_true]
        exact ih hds.2 hnext
      · -- a number that is too large already does not become smaller
        have hlarge := le_horner ds (value * 58 + d)
        rw [if_neg (show ¬ horner (value * 58 + d) ds < numberBound by omega)]
        simp only [hnext, if_false]

/-- A byte string without its leading zero bytes. -/
def significant (bs : Bytes) : Bytes := bs.dropWhile (· == 0)

theorem zeros_append_significant (bs : Bytes) :
    List.replicate (bs.takeWhile (· == 0)).length 0 ++ significant bs = bs := by
  have hzeros : bs.takeWhile (· == 0) = List.replicate (bs.takeWhile (· == 0)).length 0 := by
    refine List.eq_replicate_of_mem fun b hb => ?_
    simpa using List.all_eq_true.1 List.all_takeWhile b hb
  rw [← hzeros, significant, List.takeWhile_append_dropWhile]

theorem number_eq_value (bs : Bytes) : Bytes.number bs = Radix.value 256 (bs.map UInt8.toNat) := by
  induction bs with
  | nil => rfl
  | cons b bs ih => rw [Bytes.number, List.map_cons, Radix.value, ih]

/-- Leading zero bytes do not count. -/
theorem number_significant (bs : Bytes) :
    Bytes.number (significant bs).reverse = Bytes.number bs.reverse := by
  have hzero (k : Nat) : Bytes.number (List.replicate k 0) = 0 := by
    induction k with
    | zero => rfl
    | succ k ih => rw [List.replicate_succ, Bytes.number, ih]; rfl
  have hsplit := congrArg (fun bs => Bytes.number bs.reverse) (zeros_append_significant bs)
  simp only [List.reverse_append, List.reverse_replicate, Bytes.number_append, hzero, Nat.mul_zero,
    Nat.add_zero] at hsplit
  exact hsplit

theorem head_significant {bs : Bytes} : ∀ b ∈ (significant bs).head?, b ≠ 0 := by
  intro b hb
  have hhead := List.head?_dropWhile_not (· == 0) bs
  rw [← significant, Option.mem_def.1 hb] at hhead
  simpa using hhead

/-- The bytes of the number are those after the leading zero bytes. -/
theorem digits_number (bs : Bytes) :
    (Radix.digits 256 (Bytes.number bs.reverse)).reverse.map UInt8.ofNat = significant bs := by
  have hlt : ∀ d ∈ (significant bs).reverse.map UInt8.toNat, d < 256 := by
    intro d hd
    obtain ⟨b, -, rfl⟩ := List.mem_map.1 hd
    exact b.toNat_lt
  have hlast : ∀ d ∈ ((significant bs).reverse.map UInt8.toNat).getLast?, d ≠ 0 := by
    intro d hd
    rw [List.getLast?_map, List.getLast?_reverse] at hd
    obtain ⟨b, hb, rfl⟩ := Option.map_eq_some_iff.1 hd
    intro hzero
    exact head_significant b hb (UInt8.toNat_inj.1 hzero)
  rw [← number_significant, number_eq_value, Radix.digits_value (by decide) hlt hlast]
  simp only [List.map_reverse, List.reverse_reverse, List.map_map]
  refine (List.map_congr_left fun b _ => ?_).trans (List.map_id _)
  exact UInt8.ofNat_toNat

/-- The number fits into as many bytes as there are after the leading zero bytes. -/
theorem number_lt_iff (bs : Bytes) (k : Nat) :
    Bytes.number bs.reverse < 256 ^ k ↔ (significant bs).length ≤ k := by
  rw [← number_significant]
  constructor
  · intro hlt
    cases hsignificant : significant bs with
    | nil => exact Nat.zero_le k
    | cons b rest =>
        have hb : b ≠ 0 := head_significant b (by rw [hsignificant]; rfl)
        have hpos : 0 < b.toNat := Nat.pos_of_ne_zero fun hzero => hb (UInt8.toNat_inj.1 hzero)
        rw [hsignificant, List.reverse_cons, Bytes.number_append, List.length_reverse] at hlt
        refine Nat.not_lt.1 fun hlong => ?_
        rw [List.length_cons] at hlong
        have hpow : 256 ^ k ≤ 256 ^ rest.length := Nat.pow_le_pow_right (by decide) (by omega)
        have hmul : 256 ^ rest.length ≤ 256 ^ rest.length * Bytes.number [b] :=
          Nat.le_mul_of_pos_right _ (by simp only [Bytes.number]; omega)
        omega
  · intro hle
    have hlt := Bytes.number_lt (significant bs).reverse
    rw [List.length_reverse] at hlt
    exact Nat.lt_of_lt_of_le hlt (Nat.pow_le_pow_right (by decide) hle)

/-- The characters of a byte string are those of digits. -/
theorem encodeChars_eq (bs : Bytes) :
    encodeChars bs
      = (List.replicate (bs.takeWhile (· == 0)).length 0
          ++ (Radix.digits 58 (Bytes.number bs.reverse)).reverse).map letter := by
  rw [encodeChars, List.map_append, List.map_replicate, List.map_const']
  rfl

/-- A run of one value ends where another stands. -/
theorem span_replicate_append {α : Type} [BEq α] [LawfulBEq α] (a : α) (k : Nat) {xs : List α}
    (h : ∀ x ∈ xs.head?, x ≠ a) :
    (List.replicate k a ++ xs).takeWhile (· == a) = List.replicate k a ∧
      (List.replicate k a ++ xs).dropWhile (· == a) = xs := by
  have hrun : ∀ x ∈ List.replicate k a, (x == a) = true := fun x hx =>
    beq_iff_eq.2 (List.mem_replicate.1 hx).2
  rw [List.takeWhile_append_of_pos hrun, List.dropWhile_append_of_pos hrun]
  cases xs with
  | nil => exact ⟨List.append_nil _, rfl⟩
  | cons x xs =>
      have hx : x ≠ a := h x rfl
      rw [List.takeWhile_cons_of_neg (by simpa using hx),
        List.dropWhile_cons_of_neg (by simpa using hx), List.append_nil]
      exact ⟨rfl, rfl⟩

theorem takeWhile_map_letter {ds : List Nat} (h : ∀ d ∈ ds, d < 58) :
    (ds.map letter).takeWhile (· == '1') = (ds.takeWhile (· == 0)).map letter := by
  induction ds with
  | nil => rfl
  | cons d ds ih =>
      rw [List.forall_mem_cons] at h
      rw [List.map_cons]
      by_cases hzero : d = 0
      · subst hzero
        rw [List.takeWhile_cons_of_pos rfl, List.takeWhile_cons_of_pos rfl, List.map_cons, ih h.2]
      · have hone : letter d ≠ '1' := fun hone =>
          hzero (letter_injective h.1 (show 0 < 58 by decide) hone)
        rw [List.takeWhile_cons_of_neg (by simpa using hone),
          List.takeWhile_cons_of_neg (by simpa using hzero), List.map_nil]

/-- The digits of a text are those of zeros and of a number. -/
theorem lt_of_mem_digits {k n : Nat} :
    ∀ d ∈ List.replicate k 0 ++ (Radix.digits 58 n).reverse, d < 58 := by
  intro d hd
  rcases List.mem_append.1 hd with hd | hd
  · rw [(List.mem_replicate.1 hd).2]
    decide
  · exact Radix.digits_lt (by decide) _ d (List.mem_reverse.1 hd)

theorem takeWhile_encodeChars (bs : Bytes) :
    (encodeChars bs).takeWhile (· == '1')
      = List.replicate (bs.takeWhile (· == 0)).length '1' := by
  -- the first digit of the number is not zero
  have hhead : ∀ d ∈ (Radix.digits 58 (Bytes.number bs.reverse)).reverse.head?, d ≠ 0 := by
    intro d hd
    rw [List.head?_reverse] at hd
    exact Radix.getLast_digits_ne_zero (by decide) _ d hd
  rw [encodeChars_eq, takeWhile_map_letter lt_of_mem_digits, (span_replicate_append 0 _ hhead).1,
    List.map_replicate]
  rfl

theorem length_significant_le (bs : Bytes) : (significant bs).length ≤ bs.length :=
  (List.dropWhile_sublist _).length_le

theorem decodeChars_of_readNumber {cs : List Char} {n : Nat} (h : readNumber 0 0 cs = .ok n) :
    decodeChars cs
      = if (assemble cs n).length ≤ room then .ok (assemble cs n) else .error .breakdown := by
  rw [decodeChars, h]
  rfl

theorem decodeChars_of_readNumber_error {cs : List Char} {e : Error}
    (h : readNumber 0 0 cs = .error e) : decodeChars cs = .error e := by
  rw [decodeChars, h]
  rfl

theorem readNumber_encodeChars (bs : Bytes) :
    readNumber 0 0 (encodeChars bs)
      = if (significant bs).length ≤ room then .ok (Bytes.number bs.reverse)
        else .error .invalidLength := by
  have hvalue : horner 0 (List.replicate (bs.takeWhile (· == 0)).length 0
      ++ (Radix.digits 58 (Bytes.number bs.reverse)).reverse) = Bytes.number bs.reverse := by
    rw [horner_append, horner_replicate_zero, horner_reverse, Radix.value_digits (by decide)]
  have hpos : 0 < numberBound := by
    rw [numberBound_eq]
    exact Nat.pow_pos (by decide)
  rw [encodeChars_eq, readNumber_letters lt_of_mem_digits hpos, hvalue]
  simp only [numberBound_eq, number_lt_iff]

theorem assemble_encodeChars (bs : Bytes) :
    assemble (encodeChars bs) (Bytes.number bs.reverse) = bs := by
  rw [assemble, takeWhile_encodeChars, List.map_replicate, digits_number, zeros_append_significant]

/-- What is written reads back if there is room for it. -/
theorem decodeChars_encodeChars (bs : Bytes) :
    decodeChars (encodeChars bs)
      = if bs.length ≤ room then .ok bs
        else if (significant bs).length ≤ room then .error .breakdown else .error .invalidLength := by
  have hread := readNumber_encodeChars bs
  by_cases hfits : (significant bs).length ≤ room
  · rw [if_pos hfits] at hread
    rw [decodeChars_of_readNumber hread, assemble_encodeChars, if_pos hfits]
  · have hlong : ¬ bs.length ≤ room := fun hle =>
      hfits (Nat.le_trans (length_significant_le bs) hle)
    rw [if_neg hfits] at hread
    rw [decodeChars_of_readNumber_error hread, if_neg hlong, if_neg hfits]

/-- **A text reads back if it stands for at most 132 bytes.**  Of a longer byte string it is refused
or breaks the reader down, depending on the bytes after the leading zeros. -/
theorem decode_encode (bs : Bytes) :
    decode (encode bs)
      = if bs.length ≤ room then .ok bs
        else if (significant bs).length ≤ room then .error .breakdown else .error .invalidLength := by
  rw [decode, encode, String.toList_ofList, decodeChars_encodeChars]

/-! ### Only what was written is read -/

theorem letter_of_digitOf {c : Char} {d : Nat} (h : digitOf c = some d) :
    d < 58 ∧ letter d = c := by
  rw [digitOf, List.idxOf?, List.findIdx?_eq_some_iff_getElem] at h
  obtain ⟨hd, hc, -⟩ := h
  refine ⟨hd, ?_⟩
  rw [letter, List.getD_eq_getElem?_getD, List.getElem?_eq_getElem hd, Option.getD_some]
  exact eq_of_beq hc

/-- A text that is read consists of digits, and it is read as the number of these. -/
theorem exists_digits_of_readNumber {cs : List Char} {offset value n : Nat}
    (h : readNumber offset value cs = .ok n) :
    ∃ ds, (∀ d ∈ ds, d < 58) ∧ ds.map letter = cs ∧ horner value ds = n := by
  induction cs generalizing offset value with
  | nil =>
      cases h
      exact ⟨[], by simp, rfl, rfl⟩
  | cons c cs ih =>
      rw [readNumber] at h
      split at h
      · cases h
      next d hdigit =>
        split at h
        · obtain ⟨ds, hds, hmap, hn⟩ := ih h
          obtain ⟨hd, hletter⟩ := letter_of_digitOf hdigit
          refine ⟨d :: ds, List.forall_mem_cons.2 ⟨hd, hds⟩, ?_, hn⟩
          rw [List.map_cons, hletter, hmap]
        · cases h

theorem horner_dropWhile (ds : List Nat) : horner 0 (ds.dropWhile (· == 0)) = horner 0 ds := by
  induction ds with
  | nil => rfl
  | cons d ds ih =>
      by_cases hzero : d = 0
      · subst hzero
        exact ih
      · rw [List.dropWhile_cons_of_neg (by simpa using hzero)]

theorem digits_horner {ds : List Nat} (h : ∀ d ∈ ds, d < 58) :
    (Radix.digits 58 (horner 0 ds)).reverse = ds.dropWhile (· == 0) := by
  have hlt : ∀ d ∈ (ds.dropWhile (· == 0)).reverse, d < 58 := fun d hd =>
    h d ((List.dropWhile_sublist _).subset (List.mem_reverse.1 hd))
  have hlast : ∀ d ∈ (ds.dropWhile (· == 0)).reverse.getLast?, d ≠ 0 := by
    intro d hd
    rw [List.getLast?_reverse] at hd
    have hhead := List.head?_dropWhile_not (· == 0) ds
    rw [Option.mem_def.1 hd] at hhead
    simpa using hhead
  have hvalue := horner_reverse (ds.dropWhile (· == 0)).reverse
  rw [List.reverse_reverse, horner_dropWhile] at hvalue
  rw [hvalue, Radix.digits_value (by decide) hlt hlast, List.reverse_reverse]

/-- The bytes of a number do not begin with a zero byte and denote the number. -/
theorem bytes_of_number (n : Nat) :
    (∀ b ∈ ((Radix.digits 256 n).reverse.map UInt8.ofNat).head?, b ≠ 0) ∧
      Bytes.number ((Radix.digits 256 n).reverse.map UInt8.ofNat).reverse = n := by
  have hbyte : ∀ d ∈ Radix.digits 256 n, (UInt8.ofNat d).toNat = d := fun d hd =>
    UInt8.toNat_ofNat_of_lt' (Radix.digits_lt (by decide) n d hd)
  constructor
  · intro b hb hzero
    rw [List.head?_map, List.head?_reverse] at hb
    obtain ⟨d, hd, rfl⟩ := Option.map_eq_some_iff.1 hb
    have hself := hbyte d (List.mem_of_mem_getLast? hd)
    rw [hzero] at hself
    exact Radix.getLast_digits_ne_zero (by decide) n d hd hself.symm
  · have hself : (Radix.digits 256 n).map (UInt8.toNat ∘ UInt8.ofNat) = Radix.digits 256 n :=
      (List.map_congr_left hbyte).trans (List.map_id _)
    rw [← List.map_reverse, List.reverse_reverse, number_eq_value, List.map_map, hself,
      Radix.value_digits (by decide)]

theorem readNumber_ne_breakdown (cs : List Char) (offset value : Nat) :
    readNumber offset value cs ≠ .error .breakdown := by
  induction cs generalizing offset value with
  | nil => nofun
  | cons c cs ih =>
      rw [readNumber]
      split
      · nofun
      · split
        · exact ih _ _
        · nofun

/-- A text whose number finds room is the text of its bytes, whatever their count. -/
theorem eq_encodeChars_assemble {cs : List Char} {n : Nat} (h : readNumber 0 0 cs = .ok n) :
    cs = encodeChars (assemble cs n) := by
  obtain ⟨ds, hds, rfl, hvalue⟩ := exists_digits_of_readNumber h
  obtain ⟨hhead, hnumber⟩ := bytes_of_number n
  rw [assemble, takeWhile_map_letter hds, List.map_const', List.length_map]
  obtain ⟨hzeros, hsignificant⟩ :=
    span_replicate_append 0 (ds.takeWhile (· == 0)).length hhead
  have htake : List.replicate (ds.takeWhile (· == 0)).length 0 = ds.takeWhile (· == 0) :=
    (List.eq_replicate_of_mem fun d hd => by
      simpa using List.all_eq_true.1 List.all_takeWhile d hd).symm
  rw [encodeChars_eq, ← number_significant, significant, hsignificant, hnumber, hzeros,
    List.length_replicate, ← hvalue, digits_horner hds, htake,
    List.takeWhile_append_dropWhile]

/-- A text that is not refused is the text of some bytes: it is read as these, or the reader breaks
down on it. -/
theorem exists_eq_encodeChars {cs : List Char}
    (h : ∀ e, decodeChars cs = .error e → e = .breakdown) : ∃ bs, cs = encodeChars bs := by
  cases hn : readNumber 0 0 cs with
  | ok n => exact ⟨_, eq_encodeChars_assemble hn⟩
  | error e =>
      rw [h e (decodeChars_of_readNumber_error hn)] at hn
      exact absurd hn (readNumber_ne_breakdown cs 0 0)

/-- A text is read as the byte string of which it is the text, and as nothing else. -/
theorem decodeChars_eq_ok_iff {cs : List Char} {bs : Bytes} :
    decodeChars cs = .ok bs ↔ cs = encodeChars bs ∧ bs.length ≤ room := by
  constructor
  · intro h
    obtain ⟨bs', rfl⟩ := exists_eq_encodeChars fun e he => by
      rw [h] at he
      cases he
    rw [decodeChars_encodeChars] at h
    split at h
    next hfits =>
      cases h
      exact ⟨rfl, hfits⟩
    next => split at h <;> cases h
  · rintro ⟨rfl, hfits⟩
    rw [decodeChars_encodeChars, if_pos hfits]

/-- **Only what was written is read.** -/
theorem eq_encodeChars_of_decodeChars {cs : List Char} {bs : Bytes} (h : decodeChars cs = .ok bs) :
    cs = encodeChars bs := (decodeChars_eq_ok_iff.1 h).1

/-- **The reader breaks down on the texts of byte strings that only their leading zeros make too
long**, and on no others. -/
theorem decodeChars_eq_breakdown_iff {cs : List Char} :
    decodeChars cs = .error .breakdown ↔
      ∃ bs, cs = encodeChars bs ∧ (significant bs).length ≤ room ∧ room < bs.length := by
  constructor
  · intro h
    obtain ⟨bs, rfl⟩ := exists_eq_encodeChars fun e he => by
      rw [h] at he
      exact (Except.error.inj he).symm
    rw [decodeChars_encodeChars] at h
    split at h
    next => cases h
    next hlong =>
      split at h
      next hfits => exact ⟨bs, rfl, hfits, Nat.not_le.1 hlong⟩
      next => cases h
  · rintro ⟨bs, rfl, hfits, hlong⟩
    rw [decodeChars_encodeChars, if_neg (Nat.not_le.2 hlong), if_pos hfits]

/-- Two bytes are at most three digits, which are one too many for a single byte. -/
theorem length_encodeChars_le (bs : Bytes) :
    2 * (encodeChars bs).length ≤ 3 * bs.length + 1 := by
  have hlength : (bs.takeWhile (· == 0)).length + (significant bs).length = bs.length := by
    rw [significant, ← List.length_append, List.takeWhile_append_dropWhile]
  have hnumber : Bytes.number bs.reverse < 256 ^ (significant bs).length :=
    (number_lt_iff bs _).2 (Nat.le_refl _)
  have hdigits : 2 * (Radix.digits 58 (Bytes.number bs.reverse)).length
      ≤ 3 * (significant bs).length + 1 := by
    cases hcount : (Radix.digits 58 (Bytes.number bs.reverse)).length with
    | zero => omega
    | succ k =>
        have hle : 58 ^ k ≤ Bytes.number bs.reverse :=
          Radix.pow_le_of_lt_length (by decide) (by omega)
        have hlt : (58 ^ k) ^ 2 < (256 ^ (significant bs).length) ^ 2 :=
          Nat.pow_lt_pow_left (Nat.lt_of_le_of_lt hle hnumber) (by decide)
        have hthree : (256 ^ (significant bs).length) ^ 2 ≤ 58 ^ (3 * (significant bs).length) := by
          rw [Nat.pow_mul 58, ← Nat.pow_mul, Nat.mul_comm, Nat.pow_mul]
          exact Nat.pow_le_pow_left (by decide) _
        rw [← Nat.pow_mul 58] at hlt
        have hexponent := (Nat.pow_lt_pow_iff_right (by decide)).1 (Nat.lt_of_lt_of_le hlt hthree)
        omega
  rw [encodeChars_eq, List.length_map, List.length_append, List.length_replicate,
    List.length_reverse]
  omega

/-! ### Characters -/

theorem letter_mem_alphabet (d : Nat) : letter d ∈ alphabet := by
  rw [letter, List.getD_eq_getElem?_getD]
  cases h : alphabet[d]? with
  | none => decide
  | some c => exact List.mem_of_getElem? h

theorem mem_alphabet_of_mem_encodeChars {bs : Bytes} : ∀ c ∈ encodeChars bs, c ∈ alphabet := by
  intro c hc
  rw [encodeChars_eq] at hc
  obtain ⟨d, -, rfl⟩ := List.mem_map.1 hc
  exact letter_mem_alphabet d

end Base58

end AssetMarket
