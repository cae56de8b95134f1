/-
**Cutting written JSON into tokens.**

What the writer puts out is cut into the tokens that were meant.  A word or a numeral has no end of
its own, it ends where a character comes that cannot belong to it; so a value is followed through
the scanner together with the rest of the text, of which nothing is asked but that it does not begin
with a letter or a part of a numeral.

A run of the scanner is looked at only as far as its tokens, `Scanner.finish`: in this way it makes
no difference whether a word is closed by the next character or by the end of the text.

Main definitions:

* `Json.isPlain` — whether a value can be written as it is;
* `Json.tokensOf` — the tokens of a value;
* `Json.Scanner.finish` — the tokens of a text that goes on.

Main results:

* `Json.number?_intChars` — an integer is read as itself;
* `Json.Scanner.finish_quoteChars` — so is a text between quotation marks;
* `Json.tokens?_compactChars` — **a value that is written is cut into its tokens**.
-/

import Mathlib.Data.List.TakeDrop
import Mathlib.Data.List.TakeWhile
import Mathlib.Data.Option.Basic
import AssetMarket.Json.Document
import AssetMarket.Json.Writer
import AssetMarket.Proofs.Text.Numeral

set_option relaxedAutoImplicit false
set_option autoImplicit false

namespace AssetMarket

namespace Json

/-! ### Values that are written -/

mutual

/-- Whether a value can be written as it is: no number but integers of 64 bits, no broken text. -/
def isPlain : Json → Bool
  | .null => true
  | .bool _ => true
  | .int z => -2 ^ 63 ≤ z && z < 2 ^ 64
  | .decimal _ => false
  | .text s => s.isSome
  | .array items => arePlain items
  | .object members => arePlainMembers members

/-- Whether all items can be written. -/
def arePlain : List Json → Bool
  | [] => true
  | item :: items => isPlain item && arePlain items

/-- Whether all members can be written, names included. -/
def arePlainMembers : List (Option String × Json) → Bool
  | [] => true
  | member :: members => isPlainMember member && arePlainMembers members

/-- Whether a member can be written. -/
def isPlainMember : Option String × Json → Bool
  | (name, value) => name.isSome && isPlain value

end

mutual

/-- The tokens of a value. -/
def tokensOf : Json → List Token
  | .text s => [.text s]
  | .array items => .openBracket :: (tokensOfItems items ++ [.closeBracket])
  | .object members => .openBrace :: (tokensOfMembers members ++ [.closeBrace])
  | j => [.scalar j]

/-- The tokens of items, with commas between them. -/
def tokensOfItems : List Json → List Token
  | [] => []
  | [item] => tokensOf item
  | item :: items => tokensOf item ++ .comma :: tokensOfItems items

/-- The tokens of members, with commas between them. -/
def tokensOfMembers : List (Option String × Json) → List Token
  | [] => []
  | [member] => tokensOfMember member
  | member :: members => tokensOfMember member ++ .comma :: tokensOfMembers members

/-- The tokens of a name and its value. -/
def tokensOfMember : Option String × Json → List Token
  | (name, value) => .text name :: .colon :: tokensOf value

end

theorem tokensOfItems_cons (item next : Json) (items : List Json) :
    tokensOfItems (item :: next :: items)
      = tokensOf item ++ .comma :: tokensOfItems (next :: items) := by
  rw [tokensOfItems]
  nofun

theorem tokensOfMembers_cons (member next : Option String × Json)
    (members : List (Option String × Json)) :
    tokensOfMembers (member :: next :: members)
      = tokensOfMember member ++ .comma :: tokensOfMembers (next :: members) := by
  rw [tokensOfMembers]
  nofun

theorem compactItems_cons (item next : Json) (items : List Json) :
    compactItems (item :: next :: items)
      = compactChars item ++ ',' :: compactItems (next :: items) := by
  rw [compactItems]
  nofun

theorem compactMembers_cons (member next : Option String × Json)
    (members : List (Option String × Json)) :
    compactMembers (member :: next :: members)
      = compactMember member ++ ',' :: compactMembers (next :: members) := by
  rw [compactMembers]
  nofun

/-! ### Integers -/

section

variable {cs : List Char}

theorem ascii_isDigit : ∀ n < 128, (Char.ofNat n).isDigit = true →
    Text.isDecimal (Char.ofNat n) = true ∧ Scanner.isSpace (Char.ofNat n) = false ∧
      Char.ofNat n ≠ '"' := by
  decide

/-- A decimal digit is read as one, and it begins neither a blank nor a text. -/
theorem plain_of_isDigit {c : Char} (h : c.isDigit = true) :
    Text.isDecimal c = true ∧ Scanner.isSpace c = false ∧ c ≠ '"' := by
  have hlt : c.toNat < 128 := by
    have hle : c.toNat ≤ 57 := by
      simp only [Char.isDigit, ge_iff_le, Bool.and_eq_true, decide_eq_true_eq] at h
      exact h.2
    omega
  have hplain := ascii_isDigit c.toNat hlt
  rw [Char.ofNat_toNat] at hplain
  exact hplain h

theorem plain_of_mem_toDigits {n : Nat} {c : Char} (hc : c ∈ Nat.toDigits 10 n) :
    Text.isDecimal c = true ∧ Scanner.isSpace c = false ∧ c ≠ '"' :=
  plain_of_isDigit (Nat.isDigit_of_mem_toDigits (by decide) (by decide) hc)

theorem all_isDecimal_toDigits (n : Nat) : (Nat.toDigits 10 n).all Text.isDecimal = true :=
  List.all_eq_true.2 fun _ hc => (plain_of_mem_toDigits hc).1

theorem decimalValue_append (cs ds : List Char) :
    decimalValue (cs ++ ds)
      = ds.foldl (fun n c => n * 10 + (Text.digit? 10 c).getD 0) (decimalValue cs) :=
  List.foldl_append

theorem decimalValue_toDigits (n : Nat) : decimalValue (Nat.toDigits 10 n) = n := by
  induction n using Nat.strongRecOn with
  | ind n ih =>
      have hlow : n % 10 < 10 := Nat.mod_lt _ (by decide)
      rcases Nat.lt_or_ge n 10 with hlt | hge
      · rw [Nat.toDigits_of_lt_base hlt]
        simp [decimalValue, Text.digit?_digitChar (by decide) hlt]
      · rw [Nat.toDigits_of_base_le (by decide) hge, decimalValue_append, ih (n / 10) (by omega)]
        simp only [List.foldl_cons, List.foldl_nil, Text.digit?_digitChar (by decide) hlow,
          Option.getD_some]
        omega

/-- Of the digits of a number only those of zero begin with a zero. -/
theorem head_toDigits_ne_zero {n : Nat} (hn : n ≠ 0) :
    ∀ c ∈ (Nat.toDigits 10 n).head?, c ≠ '0' := by
  induction n using Nat.strongRecOn with
  | ind n ih =>
      intro c hc
      rcases Nat.lt_or_ge n 10 with hlt | hge
      · rw [Nat.toDigits_of_lt_base hlt] at hc
        have hall : ∀ d < 10, d ≠ 0 → Nat.digitChar d ≠ '0' := by decide
        cases hc
        exact hall n hlt hn
      · rw [Nat.toDigits_of_base_le (by decide) hge,
          List.head?_append, Option.mem_def, Option.or_of_isSome (by simp [Nat.toDigits_ne_nil])] at hc
        exact ih (n / 10) (by omega) (by omega) c hc

theorem isWholePart_toDigits (n : Nat) : isWholePart (Nat.toDigits 10 n) = true := by
  unfold isWholePart
  rw [all_isDecimal_toDigits, Bool.true_and]
  split
  next heq => exact absurd heq Nat.toDigits_ne_nil
  next => rfl
  next c cs hnot heq =>
    rw [decide_eq_true_eq]
    by_cases hn : n = 0
    · subst hn
      cases heq
      exact (hnot rfl rfl).elim
    · exact head_toDigits_ne_zero hn c (by rw [heq]; rfl)

/-- Digits have neither an exponent nor a point. -/
theorem split_of_all_isDecimal (h : cs.all Text.isDecimal = true) :
    splitExponent cs = (cs, none) ∧ splitFraction cs = (cs, none) := by
  have hall : ∀ c ∈ cs, c ≠ 'e' ∧ c ≠ 'E' ∧ c ≠ '.' := by
    intro c hc
    have hdecimal := List.all_eq_true.1 h c hc
    refine ⟨?_, ?_, ?_⟩ <;>
    · rintro rfl
      exact absurd hdecimal (by decide)
  have hspan {p : Char → Bool} (hp : ∀ c ∈ cs, p c = true) : cs.span p = (cs, []) := by
    rw [List.span_eq_takeWhile_dropWhile, List.takeWhile_eq_self_iff.2 hp,
      List.dropWhile_eq_nil_iff.2 hp]
  constructor
  · rw [splitExponent, hspan fun c hc => by simp [hall c hc]]
    rfl
  · rw [splitFraction, hspan fun c hc => by simp [hall c hc]]
    rfl

theorem unsignedNumber?_toDigits (negative : Bool) (n : Nat) :
    unsignedNumber? negative (Nat.toDigits 10 n)
      = some (wholeNumber negative (Nat.toDigits 10 n)) := by
  obtain ⟨hexponent, hfraction⟩ := split_of_all_isDecimal (all_isDecimal_toDigits n)
  simp only [unsignedNumber?, hexponent, hfraction, isWholePart_toDigits]
  rfl

theorem intChars_ofNat (n : Nat) : intChars (.ofNat n) = Nat.toDigits 10 n := by
  show (toString n).toList = _
  rw [Nat.toString_eq_ofList_toDigits, String.toList_ofList]

theorem intChars_negSucc (n : Nat) : intChars (.negSucc n) = '-' :: Nat.toDigits 10 (n + 1) := by
  show ("-" ++ toString (n + 1)).toList = _
  rw [String.toList_append, Nat.toString_eq_ofList_toDigits]
  exact congrArg ("-".toList ++ ·) String.toList_ofList

/-- An integer of 64 bits is read as itself. -/
theorem number?_intChars {z : Int} (hlow : -2 ^ 63 ≤ z) (hhigh : z < 2 ^ 64) :
    number? (intChars z) = some (.int z) := by
  cases z with
  | ofNat n =>
      rw [intChars_ofNat]
      have hn : n < 2 ^ 64 := Int.ofNat_lt.1 hhigh
      have hunsigned : number? (Nat.toDigits 10 n) = unsignedNumber? false (Nat.toDigits 10 n) := by
        unfold number?
        split
        next cs heq =>
          have hdigit := (plain_of_mem_toDigits (n := n) (c := '-') (by simp [heq])).1
          exact absurd hdigit (by decide)
        next => rfl
      rw [hunsigned, unsignedNumber?_toDigits, wholeNumber, decimalValue_toDigits]
      simp [hn]
  | negSucc n =>
      have hn : n + 1 ≤ 2 ^ 63 := by omega
      have hread : wholeNumber true (Nat.toDigits 10 (n + 1)) = .int (.negSucc n) := by
        simp only [wholeNumber, decimalValue_toDigits, Bool.not_true, Bool.false_and,
          Bool.false_eq_true, if_false, Bool.true_and, Bool.and_eq_true, decide_eq_true_eq]
        rw [if_pos ⟨Nat.succ_pos n, hn⟩]
        rfl
      rw [intChars_negSucc, number?, unsignedNumber?_toDigits, hread]

end

/-! ### Texts -/

/-- The code point of a character is no half of a surrogate pair. -/
theorem assemble?_toNat (cs : List Char) : assemble? (cs.map Char.toNat) = some cs := by
  induction cs with
  | nil => rfl
  | cons c cs ih =>
      have hvalid : c.toNat < 0xD800 ∨ 0xDFFF < c.toNat := by
        rcases c.valid with hlow | hhigh
        · exact .inl hlow
        · exact .inr hhigh.1
      have hlow : isLowHalf c.toNat = false := by
        simp only [isLowHalf, Bool.and_eq_false_iff, decide_eq_false_iff_not]
        omega
      have hhigh : isHighHalf c.toNat = false := by
        simp only [isHighHalf, Bool.and_eq_false_iff, decide_eq_false_iff_not]
        omega
      rw [List.map_cons]
      unfold assemble?
      simp [hlow, hhigh, ih, Char.ofNat_toNat]

namespace Scanner

variable {s : Scanner} {done : List Token} {rest : List Char}

/-- The tokens of a text that goes on from here. -/
def finish (s : Scanner) (cs : List Char) : Option (List Token) := (s.run cs).bind (·.close?)

theorem finish_cons (s : Scanner) (c : Char) (cs : List Char) :
    s.finish (c :: cs) = (s.step c).bind (·.finish cs) := by
  rw [finish, run]
  cases s.step c with
  | none => rfl
  | some s' => rfl

theorem finish_of_step {s' : Scanner} {c : Char} (h : s.step c = some s') (cs : List Char) :
    s.finish (c :: cs) = s'.finish cs := by
  rw [finish_cons, h]
  rfl

/-- The rest of a text begins with nothing that could belong to a word or a numeral. -/
def Breaks (rest : List Char) : Prop := ∀ c ∈ rest.head?, c.isAlpha = false ∧ isNumberPart c = false

theorem breaks_cons {c : Char} (h : c.isAlpha = false ∧ isNumberPart c = false) (cs : List Char) :
    Breaks (c :: cs) := by
  rintro c' ⟨⟩
  exact h

/-! ### Texts between quotation marks -/

/-- What stands for a character is taken as that character. -/
theorem finish_escape (c : Char) (units : List Nat) (rest : List Char) :
    finish ⟨.text units, done⟩ (escape c ++ rest) = finish ⟨.text (c.toNat :: units), done⟩ rest := by
  by_cases hquote : c = '"'
  · subst hquote
    rfl
  by_cases hslash : c = '\\'
  · subst hslash
    rfl
  by_cases hspecial : c ∈ ['\x08', '\x0C', '\n', '\r', '\t']
  · simp only [List.mem_cons, List.not_mem_nil, or_false] at hspecial
    rcases hspecial with rfl | rfl | rfl | rfl | rfl <;> rfl
  simp only [List.mem_cons, List.not_mem_nil, or_false, not_or] at hspecial
  obtain ⟨h1, h2, h3, h4, h5⟩ := hspecial
  rw [escape, if_neg hquote, if_neg hslash, if_neg h1, if_neg h2, if_neg h3, if_neg h4, if_neg h5]
  by_cases hcontrol : c.toNat < 0x20
  · have hbackslash : step ⟨.text units, done⟩ '\\' = some ⟨.escape units, done⟩ := rfl
    have hmark : step ⟨.escape units, done⟩ 'u' = some ⟨.numbered units 0 4, done⟩ := rfl
    have hthird : step ⟨.numbered units 0 4, done⟩ '0' = some ⟨.numbered units 0 3, done⟩ := rfl
    have hsecond : step ⟨.numbered units 0 3, done⟩ '0' = some ⟨.numbered units 0 2, done⟩ := rfl
    have hupper : step ⟨.numbered units 0 2, done⟩ (Hex.digit (c.toNat / 16))
        = some ⟨.numbered units (c.toNat / 16) 1, done⟩ := by
      simp [step, Hex.digit?_digit (c.toNat / 16) (by omega)]
    have hlower : step ⟨.numbered units (c.toNat / 16) 1, done⟩ (Hex.digit (c.toNat % 16))
        = some ⟨.text (c.toNat :: units), done⟩ := by
      have hvalue : c.toNat / 16 * 16 + c.toNat % 16 = c.toNat := by omega
      simp [step, Hex.digit?_digit (c.toNat % 16) (by omega), hvalue]
    rw [if_pos hcontrol]
    simp only [List.cons_append, List.nil_append]
    rw [finish_of_step hbackslash, finish_of_step hmark, finish_of_step hthird,
      finish_of_step hsecond, finish_of_step hupper, finish_of_step hlower]
  · rw [if_neg hcontrol]
    refine finish_of_step ?_ rest
    simp only [step, if_neg hquote, if_neg hslash, if_neg hcontrol]

theorem finish_flatMap_escape (cs : List Char) (units : List Nat) (rest : List Char) :
    finish ⟨.text units, done⟩ (cs.flatMap escape ++ rest)
      = finish ⟨.text ((cs.map Char.toNat).reverse ++ units), done⟩ rest := by
  induction cs generalizing units with
  | nil => rfl
  | cons c cs ih =>
      rw [List.flatMap_cons, List.append_assoc, finish_escape, ih, List.map_cons,
        List.reverse_cons, List.append_assoc]
      rfl

/-- A text between quotation marks is taken as itself. -/
theorem finish_quote (t : String) (rest : List Char) :
    finish ⟨.between, done⟩ (quote (some t) ++ rest)
      = finish ⟨.between, .text (some t) :: done⟩ rest := by
  have hopen : step ⟨.between, done⟩ '"' = some ⟨.text [], done⟩ := rfl
  have hclose : step ⟨.text ((t.toList.map Char.toNat).reverse ++ []), done⟩ '"'
      = some ⟨.between, .text (some t) :: done⟩ := by
    simp [step, assemble?_toNat]
  rw [quote, Option.getD_some, quoteChars, List.cons_append, finish_of_step hopen,
    List.append_assoc, finish_flatMap_escape]
  exact finish_of_step hclose rest

/-! ### Words and numerals -/

/-- A word or numeral ends where something comes that cannot belong to it. -/
theorem finish_of_close? {done' : List Token} (hclose : s.close? = some done')
    (hrest : Breaks rest) : s.finish rest = finish ⟨.between, done'⟩ rest := by
  cases rest with
  | nil => exact hclose
  | cons c cs =>
      obtain ⟨halpha, hnumber⟩ := hrest c rfl
      have hstep : s.step c = step ⟨.between, done'⟩ c := by
        obtain ⟨mode, done⟩ := s
        cases mode with
        | between =>
            cases hclose
            rfl
        | word seen =>
            simp only [step, halpha, hclose]
            rfl
        | number seen =>
            simp only [step, hnumber, hclose]
            rfl
        | text units => cases hclose
        | escape units => cases hclose
        | numbered units value left => cases hclose
      rw [finish_cons, finish_cons, hstep]

theorem finish_numberParts {cs : List Char} (hcs : ∀ c ∈ cs, isNumberPart c = true)
    (seen : List Char) (rest : List Char) :
    finish ⟨.number seen, done⟩ (cs ++ rest) = finish ⟨.number (cs.reverse ++ seen), done⟩ rest := by
  induction cs generalizing seen with
  | nil => rfl
  | cons c cs ih =>
      rw [List.forall_mem_cons] at hcs
      have hstep : step ⟨.number seen, done⟩ c = some ⟨.number (c :: seen), done⟩ := by
        simp only [step, hcs.1, if_true]
      rw [List.cons_append, finish_of_step hstep, ih hcs.2, List.reverse_cons, List.append_assoc]
      rfl

/-- An integer of 64 bits is taken as itself. -/
theorem finish_intChars {z : Int} (hlow : -2 ^ 63 ≤ z) (hhigh : z < 2 ^ 64) (hrest : Breaks rest) :
    finish ⟨.between, done⟩ (intChars z ++ rest)
      = finish ⟨.between, .scalar (.int z) :: done⟩ rest := by
  obtain ⟨c, cs, hz, hstart, hparts⟩ : ∃ c cs, intChars z = c :: cs ∧
      step ⟨.between, done⟩ c = some ⟨.number [c], done⟩ ∧ ∀ c ∈ cs, isNumberPart c = true := by
    have hpart {n : Nat} {c : Char} (hc : c ∈ Nat.toDigits 10 n) : isNumberPart c = true := by
      simp [isNumberPart, (plain_of_mem_toDigits hc).1]
    cases z with
    | ofNat n =>
        cases hcs : Nat.toDigits 10 n with
        | nil => exact absurd hcs Nat.toDigits_ne_nil
        | cons c cs =>
            obtain ⟨hdecimal, hspace, hquote⟩ := plain_of_mem_toDigits (n := n) (c := c) (by simp [hcs])
            refine ⟨c, cs, (intChars_ofNat n).trans hcs, ?_, fun c' hc' => hpart (n := n) ?_⟩
            · simp [step, stepBetween, hspace, hquote, hdecimal]
            · rw [hcs]
              exact List.mem_cons_of_mem _ hc'
    | negSucc n =>
        exact ⟨'-', _, intChars_negSucc n, rfl, fun c hc => hpart hc⟩
  have hclose : close? ⟨.number (cs.reverse ++ [c]), done⟩ = some (.scalar (.int z) :: done) := by
    have hnumber := number?_intChars hlow hhigh
    rw [hz] at hnumber
    simp [close?, hnumber]
  rw [hz, List.cons_append, finish_of_step hstart, finish_numberParts hparts]
  exact finish_of_close? hclose hrest

theorem finish_null (hrest : Breaks rest) :
    finish ⟨.between, done⟩ ("null".toList ++ rest)
      = finish ⟨.between, .scalar .null :: done⟩ rest :=
  finish_of_close? (s := ⟨.word "null".toList.reverse, done⟩) rfl hrest

theorem finish_true (hrest : Breaks rest) :
    finish ⟨.between, done⟩ ("true".toList ++ rest)
      = finish ⟨.between, .scalar (.bool true) :: done⟩ rest :=
  finish_of_close? (s := ⟨.word "true".toList.reverse, done⟩) rfl hrest

theorem finish_false (hrest : Breaks rest) :
    finish ⟨.between, done⟩ ("false".toList ++ rest)
      = finish ⟨.between, .scalar (.bool false) :: done⟩ rest :=
  finish_of_close? (s := ⟨.word "false".toList.reverse, done⟩) rfl hrest

/-! ### Values -/

theorem finish_punctuation {c : Char} {token : Token}
    (h : step ⟨.between, done⟩ c = some ⟨.between, token :: done⟩) (rest : List Char) :
    finish ⟨.between, done⟩ (c :: rest) = finish ⟨.between, token :: done⟩ rest :=
  finish_of_step h rest

mutual

/-- What is written for a value is cut into its tokens. -/
theorem finish_compactChars : ∀ (j : Json) (_ : j.isPlain = true) (done : List Token)
    (rest : List Char) (_ : Breaks rest),
    finish ⟨.between, done⟩ (compactChars j ++ rest)
      = finish ⟨.between, (tokensOf j).reverse ++ done⟩ rest
  | .null, _, _, _, hrest => finish_null hrest
  | .bool true, _, _, _, hrest => finish_true hrest
  | .bool false, _, _, _, hrest => finish_false hrest
  | .int z, hj, _, _, hrest => by
      simp only [isPlain, Bool.and_eq_true, decide_eq_true_eq] at hj
      exact finish_intChars hj.1 hj.2 hrest
  | .decimal _, hj, _, _, _ => by cases hj
  | .text none, hj, _, _, _ => by cases hj
  | .text (some t), _, _, rest, _ => finish_quote t rest
  | .array items, hj, done, rest, hrest => by
      have hclose : Breaks (']' :: rest) := breaks_cons (by decide) rest
      rw [compactChars, List.cons_append, finish_punctuation rfl, List.append_assoc]
      refine (finish_compactItems items hj _ _ hclose).trans ?_
      rw [finish_punctuation rfl, tokensOf]
      simp
  | .object members, hj, done, rest, hrest => by
      have hclose : Breaks ('\x7d' :: rest) := breaks_cons (by decide) rest
      rw [compactChars, List.cons_append, finish_punctuation rfl, List.append_assoc]
      refine (finish_compactMembers members hj _ _ hclose).trans ?_
      rw [finish_punctuation rfl, tokensOf]
      simp

theorem finish_compactItems : ∀ (items : List Json) (_ : arePlain items = true)
    (done : List Token) (rest : List Char) (_ : Breaks rest),
    finish ⟨.between, done⟩ (compactItems items ++ rest)
      = finish ⟨.between, (tokensOfItems items).reverse ++ done⟩ rest
  | [], _, _, _, _ => rfl
  | [item], hitems, done, rest, hrest => by
      simp only [arePlain, Bool.and_true] at hitems
      exact finish_compactChars item hitems done rest hrest
  | item :: next :: items, hitems, done, rest, hrest => by
      rw [arePlain, Bool.and_eq_true] at hitems
      have hcomma : Breaks (',' :: (compactItems (next :: items) ++ rest)) :=
        breaks_cons (by decide) _
      rw [compactItems_cons, List.append_assoc, List.cons_append,
        finish_compactChars item hitems.1 done _ hcomma, finish_punctuation rfl,
        finish_compactItems (next :: items) hitems.2 _ rest hrest, tokensOfItems_cons]
      simp

theorem finish_compactMembers : ∀ (members : List (Option String × Json))
    (_ : arePlainMembers members = true) (done : List Token) (rest : List Char) (_ : Breaks rest),
    finish ⟨.between, done⟩ (compactMembers members ++ rest)
      = finish ⟨.between, (tokensOfMembers members).reverse ++ done⟩ rest
  | [], _, _, _, _ => rfl
  | [member], hmembers, done, rest, hrest => by
      simp only [arePlainMembers, Bool.and_true] at hmembers
      exact finish_compactMember member hmembers done rest hrest
  | member :: next :: members, hmembers, done, rest, hrest => by
      rw [arePlainMembers, Bool.and_eq_true] at hmembers
      have hcomma : Breaks (',' :: (compactMembers (next :: members) ++ rest)) :=
        breaks_cons (by decide) _
      rw [compactMembers_cons, List.append_assoc, List.cons_append,
        finish_compactMember member hmembers.1 done _ hcomma, finish_punctuation rfl,
        finish_compactMembers (next :: members) hmembers.2 _ rest hrest, tokensOfMembers_cons]
      simp

theorem finish_compactMember : ∀ (member : Option String × Json)
    (_ : isPlainMember member = true) (done : List Token) (rest : List Char) (_ : Breaks rest),
    finish ⟨.between, done⟩ (compactMember member ++ rest)
      = finish ⟨.between, (tokensOfMember member).reverse ++ done⟩ rest
  | (none, _), hmember, _, _, _ => by cases hmember
  | (some name, value), hmember, done, rest, hrest => by
      simp only [isPlainMember, Option.isSome_some, Bool.true_and] at hmember
      rw [compactMember, List.append_assoc, finish_quote, List.cons_append, finish_punctuation rfl,
        finish_compactChars value hmember _ rest hrest, tokensOfMember]
      simp

end

end Scanner

/-- A text is cut into the tokens that are there at its end. -/
theorem tokens?_of_finish {cs : List Char} {tokens : List Token}
    (h : Scanner.finish ⟨.between, []⟩ cs = Scanner.finish ⟨.between, tokens.reverse⟩ []) :
    tokens? cs = some tokens := by
  have hend : Scanner.finish ⟨.between, tokens.reverse⟩ [] = some tokens.reverse := rfl
  rw [hend, Scanner.finish] at h
  rw [tokens?, Scanner.start]
  cases hrun : Scanner.run ⟨.between, []⟩ cs with
  | none => rw [hrun] at h; cases h
  | some s =>
      rw [hrun, Option.bind_some] at h
      rw [Option.bind_some, h, Option.map_some, List.reverse_reverse]

/-- **A value that is written is cut into its tokens.** -/
theorem tokens?_compactChars {j : Json} (h : j.isPlain = true) :
    tokens? (compactChars j) = some (tokensOf j) := by
  have hend : Scanner.Breaks [] := nofun
  have hfinish := Scanner.finish_compactChars j h [] [] hend
  rw [List.append_nil, List.append_nil] at hfinish
  exact tokens?_of_finish hfinish

end Json

end AssetMarket
