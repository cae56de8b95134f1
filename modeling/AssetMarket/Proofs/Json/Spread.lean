/-
**What is written on lines of its own is read back.**

The spread form of a value has the tokens of the compact form, with new lines and blanks between
them.  Between two tokens the scanner passes over blanks, and a new line ends a word or a numeral as
well as a comma does.

Main results:

* `Json.Scanner.finish_newLine` — the start of a line is no token;
* `Json.tokens?_spreadChars` — a value on lines of its own is cut into its tokens;
* `Json.ofText?_spread` — **and so it is read back**.
-/

import AssetMarket.Proofs.Json.Document

set_option relaxedAutoImplicit false
set_option autoImplicit false

namespace AssetMarket

namespace Json

theorem spreadItems_cons (level : Nat) (item next : Json) (items : List Json) :
    spreadItems level (item :: next :: items)
      = newLine level ++ spreadChars level item ++ ',' :: spreadItems level (next :: items) := by
  rw [spreadItems]
  exact List.cons_ne_nil next items

theorem spreadMembers_cons (level : Nat) (member next : Option String × Json)
    (members : List (Option String × Json)) :
    spreadMembers level (member :: next :: members)
      = newLine level ++ spreadMember level member
        ++ ',' :: spreadMembers level (next :: members) := by
  rw [spreadMembers]
  exact List.cons_ne_nil next members

namespace Scanner

variable {done : List Token}

/-! ### Lines -/

theorem finish_spaces (n : Nat) (rest : List Char) :
    finish ⟨.between, done⟩ (List.replicate n ' ' ++ rest) = finish ⟨.between, done⟩ rest := by
  induction n with
  | zero => rfl
  | succ n ih =>
      have hstep : step ⟨.between, done⟩ ' ' = some ⟨.between, done⟩ := rfl
      rw [List.replicate_succ, List.cons_append, finish_of_step hstep, ih]

/-- The start of a line is no token. -/
theorem finish_newLine (level : Nat) (rest : List Char) :
    finish ⟨.between, done⟩ (newLine level ++ rest) = finish ⟨.between, done⟩ rest := by
  have hstep : step ⟨.between, done⟩ '\n' = some ⟨.between, done⟩ := rfl
  rw [newLine, List.cons_append, finish_of_step hstep, finish_spaces]

theorem breaks_newLine (level : Nat) (rest : List Char) : Breaks (newLine level ++ rest) :=
  breaks_cons (by decide) _

/-! ### Values -/

mutual

/-- What is written for a value on lines of its own is cut into its tokens. -/
theorem finish_spreadChars : ∀ (j : Json) (_ : j.isPlain = true) (level : Nat)
    (done : List Token) (rest : List Char) (_ : Breaks rest),
    finish ⟨.between, done⟩ (spreadChars level j ++ rest)
      = finish ⟨.between, (tokensOf j).reverse ++ done⟩ rest
  | .null, _, _, _, _, hrest => finish_null hrest
  | .bool true, _, _, _, _, hrest => finish_true hrest
  | .bool false, _, _, _, _, hrest => finish_false hrest
  | .int z, hj, _, _, _, hrest => by
      simp only [isPlain, Bool.and_eq_true, decide_eq_true_eq] at hj
      exact finish_intChars hj.1 hj.2 hrest
  | .decimal _, hj, _, _, _, _ => by cases hj
  | .text none, hj, _, _, _, _ => by cases hj
  | .text (some t), _, _, _, rest, _ => finish_quote t rest
  | .array [], _, level, done, rest, _ => by
      show finish ⟨.between, done⟩ ('[' :: ']' :: rest) = _
      rw [finish_punctuation rfl, finish_punctuation rfl]
      rfl
  | .object [], _, level, done, rest, _ => by
      show finish ⟨.between, done⟩ ('\x7b' :: '\x7d' :: rest) = _
      rw [finish_punctuation rfl, finish_punctuation rfl]
      rfl
  | .array (item :: items), hj, level, done, rest, _ => by
      rw [spreadChars, List.cons_append, finish_punctuation rfl, List.append_assoc,
        List.append_assoc]
      · refine (finish_spreadItems (item :: items) hj (level + 1) _ _
          (breaks_newLine level _)).trans ?_
        rw [finish_newLine, List.singleton_append, finish_punctuation rfl, tokensOf]
        simp
      · nofun
  | .object (member :: members), hj, level, done, rest, _ => by
      rw [spreadChars, List.cons_append, finish_punctuation rfl, List.append_assoc,
        List.append_assoc]
      · refine (finish_spreadMembers (member :: members) hj (level + 1) _ _
          (breaks_newLine level _)).trans ?_
        rw [finish_newLine, List.singleton_append, finish_punctuation rfl, tokensOf]
        simp
      · nofun

theorem finish_spreadItems : ∀ (items : List Json) (_ : arePlain items = true) (level : Nat)
    (done : List Token) (rest : List Char) (_ : Breaks rest),
    finish ⟨.between, done⟩ (spreadItems level items ++ rest)
      = finish ⟨.between, (tokensOfItems items).reverse ++ done⟩ rest
  | [], _, _, _, _, _ => rfl
  | [item], hitems, level, done, rest, hrest => by
      simp only [arePlain, Bool.and_true] at hitems
      rw [spreadItems, List.append_assoc, finish_newLine]
      exact finish_spreadChars item hitems level done rest hrest
  | item :: next :: items, hitems, level, done, rest, hrest => by
      rw [arePlain, Bool.and_eq_true] at hitems
      have hcomma : Breaks (',' :: (spreadItems level (next :: items) ++ rest)) :=
        breaks_cons (by decide) _
      rw [spreadItems_cons, List.append_assoc, List.append_assoc, List.cons_append, finish_newLine,
        finish_spreadChars item hitems.1 level done _ hcomma, finish_punctuation rfl,
        finish_spreadItems (next :: items) hitems.2 level _ rest hrest, tokensOfItems_cons]
      simp

theorem finish_spreadMembers : ∀ (members : List (Option String × Json))
    (_ : arePlainMembers members = true) (level : Nat) (done : List Token) (rest : List Char)
    (_ : Breaks rest),
    finish ⟨.between, done⟩ (spreadMembers level members ++ rest)
      = finish ⟨.between, (tokensOfMembers members).reverse ++ done⟩ rest
  | [], _, _, _, _, _ => rfl
  | [member], hmembers, level, done, rest, hrest => by
      simp only [arePlainMembers, Bool.and_true] at hmembers
      rw [spreadMembers, List.append_assoc, finish_newLine]
      exact finish_spreadMember member hmembers level done rest hrest
  | member :: next :: members, hmembers, level, done, rest, hrest => by
      rw [arePlainMembers, Bool.and_eq_true] at hmembers
      have hcomma : Breaks (',' :: (spreadMembers level (next :: members) ++ rest)) :=
        breaks_cons (by decide) _
      rw [spreadMembers_cons, List.append_assoc, List.append_assoc, List.cons_append,
        finish_newLine, finish_spreadMember member hmembers.1 level done _ hcomma,
        finish_punctuation rfl,
        finish_spreadMembers (next :: members) hmembers.2 level _ rest hrest, tokensOfMembers_cons]
      simp

theorem finish_spreadMember : ∀ (member : Option String × Json)
    (_ : isPlainMember member = true) (level : Nat) (done : List Token) (rest : List Char)
    (_ : Breaks rest),
    finish ⟨.between, done⟩ (spreadMember level member ++ rest)
      = finish ⟨.between, (tokensOfMember member).reverse ++ done⟩ rest
  | (none, _), hmember, _, _, _, _ => by cases hmember
  | (some name, value), hmember, level, done, rest, hrest => by
      simp only [isPlainMember, Option.isSome_some, Bool.true_and] at hmember
      have hspace : step ⟨.between, .colon :: .text (some name) :: done⟩ ' '
          = some ⟨.between, .colon :: .text (some name) :: done⟩ := rfl
      rw [spreadMember, List.append_assoc, finish_quote, List.cons_append, finish_punctuation rfl,
        List.cons_append, finish_of_step hspace,
        finish_spreadChars value hmember level _ rest hrest, tokensOfMember]
      simp

end

end Scanner

/-- A value on lines of its own is cut into its tokens. -/
theorem tokens?_spreadChars {j : Json} (h : j.isPlain = true) :
    tokens? (spreadChars 0 j) = some (tokensOf j) := by
  have hend : Scanner.Breaks [] := nofun
  have hfinish := Scanner.finish_spreadChars j h 0 [] [] hend
  rw [List.append_nil, List.append_nil] at hfinish
  exact tokens?_of_finish hfinish

/-- **A value on lines of its own is read back.** -/
theorem ofText?_spread {j : Json} (h : j.isPlain = true) : ofText? j.spread = some j :=
  ofText?_of_tokens? (tokens?_spreadChars h)

end Json

end AssetMarket
