/-
**Blank characters and trimming.**

Every text the market reads from a person is trimmed first, and what counts as blank is the Unicode
property `White_Space`, not the handful of ASCII blanks.

Main definitions:

* `Text.isBlank` — whether a character has the property;
* `Text.trim` — a text without the blanks at its two ends;
* `Text.utf8Length` — how many bytes a text takes in UTF-8.

Main results:

* `Text.isBlank_of_isWhitespace` — every ASCII blank is blank;
* `Text.trim_eq_self` — a text without blanks is left alone.
-/

import AssetMarket.Number

set_option relaxedAutoImplicit false
set_option autoImplicit false

namespace AssetMarket

namespace Text

/-! ### The property -/

/-- The closed ranges of code points that have the property `White_Space`. -/
def blankRanges : List (Nat × Nat) :=
  [(0x09, 0x0D), (0x20, 0x20), (0x85, 0x85), (0xA0, 0xA0), (0x1680, 0x1680), (0x2000, 0x200A),
   (0x2028, 0x2029), (0x202F, 0x202F), (0x205F, 0x205F), (0x3000, 0x3000)]

/-- Whether a character is blank. -/
def isBlank (c : Char) : Bool :=
  blankRanges.any fun range => range.1 ≤ c.toNat && c.toNat ≤ range.2

theorem isBlank_of_isWhitespace (c : Char) (h : c.isWhitespace = true) : isBlank c = true := by
  simp only [Char.isWhitespace, Bool.or_eq_true, decide_eq_true_eq] at h
  rcases h with ((rfl | rfl) | rfl) | rfl <;> decide

/-! ### Trimming -/

/-- A text without the blanks at its start. -/
def trimStart (cs : List Char) : List Char := cs.dropWhile isBlank

/-- A text without the blanks at its end. -/
def trimEnd (cs : List Char) : List Char := (cs.reverse.dropWhile isBlank).reverse

/-- A text without the blanks at its two ends. -/
def trim (cs : List Char) : List Char := trimEnd (trimStart cs)

@[simp] theorem trim_nil : trim [] = [] := rfl

theorem trimStart_eq_self (cs : List Char) (h : ∀ c ∈ cs.head?, isBlank c = false) :
    trimStart cs = cs := by
  cases cs with
  | nil => rfl
  | cons c cs => simp [trimStart, h c (by simp)]

theorem trimEnd_eq_self (cs : List Char) (h : ∀ c ∈ cs.getLast?, isBlank c = false) :
    trimEnd cs = cs := by
  have hrev : ∀ c ∈ cs.reverse.head?, isBlank c = false := by
    simpa [List.head?_reverse] using h
  have hdrop := trimStart_eq_self cs.reverse hrev
  simp only [trimStart] at hdrop
  simp [trimEnd, hdrop]

theorem trim_eq_self (cs : List Char) (h : ∀ c ∈ cs, isBlank c = false) : trim cs = cs := by
  have hs : trimStart cs = cs :=
    trimStart_eq_self cs fun c hc => h c (List.mem_of_mem_head? hc)
  rw [trim, hs]
  exact trimEnd_eq_self cs fun c hc => h c (List.mem_of_mem_getLast? hc)

/-! ### Size in bytes -/

/-- The number of bytes of a text in UTF-8. -/
def utf8Length (cs : List Char) : Nat := (cs.map Char.utf8Size).sum

@[simp] theorem utf8Length_nil : utf8Length [] = 0 := rfl

@[simp] theorem utf8Length_cons (c : Char) (cs : List Char) :
    utf8Length (c :: cs) = c.utf8Size + utf8Length cs := rfl

end Text

end AssetMarket
