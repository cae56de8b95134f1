/-
**Texts with blanks around them.**

Trimming takes off the blanks around a text and nothing else: what it leaves stands in the text with
blanks in front and behind, and whatever stands so in a text is trimmed as it would be alone.

Main definitions:

* `Text.Surrounds` — a text is another with blanks around it.

Main results:

* `Text.surrounds_trim` — a text is the trimmed text with blanks around it;
* `Text.trim_of_surrounds` — blanks around a text are trimmed away;
* `Text.surrounds_iff` — a text without blanks stands in all texts that are trimmed to it.
-/

import Mathlib.Data.List.TakeWhile
import AssetMarket.Text.Blank

set_option relaxedAutoImplicit false
set_option autoImplicit false

namespace AssetMarket

namespace Text

/-- A text is another with blanks around it. -/
def Surrounds (cs inner : List Char) : Prop :=
  ∃ front back, (∀ c ∈ front, isBlank c = true) ∧ (∀ c ∈ back, isBlank c = true) ∧
    cs = front ++ inner ++ back

variable {cs inner : List Char}

theorem trimStart_append {front : List Char} (h : ∀ c ∈ front, isBlank c = true) (cs : List Char) :
    trimStart (front ++ cs) = trimStart cs :=
  List.dropWhile_append_of_pos h

theorem trimEnd_append {back : List Char} (h : ∀ c ∈ back, isBlank c = true) (cs : List Char) :
    trimEnd (cs ++ back) = trimEnd cs := by
  rw [trimEnd, List.reverse_append,
    List.dropWhile_append_of_pos fun c hc => h c (List.mem_reverse.1 hc), ← trimEnd]

theorem exists_trimStart (cs : List Char) :
    ∃ front, (∀ c ∈ front, isBlank c = true) ∧ cs = front ++ trimStart cs :=
  ⟨cs.takeWhile isBlank, fun _ => List.mem_takeWhile_imp, List.takeWhile_append_dropWhile.symm⟩

theorem exists_trimEnd (cs : List Char) :
    ∃ back, (∀ c ∈ back, isBlank c = true) ∧ cs = trimEnd cs ++ back := by
  refine ⟨(cs.reverse.takeWhile isBlank).reverse,
    fun c hc => List.mem_takeWhile_imp (List.mem_reverse.1 hc), ?_⟩
  rw [trimEnd, ← List.reverse_append, List.takeWhile_append_dropWhile, List.reverse_reverse]

/-- A text is the trimmed text with blanks around it. -/
theorem surrounds_trim (cs : List Char) : Surrounds cs (trim cs) := by
  obtain ⟨front, hfront, hstart⟩ := exists_trimStart cs
  obtain ⟨back, hback, hend⟩ := exists_trimEnd (trimStart cs)
  refine ⟨front, back, hfront, hback, ?_⟩
  rw [List.append_assoc, trim, ← hend, ← hstart]

/-- A trimmed text does not begin with a blank. -/
theorem not_isBlank_head_trim : ∀ c ∈ (trim cs).head?, isBlank c = false := by
  intro c hc
  obtain ⟨back, -, hend⟩ := exists_trimEnd (trimStart cs)
  have hhead := List.head?_dropWhile_not isBlank cs
  have hstart : (cs.dropWhile isBlank).head? = some c := by
    rw [← trimStart, hend, ← trim, List.head?_append, Option.mem_def.1 hc]
    rfl
  rw [hstart] at hhead
  exact hhead

/-- Blanks around a text are trimmed away. -/
theorem trim_of_surrounds (h : Surrounds cs inner) : trim cs = trim inner := by
  obtain ⟨front, back, hfront, hback, rfl⟩ := h
  rw [List.append_assoc, trim, trim, trimStart_append hfront]
  by_cases hblank : ∀ c ∈ inner, isBlank c = true
  · -- nothing but blanks: both sides are empty
    have hall : ∀ c ∈ inner ++ back, isBlank c = true := by
      simpa only [List.forall_mem_append] using ⟨hblank, hback⟩
    rw [trimStart, trimStart, List.dropWhile_eq_nil_iff.2 hall, List.dropWhile_eq_nil_iff.2 hblank]
  · have hstart : trimStart (inner ++ back) = trimStart inner ++ back := by
      have hne : (inner.dropWhile isBlank).isEmpty = false := by
        rw [List.isEmpty_eq_false_iff, ne_eq, List.dropWhile_eq_nil_iff]
        exact hblank
      rw [trimStart, List.dropWhile_append, hne]
      rfl
    rw [hstart, trimEnd_append hback]

/-- A text without blanks stands in all texts that are trimmed to it. -/
theorem surrounds_iff (h : ∀ c ∈ inner, isBlank c = false) :
    Surrounds cs inner ↔ trim cs = inner := by
  constructor
  · intro hsurrounds
    rw [trim_of_surrounds hsurrounds, trim_eq_self inner h]
  · rintro rfl
    exact surrounds_trim cs

end Text

end AssetMarket
