/-
**The code that a refusal tells.**

A ledger that refuses a transaction says so in a line of text, and the code of the program's error
stands behind a mark somewhere in it.  A mark begins with a character that does not come again in
it, so no two places of it overlap: wherever a text without the mark ends, the mark behind it is the
first one of the line.

The code is the longest run of digits behind the mark.  It may have zeros in front and letters of
either case, and what follows it begins with no digit.

Main definitions:

* `ProgramError.StartsOnce` — a mark that begins with a character of its own;
* `ProgramError.StandsBehind` — a code behind the first mark of a text;
* `ProgramError.TellsCode` — a text that tells a code.

Main results:

* `ProgramError.after?_eq_some_iff` — what follows the first place of a mark;
* `ProgramError.leadingCode?_eq_some_iff` — the code at the start of a text;
* `ProgramError.findCode?_eq_some_iff` — the code of a line;
* `ProgramError.refusal_tells_code` — **a refusal is the error whose code it tells**.
-/

import Mathlib.Data.List.TakeWhile
import AssetMarket.Ledger
import AssetMarket.Proofs.Text.Spelling

set_option relaxedAutoImplicit false
set_option autoImplicit false

namespace AssetMarket

namespace ProgramError

open Text (digit? isDigitOf Spells)

/-! ### The first place of a mark -/

/-- A mark whose first character does not come again in it. -/
def StartsOnce (mark : List Char) : Prop := ∃ c cs, mark = c :: cs ∧ c ∉ cs

theorem StartsOnce.ne_nil {mark : List Char} (h : StartsOnce mark) : mark ≠ [] := by
  obtain ⟨c, cs, rfl, -⟩ := h
  exact List.cons_ne_nil c cs

theorem startsOnce_hexadecimalMark : StartsOnce hexadecimalMark := ⟨_, _, rfl, by decide⟩

theorem startsOnce_decimalMark : StartsOnce decimalMark := ⟨_, _, rfl, by decide⟩

section

variable {mark front rest cs : List Char} {c : Char}

theorem after?_of_begins (h : mark <+: c :: cs) :
    after? mark (c :: cs) = some ((c :: cs).drop mark.length) := by
  rw [after?, if_pos (List.isPrefixOf_iff_prefix.2 h)]

theorem after?_of_not_begins (h : ¬ mark <+: c :: cs) :
    after? mark (c :: cs) = after? mark cs := by
  rw [after?, if_neg (mt List.isPrefixOf_iff_prefix.1 h)]

theorem after?_eq_none_iff : after? mark cs = none ↔ ¬ mark <:+: cs := by
  induction cs with
  | nil =>
      rw [after?, List.infix_nil]
      cases mark with
      | nil => simp
      | cons c mark => simp
  | cons c cs ih =>
      rw [List.infix_cons_iff]
      by_cases h : mark <+: c :: cs
      · rw [after?_of_begins h]
        exact ⟨nofun, fun hnot => absurd (.inl h) hnot⟩
      · rw [after?_of_not_begins h, ih, or_iff_right h]

/-- A mark that begins in a text and goes on beyond it would overlap the mark behind the text. -/
theorem prefix_of_prefix_append (hmark : StartsOnce mark)
    (h : mark <+: c :: (front ++ mark ++ rest)) : mark <+: c :: front := by
  obtain ⟨first, more, rfl, hfirst⟩ := hmark
  rw [List.cons_prefix_cons] at h
  obtain ⟨rfl, hmore⟩ := h
  -- the mark behind the text puts its first character where the earlier one still goes on
  have hnext : front ++ [first] <+: front ++ first :: more ++ rest := ⟨more ++ rest, by simp⟩
  rcases List.prefix_or_prefix_of_prefix hmore hnext with hshort | hlong
  · rcases List.prefix_concat_iff.1 hshort with rfl | hshort
    · exact absurd (by simp) hfirst
    · exact List.cons_prefix_cons.2 ⟨rfl, hshort⟩
  · exact absurd (hlong.mem (by simp)) hfirst

theorem after?_append (hmark : StartsOnce mark) (h : ¬ mark <:+: front) :
    after? mark (front ++ mark ++ rest) = some rest := by
  induction front with
  | nil =>
      obtain ⟨first, more, rfl, -⟩ := hmark
      rw [List.nil_append, List.cons_append, after?_of_begins ⟨rest, rfl⟩, ← List.cons_append,
        List.drop_left]
  | cons c front ih =>
      rw [List.infix_cons_iff, not_or] at h
      rw [List.cons_append, List.cons_append,
        after?_of_not_begins fun hprefix => h.1 (prefix_of_prefix_append hmark hprefix), ih h.2]

theorem exists_front_of_after? (hmark : mark ≠ []) (h : after? mark cs = some rest) :
    ∃ front, cs = front ++ mark ++ rest ∧ ¬ mark <:+: front := by
  induction cs with
  | nil =>
      rw [after?, if_neg (by simpa using hmark)] at h
      cases h
  | cons c cs ih =>
      by_cases hprefix : mark <+: c :: cs
      · rw [after?_of_begins hprefix] at h
        cases h
        refine ⟨[], ?_, fun hnil => hmark (List.infix_nil.1 hnil)⟩
        exact List.prefix_iff_eq_append.1 hprefix |>.symm
      · rw [after?_of_not_begins hprefix] at h
        obtain ⟨front, rfl, hfront⟩ := ih h
        refine ⟨c :: front, rfl, fun hinfix => ?_⟩
        -- a mark in front would have been found, at this place or at a later one
        rcases List.infix_cons_iff.1 hinfix with hstart | hlater
        · exact hprefix (hstart.trans ⟨mark ++ rest, by simp⟩)
        · exact hfront hlater

/-- What follows the first place of a mark: before it stands a text without the mark. -/
theorem after?_eq_some_iff (hmark : StartsOnce mark) :
    after? mark cs = some rest ↔ ∃ front, cs = front ++ mark ++ rest ∧ ¬ mark <:+: front := by
  refine ⟨exists_front_of_after? hmark.ne_nil, ?_⟩
  rintro ⟨front, rfl, hfront⟩
  exact after?_append hmark hfront

end

/-! ### The code at the start of a text -/

section

variable {base : Nat} {cs : List Char} {code : UInt32}

theorem ofNat_eq_iff {n : Nat} (h : n < 2 ^ 32) : UInt32.ofNat n = code ↔ n = code.toNat := by
  constructor
  · rintro rfl
    exact (UInt32.toNat_ofNat_of_lt' h).symm
  · rintro rfl
    exact UInt32.ofNat_toNat

/-- The code is spelled by all the digits at the start of the text. -/
theorem leadingCode?_eq_some_iff_takeWhile (hbase : 1 < base) (hbase' : base ≤ 16) :
    leadingCode? base cs = some code ↔ Spells base (cs.takeWhile (isDigitOf base)) code.toNat := by
  have hread {n : Nat} := Text.natural_eq_ok_iff_spells (n := n) hbase hbase'
    (show 0 < 2 ^ 32 by decide)
    fun c (hc : c ∈ cs.takeWhile (isDigitOf base)) => List.mem_takeWhile_imp hc
  unfold leadingCode?
  split
  next n hn =>
    obtain ⟨hspells, hlt⟩ := hread.1 hn
    rw [Option.some.injEq, ofNat_eq_iff hlt]
    exact ⟨fun hcode => hcode ▸ hspells, hspells.unique hbase hbase'⟩
  next hn =>
    refine ⟨nofun, fun hcode => ?_⟩
    cases hn.symm.trans (hread.2 ⟨hcode, code.toNat_lt⟩)

/-- **The code at the start of a text**: a number spelled there, and no digit behind it. -/
theorem leadingCode?_eq_some_iff (hbase : 1 < base) (hbase' : base ≤ 16) :
    leadingCode? base cs = some code ↔ ∃ digits back, cs = digits ++ back ∧
      Spells base digits code.toNat ∧ ∀ c ∈ back.head?, digit? base c = none := by
  rw [leadingCode?_eq_some_iff_takeWhile hbase hbase']
  constructor
  · intro h
    refine ⟨_, _, List.takeWhile_append_dropWhile.symm, h, fun c hc => ?_⟩
    have hstop := List.head?_dropWhile_not (isDigitOf base) cs
    rw [Option.mem_def.1 hc] at hstop
    exact Option.not_isSome_iff_eq_none.1 (Bool.eq_false_iff.1 hstop)
  · rintro ⟨digits, back, rfl, hspells, hback⟩
    have hstops : ∀ c ∈ back.head?, isDigitOf base c = false := by
      intro c hc
      rw [isDigitOf, hback c hc]
      rfl
    rwa [Text.takeWhile_append_of_stops (hspells.all_isDigitOf hbase hbase') hstops]

end

/-! ### The code of a line -/

/-- A code behind the first place of a mark, spelled in a base, and no digit behind it. -/
def StandsBehind (mark : List Char) (base : Nat) (cs : List Char) (code : UInt32) : Prop :=
  ∃ front digits back, cs = front ++ mark ++ digits ++ back ∧ ¬ mark <:+: front ∧
    Spells base digits code.toNat ∧ ∀ c ∈ back.head?, digit? base c = none

/-- A text that tells a code: behind the hexadecimal mark, or without that mark behind the decimal
one. -/
def TellsCode (cs : List Char) (code : UInt32) : Prop :=
  StandsBehind hexadecimalMark 16 cs code ∨
    ¬ hexadecimalMark <:+: cs ∧ StandsBehind decimalMark 10 cs code

section

variable {mark cs : List Char} {base : Nat} {code : UInt32} {line : String}

theorem standsBehind_iff (hmark : StartsOnce mark) (hbase : 1 < base) (hbase' : base ≤ 16) :
    StandsBehind mark base cs code ↔
      ∃ rest, after? mark cs = some rest ∧ leadingCode? base rest = some code := by
  simp only [after?_eq_some_iff hmark, leadingCode?_eq_some_iff hbase hbase']
  constructor
  · rintro ⟨front, digits, back, rfl, hfront, hspells, hback⟩
    exact ⟨digits ++ back, ⟨front, by rw [List.append_assoc], hfront⟩, digits, back, rfl, hspells,
      hback⟩
  · rintro ⟨_, ⟨front, rfl, hfront⟩, digits, back, rfl, hspells, hback⟩
    exact ⟨front, digits, back, by simp only [List.append_assoc], hfront, hspells, hback⟩

/-- **The code of a line is the one it tells.** -/
theorem findCode?_eq_some_iff : findCode? line = some code ↔ TellsCode line.toList code := by
  rw [TellsCode, standsBehind_iff startsOnce_hexadecimalMark (by decide) (by decide),
    standsBehind_iff startsOnce_decimalMark (by decide) (by decide), ← after?_eq_none_iff,
    findCode?]
  cases after? hexadecimalMark line.toList with
  | some rest => simp
  | none =>
      cases after? decimalMark line.toList with
      | some rest => simp
      | none => simp

theorem findCode?_eq_none (hhexadecimal : ¬ hexadecimalMark <:+: line.toList)
    (hdecimal : ¬ decimalMark <:+: line.toList) : findCode? line = none := by
  rw [findCode?, after?_eq_none_iff.2 hhexadecimal, after?_eq_none_iff.2 hdecimal]

end

/-- **A refusal is the error whose code it tells.**  The code that is found in a line is the one that
the line tells, and in a line without either mark there is none.  A refusal with a line that tells a
code is the error of the program with this code; with any other line it is a failure of the ledger,
which keeps the line. -/
theorem refusal_tells_code :
    (∀ (line : String) (code : UInt32),
      findCode? line = some code ↔ TellsCode line.toList code) ∧
    (∀ line : String, ¬ hexadecimalMark <:+: line.toList → ¬ decimalMark <:+: line.toList →
      findCode? line = none) ∧
    (∀ (line : String) (code : UInt32), TellsCode line.toList code →
      (QueryError.rejected line).toMarketError = .ofProgramCode code ∧
        (QueryError.rejected line).toMarketError.code = code) ∧
    ∀ line : String, (∀ code, ¬ TellsCode line.toList code) →
      (QueryError.rejected line).toMarketError = .ledger ("Transaction rejected: " ++ line) := by
  refine ⟨fun line code => findCode?_eq_some_iff, fun line => findCode?_eq_none,
    fun line code htells => ?_, fun line hnone => ?_⟩
  · have hfound := QueryError.toMarketError_rejected (findCode?_eq_some_iff.2 htells)
    exact ⟨hfound, by rw [hfound, MarketError.code_ofProgramCode]⟩
  · cases hfound : findCode? line with
    | none =>
        rw [QueryError.toMarketError, hfound]
        rfl
    | some code => exact absurd (findCode?_eq_some_iff.1 hfound) (hnone code)

/-- A line in which a mark is begun twice, one that tells a code in decimal, and one that tells
none. -/
theorem refusal_tells_code_begun_twice :
    findCode? "custom program error: custom program error: 0x000017Fc (log)" = some 6140 ∧
    (QueryError.rejected "Error Number: 6028. Error Message").toMarketError
      = .program 6028 "Placing Bid With Lower Than Highest Bid" ∧
    (QueryError.rejected "blockhash not found").toMarketError
      = .ledger "Transaction rejected: blockhash not found" := by
  obtain ⟨hfound, hnone, hprogram, hledger⟩ := refusal_tells_code
  refine ⟨?_, ?_, ?_⟩
  · have hend : ∀ c ∈ (' ' :: "(log)".toList).head?, digit? 16 c = none := by
      rintro c ⟨⟩
      rfl
    exact (hfound _ _).2 (.inl ⟨"custom program error: ".toList, "000017Fc".toList, _,
      by decide +kernel, by decide +kernel, ⟨4, by decide +kernel⟩, hend⟩)
  · have hend : ∀ c ∈ ('.' :: " Error Message".toList).head?, digit? 10 c = none := by
      rintro c ⟨⟩
      rfl
    have htells : TellsCode "Error Number: 6028. Error Message".toList 6028 :=
      .inr ⟨by decide +kernel, [], "6028".toList, _, by decide +kernel, by decide +kernel,
        ⟨0, by decide +kernel⟩, hend⟩
    rw [(hprogram _ _ htells).1]
    decide +kernel
  · have hmissing := hnone "blockhash not found" (by decide +kernel) (by decide +kernel)
    refine hledger _ fun code htells => ?_
    rw [(hfound _ _).2 htells] at hmissing
    cases hmissing

end ProgramError

end AssetMarket
