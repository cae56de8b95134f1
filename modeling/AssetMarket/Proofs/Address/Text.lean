/-
**Addresses as text.**

The text of an address has neither blanks around it nor too many digits, so that it reads back; and
as a text in base 58 is read as that byte string only of which it is the text, it is the one text of
the address.

On the command line an address may be given by its hexadecimal digits as well.  There are sixty-four
of them, and no text of an address is as long; behind a mark they are not even base 58, which has no
zero.  So the two ways are never taken for one another.

Main definitions:

* `Address.KeyForm` — the ways to write an address on the command line.

Main results:

* `Address.ofText_text` — **the text of an address reads back**;
* `Address.ofText_eq_ok_iff` — nothing else is read as the address;
* `Address.ofText_eq_breakdown_iff` — the reader breaks down only with that of base 58;
* `Address.text_canonical` — **an address has one text**, with blanks around it or without;
* `Address.ofKeyText_eq_ok_iff` — what is read on the command line;
* `Address.keyText_forms` — **on the command line the forms of an address are read, and no others**.
-/

import AssetMarket.Address.Text
import AssetMarket.Proofs.Text.Base58
import AssetMarket.Proofs.Text.Blank
import AssetMarket.Proofs.Text.Hex

set_option relaxedAutoImplicit false
set_option autoImplicit false

namespace AssetMarket

namespace Address

theorem not_isBlank_of_mem_alphabet : ∀ c ∈ Base58.alphabet, Text.isBlank c = false := by
  have hall : Base58.alphabet.all (fun c => !Text.isBlank c) = true := by decide +kernel
  intro c hc
  simpa using List.all_eq_true.1 hall c hc

theorem toList_text (a : Address) : a.text.toList = Base58.encodeChars a.bytes :=
  String.toList_ofList

theorem not_isBlank_of_mem_text {a : Address} : ∀ c ∈ a.text.toList, Text.isBlank c = false := by
  intro c hc
  rw [toList_text] at hc
  exact not_isBlank_of_mem_alphabet c (Base58.mem_alphabet_of_mem_encodeChars c hc)

theorem decodeChars_text (a : Address) :
    Base58.decodeChars (Base58.encodeChars a.bytes) = .ok a.bytes := by
  have hfits : a.bytes.length ≤ Base58.room := by
    rw [a.length_bytes]
    decide
  rw [Base58.decodeChars_encodeChars, if_pos hfits]

/-- **The text of an address reads back.** -/
theorem ofText_text (a : Address) : ofText a.text = .ok a := by
  rw [ofText, Text.trim_eq_self _ not_isBlank_of_mem_text, toList_text, decodeChars_text]
  simp only [ofBytes?_bytes]

/-! ### One text -/

section

variable {s : String} {a : Address}

theorem ofText_eq_ok_iff : ofText s = .ok a ↔ Text.trim s.toList = a.text.toList := by
  constructor
  · intro h
    rw [ofText] at h
    split at h
    next => cases h
    next bs hbs =>
      split at h
      next a' ha' =>
        cases h
        rw [ofBytes?_eq_some_iff] at ha'
        rw [Base58.eq_encodeChars_of_decodeChars hbs, ha', toList_text]
      next => cases h
  · intro h
    rw [ofText, h, toList_text, decodeChars_text]
    simp only [ofBytes?_bytes]

/-- The failure that stands for a breakdown is given where the reader of base 58 breaks down, and
for no other text. -/
theorem ofText_eq_breakdown_iff :
    ofText s = .error .breakdown ↔
      Base58.decodeChars (Text.trim s.toList) = .error .breakdown := by
  constructor
  · intro h
    rw [ofText] at h
    split at h
    next e he =>
      cases e with
      | breakdown => exact he
      | _ => cases h
    next => split at h <;> cases h
  · intro h
    rw [ofText, h]
    rfl

theorem text_injective {b : Address} (h : a.text = b.text) : a = b := by
  have hread := ofText_text a
  rw [h, ofText_text b] at hread
  exact (Except.ok.inj hread).symm

end

/-- **An address has one text.**  With blanks around it the text of an address is read as the
address, and nothing else is: without the blanks around it, whatever is read as an address is its
text.  So two addresses have two texts, and texts that are read as one address differ in blanks
only. -/
theorem text_canonical :
    (∀ (s : String) (a : Address), ofText s = .ok a ↔ Text.Surrounds s.toList a.text.toList) ∧
    (∀ (s : String) (a : Address), ofText s = .ok a →
      String.ofList (Text.trim s.toList) = a.text) ∧
    (∀ a b : Address, a.text = b.text → a = b) ∧
    ∀ (s s' : String) (a : Address), ofText s = .ok a → ofText s' = .ok a →
      Text.trim s.toList = Text.trim s'.toList := by
  refine ⟨fun s a => ?_, fun s a h => ?_, fun a b => text_injective, fun s s' a h h' => ?_⟩
  · rw [ofText_eq_ok_iff, Text.surrounds_iff not_isBlank_of_mem_text]
  · rw [ofText_eq_ok_iff.1 h, String.ofList_toList]
  · rw [ofText_eq_ok_iff.1 h, ofText_eq_ok_iff.1 h']

theorem text_canonical_surrounded : ofText "\t11111111111111111111111111111111\u3000" = .ok zero ∧
    ofText "11111111111111111111111111111111" = .ok zero ∧
    String.ofList (Text.trim "\t11111111111111111111111111111111\u3000".toList) = zero.text := by
  obtain ⟨hread, htrim, -⟩ := text_canonical
  have htext : zero.text.toList = List.replicate 32 '1' := by decide +kernel
  have hblanks : ofText "\t11111111111111111111111111111111\u3000" = .ok zero :=
    (hread _ _).2 ⟨['\t'], ['\u3000'], List.forall_mem_singleton.2 rfl,
      List.forall_mem_singleton.2 rfl, by rw [htext]; decide⟩
  exact ⟨hblanks, (hread _ _).2 ⟨[], [], nofun, nofun, by rw [htext]; decide⟩, htrim _ _ hblanks⟩

/-! ### Two ways on the command line -/

/-- The ways to write an address on the command line: its text, or its hexadecimal digits in either
case, with a mark or without. -/
inductive KeyForm (a : Address) : List Char → Prop where
  | text : KeyForm a a.text.toList
  | digits {ds : List Char} : ds.map Char.toLower = Hex.digits a.bytes → KeyForm a ds
  | marked {mark : Char} {ds : List Char} : mark = 'x' ∨ mark = 'X' →
      ds.map Char.toLower = Hex.digits a.bytes → KeyForm a ('0' :: mark :: ds)

section

variable {cs ds : List Char} {a : Address} {s : String}

theorem ofHexChars_eq_ok_iff :
    ofHexChars cs = .ok a ↔ (Hex.dropMark cs).map Char.toLower = Hex.digits a.bytes := by
  rw [← Hex.decodeDigits_eq_ok_iff, ofHexChars]
  cases Hex.decodeDigits (Hex.dropMark cs) with
  | error e => exact ⟨nofun, nofun⟩
  | ok bs =>
      rw [Except.ok.injEq, ← ofBytes?_eq_some_iff]
      show (ofBytes? bs).elim _ _ = _ ↔ _
      cases ofBytes? bs with
      | none => exact ⟨nofun, nofun⟩
      | some a' => exact ⟨fun h => congrArg some (Except.ok.inj h),
          fun h => congrArg Except.ok (Option.some.inj h)⟩

theorem keyForm_of_dropMark (h : (Hex.dropMark cs).map Char.toLower = Hex.digits a.bytes) :
    KeyForm a cs := by
  cases Hex.form_iff.2 h with
  | digits hdigits => exact .digits hdigits
  | marked hmark hdigits => exact .marked hmark hdigits

/-- Sixty-four hexadecimal digits are what the digits of an address look like. -/
theorem isKeyDigits_of_digits (h : ds.map Char.toLower = Hex.digits a.bytes) :
    isKeyDigits ds = true := by
  have hmem := Hex.isHexadecimal_of_map_toLower h
  rw [isKeyDigits, Hex.utf8Length_eq_length hmem, Hex.length_of_map_toLower h, a.length_bytes,
    List.all_eq_true.2 hmem]
  rfl

/-- The text of an address is too short to be taken for its digits. -/
theorem isKeyDigits_text (a : Address) : isKeyDigits a.text.toList = false := by
  refine Bool.eq_false_iff.2 fun h => ?_
  rw [isKeyDigits, Bool.and_eq_true, beq_iff_eq, List.all_eq_true] at h
  obtain ⟨hlength, hmem⟩ := h
  have hshort := Base58.length_encodeChars_le a.bytes
  rw [Hex.utf8Length_eq_length hmem, toList_text] at hlength
  rw [hlength, a.length_bytes] at hshort
  omega

theorem isKeyDigits_marked {mark : Char} (h : mark = 'x' ∨ mark = 'X') (ds : List Char) :
    isKeyDigits ('0' :: mark :: ds) = false := by
  have hnot : Text.isHexadecimal mark = false := by
    rcases h with rfl | rfl
    · decide
    · decide
  rw [isKeyDigits, List.all_cons, List.all_cons, hnot, Bool.false_and, Bool.and_false,
    Bool.and_false]

/-- There is no zero in base 58. -/
theorem decodeChars_zero (cs : List Char) :
    Base58.decodeChars ('0' :: cs) = .error (.invalidCharacter '0' 0) := rfl

theorem ofKeyText_eq_ok_iff : ofKeyText s = .ok a ↔ KeyForm a (Text.trim s.toList) := by
  rw [ofKeyText]
  generalize Text.trim s.toList = cs
  constructor
  · intro h
    split at h
    next => exact keyForm_of_dropMark (ofHexChars_eq_ok_iff.1 h)
    next =>
      split at h
      next bs hbs =>
        cases ha : ofBytes? bs with
        | none =>
            rw [ha] at h
            cases h
        | some a' =>
            rw [ha] at h
            cases h
            rw [Base58.eq_encodeChars_of_decodeChars hbs, ofBytes?_eq_some_iff.1 ha, ← toList_text]
            exact .text
      next => cases h
      next => exact keyForm_of_dropMark (ofHexChars_eq_ok_iff.1 h)
  · intro h
    cases h with
    | text =>
        rw [isKeyDigits_text, toList_text, decodeChars_text]
        simp
    | digits hdigits =>
        rw [isKeyDigits_of_digits hdigits, if_pos rfl, ofHexChars_eq_ok_iff,
          Hex.dropMark_eq_self (Hex.isHexadecimal_of_map_toLower hdigits)]
        exact hdigits
    | @marked mark ds hmark hdigits =>
        have hdrop : Hex.dropMark ('0' :: mark :: ds) = ds := by
          rcases hmark with rfl | rfl
          · rfl
          · rfl
        rw [isKeyDigits_marked hmark, decodeChars_zero]
        simp only [Bool.false_eq_true, if_false]
        rw [ofHexChars_eq_ok_iff, hdrop]
        exact hdigits

theorem not_isBlank_of_keyForm (h : KeyForm a cs) : ∀ c ∈ cs, Text.isBlank c = false := by
  cases h with
  | text => exact not_isBlank_of_mem_text
  | digits hdigits => exact (Hex.Form.digits hdigits).not_isBlank
  | marked hmark hdigits => exact (Hex.Form.marked hmark hdigits).not_isBlank

end

/-- **On the command line the forms of an address are read, and no others.**  With blanks around it,
each form of an address is read as the address; whatever is read as an address is one of its forms
without the blanks around it; and where the strict reader reads an address, so does this one. -/
theorem keyText_forms :
    (∀ (s : String) (a : Address), ofKeyText s = .ok a ↔
      ∃ cs, KeyForm a cs ∧ Text.Surrounds s.toList cs) ∧
    (∀ (s : String) (a : Address), ofKeyText s = .ok a → KeyForm a (Text.trim s.toList)) ∧
    ∀ (s : String) (a : Address), ofText s = .ok a → ofKeyText s = .ok a := by
  refine ⟨fun s a => ⟨fun h => ?_, ?_⟩, fun s a => ofKeyText_eq_ok_iff.1, fun s a h => ?_⟩
  · exact ⟨_, ofKeyText_eq_ok_iff.1 h, Text.surrounds_trim _⟩
  · rintro ⟨cs, hform, hsurrounds⟩
    rw [Text.surrounds_iff (not_isBlank_of_keyForm hform)] at hsurrounds
    rw [ofKeyText_eq_ok_iff, hsurrounds]
    exact hform
  · rw [ofKeyText_eq_ok_iff, ofText_eq_ok_iff.1 h]
    exact .text

theorem keyText_forms_marked :
    ofKeyText " 0XA3BBF788e0e58baac8b51067069238de3e7e00f3dbe5582195e37c129a0dda9e"
      = .ok marketplace ∧ ofKeyText marketplace.text = .ok marketplace := by
  obtain ⟨hread, -, hstrict⟩ := keyText_forms
  have hdigits : "A3BBF788e0e58baac8b51067069238de3e7e00f3dbe5582195e37c129a0dda9e".toList.map
      Char.toLower = Hex.digits marketplace.bytes := by decide +kernel
  exact ⟨(hread _ _).2 ⟨_, .marked (.inr rfl) hdigits, [' '], [],
      List.forall_mem_singleton.2 rfl, nofun, by decide⟩,
    hstrict _ _ (ofText_text marketplace)⟩

end Address

end AssetMarket
