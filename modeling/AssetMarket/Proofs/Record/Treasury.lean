/-
**The slots in use and the slots behind them.**

A treasury has eight slots, and its count says how many of them, from the first on, are in use.  What
stands in the others is kept but has no part in anything that a treasury is asked for.  So a treasury
is its recipients and its padding: each can be replaced without the other, and both together are all
there is.

There are three ways to come by a treasury.  The empty one and those made of recipients have blank
padding; one that is read from the bytes of settings has whatever stands there.  The count among
these bytes may be any number, and with one beyond the capacity the settings are refused.

Main definitions:

* `Treasury.padding` — the slots that are not in use;
* `Treasury.repad` — a treasury with other padding.

Main results:

* `Treasury.active_append_padding`, `Treasury.ext_parts` — a treasury is its recipients and its
  padding;
* `Treasury.toNat_totalRate` — the sum of the rates in use;
* `Treasury.ofEntries_eq_ok_iff` — the treasury that is made of recipients;
* `GlobalConfig.treasury_of_decode` — the treasury that is read from bytes;
* `Treasury.recipients_exact` — **every treasury holds its recipients and nothing beyond them**.
-/

import AssetMarket.Proofs.Record.Codec

set_option relaxedAutoImplicit false
set_option autoImplicit false

namespace AssetMarket

namespace Treasury

/-! ### Recipients and padding -/

/-- The slots that are not in use. -/
def padding (t : Treasury) : List TreasurySlot := t.slots.drop t.count

/-- A treasury with other padding. -/
def repad (t : Treasury) (slots : List TreasurySlot)
    (h : t.count + slots.length = treasuryCapacity) : Treasury where
  count := t.count
  slots := t.active ++ slots
  length_slots := by rw [List.length_append, length_active, h]
  count_le := t.count_le

section

variable (t : Treasury) {slots : List TreasurySlot} (h : t.count + slots.length = treasuryCapacity)

theorem active_append_padding : t.active ++ t.padding = t.slots := List.take_append_drop ..

@[simp] theorem length_padding : t.padding.length = treasuryCapacity - t.count := by
  rw [padding, List.length_drop, t.length_slots]

@[simp] theorem active_repad : (t.repad slots h).active = t.active := by
  rw [active, repad, List.take_left' t.length_active]

@[simp] theorem padding_repad : (t.repad slots h).padding = slots := by
  rw [padding, repad, List.drop_left' t.length_active]

@[simp] theorem addresses_repad : (t.repad slots h).addresses = t.addresses := by
  rw [addresses, active_repad, addresses]

@[simp] theorem totalRate_repad : (t.repad slots h).totalRate = t.totalRate := by
  rw [totalRate, active_repad, totalRate]

/-- The recipients are the slots below the count, and no slot is looked at that is not there. -/
theorem getElem?_active {i : Nat} (hi : i < t.count) :
    i < t.slots.length ∧ t.active[i]? = t.slots[i]? := by
  rw [t.length_slots]
  exact ⟨Nat.lt_of_lt_of_le hi t.count_le, List.getElem?_take_of_lt hi⟩

/-- The sum of the rates in use is the exact one or the largest rate, whichever is less. -/
theorem toNat_totalRate :
    t.totalRate.toNat = min (2 ^ 64 - 1) (t.active.map fun slot => slot.2.toNat).sum := by
  have hfold : t.totalRate = (t.active.map (·.2)).foldl saturatingAdd 0 := List.foldl_map.symm
  rw [hfold, toNat_foldl_saturatingAdd, List.map_map]
  simp [Function.comp_def]

end

/-- A treasury is its recipients and its padding. -/
theorem ext_parts {t t' : Treasury} (hactive : t.active = t'.active)
    (hpadding : t.padding = t'.padding) : t = t' := by
  refine Treasury.ext ?_ ?_
  · rw [← t.length_active, hactive, t'.length_active]
  · rw [← t.active_append_padding, hactive, hpadding, t'.active_append_padding]

/-! ### Treasuries made of recipients -/

/-- Blank padding behind so many recipients. -/
def blanks (recipients : Nat) : List TreasurySlot :=
  List.replicate (treasuryCapacity - recipients) blankSlot

theorem active_empty : empty.active = [] := rfl

theorem padding_empty : empty.padding = blanks 0 := rfl

section

variable {entries : List TreasurySlot} {t : Treasury}

theorem padding_ofEntries (h : ofEntries entries = .ok t) : t.padding = blanks entries.length := by
  unfold ofEntries at h
  split at h
  · simp only [Except.ok.injEq] at h
    subst h
    exact List.drop_left
  · cases h

theorem ofEntries_of_le (h : entries.length ≤ treasuryCapacity) :
    ∃ t, ofEntries entries = .ok t := by
  rw [ofEntries, dif_pos h]
  exact ⟨_, rfl⟩

theorem ofEntries_of_lt (h : treasuryCapacity < entries.length) :
    ofEntries entries = .error (.treasuryCapacity treasuryCapacity entries.length) := by
  rw [ofEntries, dif_neg (Nat.not_le.2 h)]

/-- The treasury that is made of recipients: it has these, and blank padding. -/
theorem ofEntries_eq_ok_iff : ofEntries entries = .ok t ↔
    entries.length ≤ treasuryCapacity ∧ t.active = entries ∧
      t.padding = blanks entries.length := by
  constructor
  · intro h
    refine ⟨?_, active_ofEntries h, padding_ofEntries h⟩
    rw [← active_ofEntries h, length_active]
    exact t.count_le
  · rintro ⟨hle, hactive, hpadding⟩
    obtain ⟨t', ht'⟩ := ofEntries_of_le hle
    rw [ht', ext_parts ((active_ofEntries ht').trans hactive.symm)
      ((padding_ofEntries ht').trans hpadding.symm)]

end

end Treasury

/-! ### Treasuries read from bytes -/

namespace GlobalConfig

open Record (storedCount)

variable {bs : Bytes} {r : GlobalConfig}

/-- Settings are read if the bytes suffice and the count is within the capacity. -/
theorem exists_decode_iff :
    (∃ r, decode bs = .ok r) ↔ size ≤ bs.length ∧ storedCount bs ≤ treasuryCapacity := by
  rcases Nat.lt_or_ge bs.length size with hlt | hle
  · rw [decode, Record.checkLength_of_lt hlt]
    refine ⟨?_, fun h => absurd h.1 (Nat.not_le.2 hlt)⟩
    rintro ⟨r, ⟨⟩⟩
  · rcases Nat.lt_or_ge treasuryCapacity (storedCount bs) with hgt | hcount
    · rw [decode_of_count_gt hle hgt]
      refine ⟨?_, fun h => absurd h.2 (Nat.not_le.2 hgt)⟩
      rintro ⟨r, ⟨⟩⟩
    · exact ⟨fun _ => ⟨hle, hcount⟩, fun _ => ⟨_, decode_of_count_le hle hcount⟩⟩

/-- The treasury that is read from bytes has as many recipients as the bytes count, and they are the
first slots there. -/
theorem treasury_of_decode (h : decode bs = .ok r) :
    r.treasury.count = storedCount bs ∧
      r.treasury.active = (List.range (storedCount bs)).map (slotAt bs) ∧
      r.treasury.slots = (List.range treasuryCapacity).map (slotAt bs) := by
  obtain ⟨hle, hcount⟩ := exists_decode_iff.1 ⟨r, h⟩
  rw [decode_of_count_le hle hcount, Except.ok.injEq] at h
  subst h
  refine ⟨rfl, ?_, rfl⟩
  rw [Treasury.active, ← List.map_take, List.take_range, Nat.min_eq_left hcount]

end GlobalConfig

namespace Treasury

open Record (storedCount)

/-- **Every treasury holds its recipients and nothing beyond them.**  It counts at most eight, and
its recipients are so many of its slots from the first on; addresses and rates are theirs, and the
sum of the rates is the exact one unless that is beyond 64 bits.  Other padding changes nothing of
this.  Recipients make a treasury exactly if they are at most eight, and then the treasury has these
and blank slots.  Settings are read exactly if the bytes suffice and count at most eight recipients;
the slots are those that stand there, and the first of them are the recipients.  Settings that are
written and read again have the same treasury. -/
theorem recipients_exact :
    (∀ t : Treasury, t.count ≤ 8 ∧ t.active.length = t.count ∧
      (∀ i < t.count, i < t.slots.length ∧ t.active[i]? = t.slots[i]?) ∧
      t.addresses = t.active.map (·.1) ∧
      t.totalRate.toNat = min (2 ^ 64 - 1) (t.active.map fun slot => slot.2.toNat).sum) ∧
    (∀ (t : Treasury) (slots : List TreasurySlot) (h : t.count + slots.length = 8),
      (t.repad slots h).padding = slots ∧ (t.repad slots h).active = t.active ∧
        (t.repad slots h).addresses = t.addresses ∧ (t.repad slots h).totalRate = t.totalRate) ∧
    (empty.active = [] ∧ empty.padding = List.replicate 8 (Address.zero, 0)) ∧
    (∀ entries : List TreasurySlot, ((∃ t, ofEntries entries = .ok t) ↔ entries.length ≤ 8) ∧
      (8 < entries.length → ofEntries entries = .error (.treasuryCapacity 8 entries.length)) ∧
      ∀ t, ofEntries entries = .ok t → t.count = entries.length ∧ t.active = entries ∧
        t.padding = List.replicate (8 - entries.length) (Address.zero, 0)) ∧
    (∀ bs : Bytes, ((∃ r, GlobalConfig.decode bs = .ok r) ↔
        376 ≤ bs.length ∧ storedCount bs ≤ 8) ∧
      ∀ r, GlobalConfig.decode bs = .ok r → r.treasury.count = storedCount bs ∧
        r.treasury.active = (List.range (storedCount bs)).map (GlobalConfig.slotAt bs) ∧
        r.treasury.slots = (List.range 8).map (GlobalConfig.slotAt bs)) ∧
    ∀ r : GlobalConfig, ∃ r', GlobalConfig.decode r.encode = .ok r' ∧
      r'.treasury.active = r.treasury.active ∧ r'.treasury.count = r.treasury.count ∧
      r'.treasury.padding = r.treasury.padding := by
  refine ⟨fun t => ⟨t.count_le, t.length_active, fun i => t.getElem?_active, rfl,
    t.toNat_totalRate⟩, fun t slots h => ⟨t.padding_repad h, t.active_repad h, t.addresses_repad h,
    t.totalRate_repad h⟩, ⟨active_empty, padding_empty⟩,
    fun entries => ⟨?_, ofEntries_of_lt, fun t ht => ?_⟩,
    fun bs => ⟨GlobalConfig.exists_decode_iff, fun r => GlobalConfig.treasury_of_decode⟩,
    fun r => ⟨r, GlobalConfig.lawfulCodec.decode_encode r trivial, rfl, rfl, rfl⟩⟩
  · constructor
    · rintro ⟨t, ht⟩
      exact (ofEntries_eq_ok_iff.1 ht).1
    · exact ofEntries_of_le
  · obtain ⟨-, hactive, hpadding⟩ := ofEntries_eq_ok_iff.1 ht
    exact ⟨by rw [← t.length_active, hactive], hactive, hpadding⟩

/-- Two rates whose sum is beyond 64 bits, with six rates behind them that are not in use, and a
recipient too many. -/
theorem recipients_exact_saturated :
    (∃ t h, ofEntries [(.marketplace, UInt64.ofNat (2 ^ 64 - 1)), (.zero, 5)] = .ok t ∧
      (t.repad (List.replicate 6 (.zero, 7)) h).totalRate.toNat = 2 ^ 64 - 1 ∧
      storedCount (GlobalConfig.encode ⟨.zero, 0, t.repad (List.replicate 6 (.zero, 7)) h⟩) = 2) ∧
    ofEntries (List.replicate 9 (.zero, 1)) = .error (.treasuryCapacity 8 9) := by
  obtain ⟨hall, hrepad, -, hentries, hdecode, hencode⟩ := recipients_exact
  obtain ⟨t, ht⟩ :=
    (hentries [(.marketplace, UInt64.ofNat (2 ^ 64 - 1)), (.zero, 5)]).1.2 (by decide)
  obtain ⟨hcount, hactive, -⟩ := (hentries _).2.2 t ht
  have hfull : t.count + (List.replicate 6 (Address.zero, (7 : UInt64))).length = 8 := by
    rw [hcount]
    rfl
  refine ⟨⟨t, hfull, ht, ?_, ?_⟩, (hentries _).2.1 (by decide)⟩
  · obtain ⟨-, -, -, htotal⟩ := hrepad t _ hfull
    rw [htotal, (hall t).2.2.2.2, hactive]
    rfl
  · obtain ⟨r', hr', -, hcount', -⟩ := hencode ⟨.zero, 0, t.repad _ hfull⟩
    rw [← ((hdecode _).2 r' hr').1, hcount']
    exact hcount

end Treasury

end AssetMarket
