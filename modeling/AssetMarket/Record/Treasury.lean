/-
**The treasury.**

The marketplace splits its fee among up to eight recipients.  The record keeps eight slots, each an
address and a rate, and the number of those in use.  Slots that are not in use are kept as they were
read, so that writing the record again gives the same bytes.

Main definitions:

* `Treasury` — the slots and their count;
* `Treasury.empty`, `Treasury.ofEntries` — treasuries from entries;
* `Treasury.active` — the slots in use;
* `Treasury.totalRate` — the sum of their rates.

Main results:

* `Treasury.length_active` — there are as many slots in use as the count says;
* `Treasury.active_ofEntries` — the entries a treasury is made of are its slots in use.
-/

import AssetMarket.Address
import AssetMarket.Error
import AssetMarket.Saturate

set_option relaxedAutoImplicit false
set_option autoImplicit false

namespace AssetMarket

/-- A recipient: an address and its rate in parts per ten thousand. -/
abbrev TreasurySlot := Address × UInt64

/-- The number of slots. -/
def treasuryCapacity : Nat := 8

/-- The recipients of the marketplace's fee. -/
@[ext]
structure Treasury where
  count : Nat
  slots : List TreasurySlot
  length_slots : slots.length = treasuryCapacity
  count_le : count ≤ treasuryCapacity
  deriving DecidableEq

namespace Treasury

/-- A slot that was never written. -/
def blankSlot : TreasurySlot := (Address.zero, 0)

/-- The treasury without recipients. -/
def empty : Treasury :=
  ⟨0, List.replicate treasuryCapacity blankSlot, rfl, by decide⟩

instance : Inhabited Treasury := ⟨empty⟩

/-- The treasury with these recipients and blank slots after them. -/
def ofEntries (entries : List TreasurySlot) : Except MarketError Treasury :=
  if h : entries.length ≤ treasuryCapacity then
    .ok
      { count := entries.length
        slots := entries ++ List.replicate (treasuryCapacity - entries.length) blankSlot
        length_slots := by simp; omega
        count_le := h }
  else .error (.treasuryCapacity treasuryCapacity entries.length)

/-- The slots in use, in order. -/
def active (t : Treasury) : List TreasurySlot := t.slots.take t.count

/-- The addresses of the slots in use. -/
def addresses (t : Treasury) : List Address := t.active.map (·.1)

/-- The sum of the rates in use. -/
def totalRate (t : Treasury) : UInt64 := t.active.foldl (fun sum slot => saturatingAdd sum slot.2) 0

@[simp] theorem length_active (t : Treasury) : t.active.length = t.count := by
  have hslots := t.length_slots
  have hcount := t.count_le
  simp [active, hslots, hcount]

theorem active_ofEntries {entries : List TreasurySlot} {t : Treasury}
    (h : ofEntries entries = .ok t) : t.active = entries := by
  unfold ofEntries at h
  split at h
  · simp only [Except.ok.injEq] at h
    subst h
    simp [active]
  · simp at h

end Treasury

end AssetMarket
