/-
**A submission is carried out as a whole or not at all.**

A transaction may create several records.  It is refused if one of their addresses is taken, be it
by an account or by an earlier instruction of the same transaction, and then the ledger is what it
was.  Otherwise there is one account more for each record, and nothing that was there is touched.

Main definitions:

* `CreatesAt` — one of some instructions creates a record at an address;
* `MemoryLedger.Blocked` — a transaction needs an address that is taken;
* `MemoryLedger.Extends` — what changes when a transaction is carried out.

Main results:

* `MemoryLedger.conflict?_eq_none_iff`, `MemoryLedger.blocked_of_conflict?` — the ledger looks for a
  conflict, and finds one exactly if the transaction is blocked;
* `MemoryLedger.accounts_of_creation`, `MemoryLedger.accounts_of_not_created` — the accounts after a
  transaction;
* `MemoryLedger.extends_of_submit` — **a transaction that is carried out only adds its records**.
-/

import Mathlib.Data.List.Pairwise
import AssetMarket.Proofs.Ledger.Creation

set_option relaxedAutoImplicit false
set_option autoImplicit false

namespace AssetMarket

/-- The instruction at position `k` creates a record at an address. -/
def CreatesAt (market : Address) (is : List Instruction) (k : Nat) (a : Address) : Prop :=
  ∃ i, is[k]? = some i ∧ i.Creates market a

namespace MemoryLedger

/-- An address that a transaction needs is taken, by an account or by an earlier instruction. -/
def Blocked (l : MemoryLedger) (tx : Transaction) (a : Address) : Prop :=
  ∃ k, CreatesAt l.market tx.instructions k a ∧
    (a ∈ l.accounts ∨ ∃ j < k, CreatesAt l.market tx.instructions j a)

/-- A ledger after a transaction: there is one account more for each instruction that creates a
record, at an address that was free, the transaction is the last of those submitted, and the rest is
as before. -/
structure Extends (l : MemoryLedger) (tx : Transaction) (l' : MemoryLedger) : Prop where
  market : l'.market = l.market
  transactions : l'.transactions = l.transactions
  index : l'.index = l.index
  submitted : l'.submitted = l.submitted ++ [tx]
  kept : ∀ (a : Address) (account : StoredAccount),
    l.accounts[a]? = some account → l'.accounts[a]? = some account
  added : ∀ a, a ∈ l'.accounts ∧ a ∉ l.accounts ↔ ∃ k, CreatesAt l.market tx.instructions k a
  once : ∀ a j k, CreatesAt l.market tx.instructions j a → CreatesAt l.market tx.instructions k a →
    j = k

/-! ### Targets -/

section

variable {l : MemoryLedger} {tx : Transaction} {is : List Instruction} {a : Address}

/-- The address at which an instruction creates a record. -/
def target? (l : MemoryLedger) (i : Instruction) : Option Address := (l.creation? i).map (·.1)

theorem target?_eq_some_iff {i : Instruction} :
    l.target? i = some a ↔ i.Creates l.market a := by
  rw [target?, Option.map_eq_some_iff, ← exists_creation?_iff]
  constructor
  · rintro ⟨⟨a, r⟩, hcreation, rfl⟩
    exact ⟨r, hcreation⟩
  · rintro ⟨r, hcreation⟩
    exact ⟨(a, r), hcreation, rfl⟩

/-- The addresses at which some instructions create records, in the order of the instructions. -/
def targets (l : MemoryLedger) (is : List Instruction) : List Address := is.filterMap l.target?

theorem map_creations (tx : Transaction) :
    (l.creations tx).map (·.1) = l.targets tx.instructions := by
  rw [creations, List.map_filterMap]
  rfl

theorem mem_targets_iff : a ∈ l.targets is ↔ ∃ k, CreatesAt l.market is k a := by
  rw [targets, List.mem_filterMap]
  constructor
  · rintro ⟨i, hi, htarget⟩
    obtain ⟨k, hk⟩ := List.mem_iff_getElem?.1 hi
    exact ⟨k, i, hk, target?_eq_some_iff.1 htarget⟩
  · rintro ⟨k, i, hk, hcreates⟩
    exact ⟨i, List.mem_of_getElem? hk, target?_eq_some_iff.2 hcreates⟩

theorem targets_append (is js : List Instruction) :
    l.targets (is ++ js) = l.targets is ++ l.targets js := List.filterMap_append

/-- What an instruction creates depends on the market alone. -/
theorem targets_congr {l' : MemoryLedger} (h : l.market = l'.market) :
    l.targets is = l'.targets is := by
  refine List.filterMap_congr fun i _ => Option.ext fun a => ?_
  rw [target?_eq_some_iff, target?_eq_some_iff, h]

theorem nodup_targets_iff :
    (l.targets is).Nodup ↔
      ∀ a j k, CreatesAt l.market is j a → CreatesAt l.market is k a → j = k := by
  rw [targets, List.Nodup, List.pairwise_filterMap, List.pairwise_iff_getElem]
  constructor
  · intro hdistinct a j k hj hk
    obtain ⟨i, hi, hcreates⟩ := hj
    obtain ⟨i', hi', hcreates'⟩ := hk
    obtain ⟨hjlt, rfl⟩ := List.getElem?_eq_some_iff.1 hi
    obtain ⟨hklt, rfl⟩ := List.getElem?_eq_some_iff.1 hi'
    have htarget := target?_eq_some_iff.2 hcreates
    have htarget' := target?_eq_some_iff.2 hcreates'
    rcases Nat.lt_trichotomy j k with hlt | heq | hgt
    · exact absurd rfl (hdistinct j k hjlt hklt hlt a htarget a htarget')
    · exact heq
    · exact absurd rfl (hdistinct k j hklt hjlt hgt a htarget' a htarget)
  · rintro honce j k hj hk hlt a htarget a' htarget' rfl
    have heq := honce a j k ⟨_, List.getElem?_eq_getElem hj, target?_eq_some_iff.1 htarget⟩
      ⟨_, List.getElem?_eq_getElem hk, target?_eq_some_iff.1 htarget'⟩
    omega

/-! ### Conflicts -/

theorem exists_of_firstTaken? {taken : Address → Bool} {as : List Address}
    (h : firstTaken? taken as = some a) :
    ∃ front back, as = front ++ a :: back ∧ (taken a = true ∨ a ∈ front) := by
  induction as generalizing taken with
  | nil => cases h
  | cons b as ih =>
      rw [firstTaken?] at h
      split at h
      case isTrue htaken =>
        cases h
        exact ⟨[], as, rfl, .inl htaken⟩
      case isFalse =>
        obtain ⟨front, back, rfl, hfound⟩ := ih h
        refine ⟨b :: front, back, rfl, ?_⟩
        -- what the search has passed counts as taken from there on
        simp only [Bool.or_eq_true, beq_iff_eq] at hfound
        rcases hfound with (htaken | rfl) | hmem
        · exact .inl htaken
        · exact .inr (List.mem_cons_self ..)
        · exact .inr (List.mem_cons_of_mem _ hmem)

theorem blocked_of_conflict? (h : l.conflict? tx = some a) : l.Blocked tx a := by
  obtain ⟨front, back, hsplit, htaken⟩ := exists_of_firstTaken? h
  rw [map_creations, targets] at hsplit
  obtain ⟨is, js, his, rfl, hjs⟩ := List.filterMap_eq_append_iff.1 hsplit
  obtain ⟨skipped, i, rest, rfl, -, htarget, -⟩ := List.filterMap_eq_cons_iff.1 hjs
  refine ⟨is.length + skipped.length, ⟨i, ?_, target?_eq_some_iff.1 htarget⟩, ?_⟩
  · rw [his, List.getElem?_append_right (by omega), Nat.add_sub_cancel_left,
      List.getElem?_append_right (by omega), Nat.sub_self]
    rfl
  · rcases htaken with hcontains | hmem
    · exact .inl (Std.ExtTreeMap.contains_iff_mem.1 hcontains)
    · obtain ⟨j, hj, htarget⟩ := List.mem_filterMap.1 hmem
      obtain ⟨k, hk⟩ := List.mem_iff_getElem?.1 hj
      have hlt : k < is.length := (List.getElem?_eq_some_iff.1 hk).1
      refine .inr ⟨k, by omega, j, ?_, target?_eq_some_iff.1 htarget⟩
      rw [his, List.getElem?_append_left hlt, hk]

/-- There is no conflict exactly if all targets are free and no two are the same. -/
theorem conflict?_eq_none_iff_targets :
    l.conflict? tx = none ↔
      (∀ a ∈ l.targets tx.instructions, a ∉ l.accounts) ∧ (l.targets tx.instructions).Nodup := by
  rw [conflict?, map_creations, firstTaken?_eq_none_iff]
  simp only [← Bool.not_eq_true, Std.ExtTreeMap.contains_iff_mem]

theorem conflict?_eq_none_iff : l.conflict? tx = none ↔ ∀ a, ¬ l.Blocked tx a := by
  constructor
  · rintro hnone a ⟨k, hk, htaken⟩
    obtain ⟨hfree, hnodup⟩ := conflict?_eq_none_iff_targets.1 hnone
    rcases htaken with hmem | ⟨j, hjk, hj⟩
    · exact hfree a (mem_targets_iff.2 ⟨k, hk⟩) hmem
    · have heq := nodup_targets_iff.1 hnodup a j k hj hk
      omega
  · intro hfree
    cases h : l.conflict? tx with
    | none => rfl
    | some a => exact absurd (blocked_of_conflict? h) (hfree a)

end

/-! ### What a transaction leaves behind -/

section

variable {l l' : MemoryLedger} {tx : Transaction} {a : Address} {r : Record} {signature : String}

theorem submit_eq_ok_iff :
    l.submit tx = .ok (signature, l') ↔
      l.conflict? tx = none ∧ signature = signatureOf (l.submitted.length + 1) ∧
        l' = l.carryOut tx (l.creations tx) := by
  have hlength (entries : List (Address × Record)) :
      (l.carryOut tx entries).submitted.length = l.submitted.length + 1 := by
    rw [carryOut, List.length_append, List.length_singleton]
  rw [submit]
  cases l.conflict? tx with
  | some a => simp
  | none => simp [hlength, eq_comm]

/-- An account that the market creates for a record. -/
def newAccount (market : Address) (r : Record) : StoredAccount := ⟨market, 0, r.encode⟩

/-- Accounts and, in place of what is there, those of some records. -/
def withRecords (market : Address) (accounts : Std.ExtTreeMap Address StoredAccount)
    (entries : List (Address × Record)) : Std.ExtTreeMap Address StoredAccount :=
  entries.foldl (fun accounts entry => accounts.insert entry.1 (newAccount market entry.2)) accounts

/-- Records are stored one after the other, and nothing but the accounts changes. -/
theorem foldl_insertRecord (l : MemoryLedger) (entries : List (Address × Record)) :
    entries.foldl (fun l entry => l.insertRecord entry.1 entry.2) l
      = { l with accounts := withRecords l.market l.accounts entries } := by
  induction entries generalizing l with
  | nil => rfl
  | cons entry entries ih =>
      rw [List.foldl_cons, ih]
      rfl

theorem carryOut_eq (l : MemoryLedger) (tx : Transaction) (entries : List (Address × Record)) :
    l.carryOut tx entries
      = { l with
          accounts := withRecords l.market l.accounts entries
          submitted := l.submitted ++ [tx] } := by
  rw [carryOut, foldl_insertRecord]

/-- At each address there is the record that was stored there last, or else what was there. -/
theorem getElem?_withRecords {market : Address} {accounts : Std.ExtTreeMap Address StoredAccount}
    (entries : List (Address × Record)) :
    (withRecords market accounts entries)[a]?
      = ((entries.reverse.lookup a).map (newAccount market)).or accounts[a]? := by
  induction entries generalizing accounts with
  | nil => rfl
  | cons entry entries ih =>
      obtain ⟨b, r⟩ := entry
      rw [withRecords, List.foldl_cons, ← withRecords, ih, List.reverse_cons, List.lookup_append,
        Std.ExtTreeMap.getElem?_insert]
      cases entries.reverse.lookup a with
      | some r => rfl
      | none =>
          by_cases hba : b = a
          · subst hba
            simp
          · have hne : ¬ compare b a = .eq := fun heq => hba (Std.LawfulEqOrd.eq_of_compare heq)
            have hfalse : (a == b) = false := beq_eq_false_iff_ne.2 (Ne.symm hba)
            simp [hne, hfalse, List.lookup_cons]

theorem getElem?_withRecords_of_notMem {market : Address}
    {accounts : Std.ExtTreeMap Address StoredAccount} {entries : List (Address × Record)}
    (h : a ∉ entries.map (·.1)) : (withRecords market accounts entries)[a]? = accounts[a]? := by
  have hnone : entries.reverse.lookup a = none := by
    rw [List.lookup_eq_none_iff]
    intro entry hentry
    rw [bne_iff_ne]
    rintro rfl
    exact h (List.mem_map_of_mem (List.mem_reverse.1 hentry))
  rw [getElem?_withRecords, hnone]
  rfl

theorem getElem?_withRecords_of_mem {market : Address}
    {accounts : Std.ExtTreeMap Address StoredAccount} {entries : List (Address × Record)}
    (hnodup : (entries.map (·.1)).Nodup) (h : (a, r) ∈ entries) :
    (withRecords market accounts entries)[a]? = some (newAccount market r) := by
  induction entries generalizing accounts with
  | nil => cases h
  | cons entry entries ih =>
      rw [List.map_cons, List.nodup_cons] at hnodup
      rw [withRecords, List.foldl_cons, ← withRecords]
      rcases List.mem_cons.1 h with rfl | hmem
      · rw [getElem?_withRecords_of_notMem hnodup.1, Std.ExtTreeMap.getElem?_insert_self]
      · exact ih hnodup.2 hmem

theorem accounts_of_creation {i : Instruction} (h : l.submit tx = .ok (signature, l'))
    (hi : i ∈ tx.instructions) (hcreation : l.creation? i = some (a, r)) :
    l'.accounts[a]? = some (newAccount l.market r) := by
  obtain ⟨hnone, -, rfl⟩ := submit_eq_ok_iff.1 h
  rw [carryOut_eq]
  refine getElem?_withRecords_of_mem ?_ (List.mem_filterMap.2 ⟨i, hi, hcreation⟩)
  rw [map_creations]
  exact (conflict?_eq_none_iff_targets.1 hnone).2

theorem accounts_of_not_created (h : l.submit tx = .ok (signature, l'))
    (ha : ∀ k, ¬ CreatesAt l.market tx.instructions k a) :
    l'.accounts[a]? = l.accounts[a]? := by
  obtain ⟨-, -, rfl⟩ := submit_eq_ok_iff.1 h
  rw [carryOut_eq]
  refine getElem?_withRecords_of_notMem ?_
  rw [map_creations]
  intro hmem
  obtain ⟨k, hk⟩ := mem_targets_iff.1 hmem
  exact ha k hk

/-- **A transaction that is carried out only adds its records.** -/
theorem extends_of_submit (h : l.submit tx = .ok (signature, l')) : l.Extends tx l' := by
  obtain ⟨hnone, -, hafter⟩ := submit_eq_ok_iff.1 h
  obtain ⟨hfree, hnodup⟩ := conflict?_eq_none_iff_targets.1 hnone
  have hrest : l' = { l with
      accounts := withRecords l.market l.accounts (l.creations tx)
      submitted := l.submitted ++ [tx] } := by rw [hafter, carryOut_eq]
  refine
    { market := by rw [hrest]
      transactions := by rw [hrest]
      index := by rw [hrest]
      submitted := by rw [hrest]
      kept := ?_
      added := ?_
      once := nodup_targets_iff.1 hnodup }
  · intro a account hget
    rw [accounts_of_not_created h, hget]
    intro k hk
    have hmem : a ∈ l.accounts := Std.ExtTreeMap.mem_iff_isSome_getElem?.2 (by rw [hget]; rfl)
    exact hfree a (mem_targets_iff.2 ⟨k, hk⟩) hmem
  · intro a
    constructor
    · rintro ⟨hmem, hnot⟩
      by_contra hno
      rw [not_exists] at hno
      rw [Std.ExtTreeMap.mem_iff_isSome_getElem?, accounts_of_not_created h hno] at hmem
      exact hnot (Std.ExtTreeMap.mem_iff_isSome_getElem?.2 hmem)
    · rintro ⟨k, hk⟩
      refine ⟨?_, hfree a (mem_targets_iff.2 ⟨k, hk⟩)⟩
      obtain ⟨i, hi, hcreates⟩ := hk
      obtain ⟨r, hcreation⟩ := exists_creation?_iff.2 hcreates
      rw [Std.ExtTreeMap.mem_iff_isSome_getElem?,
        accounts_of_creation h (List.mem_of_getElem? hi) hcreation]
      rfl

end

end MemoryLedger

end AssetMarket
