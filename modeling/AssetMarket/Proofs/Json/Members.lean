/-
**Objects whose names differ.**

An object of which each member has a name of its own is read without fault, whichever of its members
are wanted and in whatever order they stand: each is found by its name.  Nothing changes if of each
name only the last member is kept.

Main definitions:

* `Json.Distinct` — the names of some members are proper and differ;
* `Json.IsRecord` — a value is an object with such members.

Main results:

* `Json.IsRecord.members` — **the members of a record are found by their names**;
* `Json.IsRecord.member?_lastOfEach` — and so they are where the last of each name is kept.
-/

import Mathlib.Data.List.Nodup
import AssetMarket.PastTransaction.Node

set_option relaxedAutoImplicit false
set_option autoImplicit false

namespace AssetMarket

namespace Json

/-! ### Members with names of their own -/

/-- The names of some members are proper and differ. -/
structure Distinct (ms : List (Option String × Json)) : Prop where
  proper : ∀ m ∈ ms, m.1.isSome = true
  nodup : (ms.map (·.1)).Nodup

section

variable {ms : List (Option String × Json)}

theorem Distinct.tail {m : Option String × Json} (h : Distinct (m :: ms)) : Distinct ms where
  proper := fun m' hm' => h.proper m' (List.mem_cons_of_mem _ hm')
  nodup := (List.nodup_cons.1 h.nodup).2

theorem Distinct.head_notMem {m : Option String × Json} (h : Distinct (m :: ms)) :
    m.1 ∉ ms.map (·.1) := (List.nodup_cons.1 h.nodup).1

/-- The members that are known are picked out without fault. -/
theorem exists_knownMembers (h : Distinct ms) (names : List String) :
    ∃ entries, knownMembers names ms = .ok entries ∧
      (∀ entry ∈ entries, some entry.1 ∈ ms.map (·.1)) ∧
      ∀ name ∈ names, entries.lookup name = ms.lookup (some name) := by
  induction ms with
  | nil => exact ⟨[], rfl, nofun, fun _ _ => rfl⟩
  | cons m ms ih =>
      obtain ⟨key, value⟩ := m
      obtain ⟨entries, hknown, hnames, hlookup⟩ := ih h.tail
      obtain ⟨name, rfl⟩ := Option.isSome_iff_exists.1 (h.proper (key, value) (List.mem_cons_self ..))
      have hnew : some name ∉ ms.map (·.1) := h.head_notMem
      have hlater : ∀ entry ∈ entries, some entry.1 ∈ ((some name, value) :: ms).map (·.1) :=
        fun entry hentry => List.mem_cons_of_mem _ (hnames entry hentry)
      have hread : knownMembers names ((some name, value) :: ms)
          = if name ∉ names then .ok entries
            else if entries.any (·.1 == name) then .error (.repeated name)
            else .ok ((name, value) :: entries) := by
        rw [knownMembers, hknown]
        by_cases hmem : name ∈ names <;> by_cases hany : entries.any (·.1 == name) <;>
          simp [hmem, hany, bind, Except.bind, pure, Except.pure, throw, throwThe,
            MonadExceptOf.throw]
      have hunique : entries.any (·.1 == name) = false := by
        rw [List.any_eq_false]
        intro entry hentry heq
        rw [beq_iff_eq] at heq
        exact hnew (heq ▸ hnames entry hentry)
      by_cases hmem : name ∈ names
      · refine ⟨(name, value) :: entries, ?_, ?_, ?_⟩
        · simp [hread, hmem, hunique]
        · exact List.forall_mem_cons.2 ⟨List.mem_cons_self .., hlater⟩
        · intro name' hname'
          rw [List.lookup_cons, List.lookup_cons, hlookup name' hname']
          by_cases heq : name' = name <;> simp [heq]
      · refine ⟨entries, ?_, hlater, ?_⟩
        · simp [hread, hmem]
        · intro name' hname'
          have hne : (name' == name) = false :=
            beq_eq_false_iff_ne.2 fun heq => hmem (heq ▸ hname')
          rw [List.lookup_cons, hlookup name' hname']
          simp [hne]

/-- Of members with different names the last of each are all of them. -/
theorem lastOfEachMember_eq (h : Distinct ms) :
    lastOfEachMember ms = ms.map fun m => (m.1, m.2.lastOfEach) := by
  induction ms with
  | nil => rfl
  | cons m ms ih =>
      have hlast : ms.any (·.1 == m.1) = false := by
        rw [List.any_eq_false]
        intro m' hm' heq
        rw [beq_iff_eq] at heq
        exact h.head_notMem (heq ▸ List.mem_map_of_mem hm')
      obtain ⟨name, value⟩ := m
      rw [lastOfEachMember, hlast, if_neg Bool.false_ne_true, ih h.tail, lastOfEachIn, List.map_cons]

theorem distinct_lastOfEachMember (h : Distinct ms) : Distinct (lastOfEachMember ms) := by
  rw [lastOfEachMember_eq h]
  constructor
  · intro m hm
    obtain ⟨m', hm', rfl⟩ := List.mem_map.1 hm
    exact h.proper m' hm'
  · rw [List.map_map]
    exact h.nodup

theorem lastOfEachItem_eq (items : List Json) : lastOfEachItem items = items.map lastOfEach := by
  induction items with
  | nil => rfl
  | cons item items ih => rw [lastOfEachItem, ih, List.map_cons]

end

/-! ### Records -/

/-- A value is an object whose members have names of their own. -/
def IsRecord (j : Json) : Prop := ∃ ms, j = .object ms ∧ Distinct ms

theorem isRecord_record {members : List (String × Json)} (h : (members.map (·.1)).Nodup) :
    (record members).IsRecord := by
  refine ⟨_, rfl, ?_, ?_⟩
  · intro m hm
    obtain ⟨m', -, rfl⟩ := List.mem_map.1 hm
    rfl
  · have hnames : (members.map fun member => (some member.1, member.2)).map (·.1)
        = (members.map (·.1)).map some := by simp
    rw [hnames]
    exact h.map fun _ _ heq => Option.some.inj heq

namespace IsRecord

variable {j : Json}

/-- **The members of a record are found by their names**, and nothing is in excess. -/
theorem members (h : j.IsRecord) (wanted : String) (names : List String) :
    ∃ ms, j.members wanted names = .ok ms ∧ ms.excess = none ∧
      ∀ name ∈ names, ms.entries.lookup name = j.member? name := by
  obtain ⟨ms, rfl, hdistinct⟩ := h
  obtain ⟨entries, hknown, -, hlookup⟩ := exists_knownMembers hdistinct names
  refine ⟨⟨names, entries, (entries.map (·.1)).mergeSort (· ≤ ·), .missing, none⟩, ?_, rfl, hlookup⟩
  rw [Json.members, hknown]
  rfl

theorem fields (h : j.IsRecord) (wanted : String) (names : List String) :
    ∃ ms, j.fields wanted names = .ok ms ∧
      ∀ name ∈ names, ms.entries.lookup name = j.member? name := by
  obtain ⟨ms, hmembers, hexcess, hlookup⟩ := h.members wanted names
  refine ⟨ms, ?_, hlookup⟩
  rw [Json.fields, hmembers]
  show (ms.settle []).bind (fun _ => .ok ms) = .ok ms
  rw [Members.settle_eq_ok (by simp) hexcess]
  rfl

theorem lastOfEach (h : j.IsRecord) : j.lastOfEach.IsRecord := by
  obtain ⟨ms, rfl, hdistinct⟩ := h
  exact ⟨_, rfl, distinct_lastOfEachMember hdistinct⟩

theorem member?_lastOfEach (h : j.IsRecord) (name : String) :
    j.lastOfEach.member? name = (j.member? name).map Json.lastOfEach := by
  obtain ⟨ms, rfl, hdistinct⟩ := h
  rw [Json.lastOfEach, member?, member?, lastOfEachMember_eq hdistinct]
  clear hdistinct
  induction ms with
  | nil => rfl
  | cons m ms ih =>
      rw [List.map_cons, List.lookup_cons, List.lookup_cons, ih]
      cases (some name == m.1) <;> rfl

/-- A member that is found is still found where the last of each name is kept. -/
theorem lastOfEach_of_member? (h : j.IsRecord) {name : String} {value : Json}
    (hfound : j.member? name = some value) :
    j.lastOfEach.member? name = some value.lastOfEach := by
  rw [h.member?_lastOfEach, hfound, Option.map_some]

end IsRecord

/-! ### Fields -/

section

variable {α : Type} {ms : Members} {name : String} {value : Json} {shape : Json → Shape α}
  {default : α}

theorem required_of_lookup (h : ms.entries.lookup name = some value) :
    required ms name shape = shape value := by
  rw [required, h]

theorem optional_of_lookup (h : ms.entries.lookup name = some value) :
    optional ms name default shape = shape value := by
  rw [optional, h]

theorem required_of_lookup_none (h : ms.entries.lookup name = none) :
    required ms name shape = .error (ms.absent name) := by
  rw [required, h]

end

end Json

end AssetMarket
