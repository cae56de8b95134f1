/-
**Structures that are written and read.**

What is written as a structure has a member for each field, and each member has a name of its own.
So a reader of structures finds the fields by their names, and for the whole structure to be read it
is enough that each field is.

Main definitions:

* `Json.forms` — the texts of a value, one in each form of writing.

Main results:

* `Json.asList_map` — a list is read if its items are;
* `Json.read_record` — **a structure is read as its fields are**;
* `Json.ofText?_forms` — a value is read back from its texts.
-/

import Mathlib.Data.List.Forall2
import AssetMarket.Proofs.Json.Members
import AssetMarket.Proofs.Json.Spread

set_option relaxedAutoImplicit false
set_option autoImplicit false

namespace AssetMarket

/-! ### Plain values -/

theorem asNatural_int {wanted : String} {n bound : Nat} (h : n < bound) :
    Json.asNatural wanted bound (.int n) = .ok n := by
  have hin : (0 : Int) ≤ n ∧ (n : Int) < bound := ⟨Int.natCast_nonneg n, Int.ofNat_lt.2 h⟩
  rw [Json.asNatural, if_pos hin]
  rfl

theorem asU64_int (x : UInt64) : Json.asU64 (.int x.toNat) = .ok x := by
  rw [Json.asU64, asNatural_int x.toNat_lt]
  exact congrArg Except.ok UInt64.ofNat_toNat

theorem asIndex_int (x : UInt64) : Json.asIndex (.int x.toNat) = .ok x := by
  rw [Json.asIndex, asNatural_int x.toNat_lt]
  exact congrArg Except.ok UInt64.ofNat_toNat

theorem mapM_eq_ok_of_forall₂ {α β ε : Type} {f : α → Except ε β} {as : List α} {bs : List β}
    (h : List.Forall₂ (fun a b => f a = .ok b) as bs) : as.mapM f = .ok bs := by
  induction h with
  | nil => rfl
  | cons ha _ ih =>
      rw [List.mapM_cons, ha, ih]
      rfl

/-- What is undone for each item is undone for all of them. -/
theorem mapM_map_eq_ok {α β ε : Type} {f : α → Except ε β} {g : β → α} {bs : List β}
    (h : ∀ b ∈ bs, f (g b) = .ok b) : (bs.map g).mapM f = .ok bs := by
  refine mapM_eq_ok_of_forall₂ ?_
  rw [List.forall₂_map_left_iff, List.forall₂_same]
  exact h

/-- A step that is taken for all items ends with the first one for which it fails. -/
theorem mapM_map_eq_find? {α β ε : Type} {f : α → Except ε β} {g : β → α} {p : β → Bool}
    {fault : β → ε} (h : ∀ b, f (g b) = if p b then .ok b else .error (fault b)) (bs : List β) :
    (bs.map g).mapM f = (bs.find? (!p ·)).elim (.ok bs) (fun b => .error (fault b)) := by
  induction bs with
  | nil => rfl
  | cons b bs ih =>
      rw [List.map_cons, List.mapM_cons, h, ih, List.find?_cons]
      cases p b with
      | false => rfl
      | true => cases bs.find? (!p ·) <;> rfl

/-! ### Texts -/

section

variable {α : Type} {f : α → Json}

theorem arePlain_map (h : ∀ a, (f a).isPlain = true) (as : List α) :
    Json.arePlain (as.map f) = true := by
  induction as with
  | nil => rfl
  | cons a as ih => rw [List.map_cons, Json.arePlain, h a, ih]; rfl

theorem areSound_map {levels : Nat} (h : ∀ a, (f a).isSound levels = true) (as : List α) :
    Json.areSound levels (as.map f) = true := by
  induction as with
  | nil => rfl
  | cons a as ih => rw [List.map_cons, Json.areSound, h a, ih]; rfl

end

theorem isPlain_ofNat {n : Nat} (h : n < 2 ^ 64) : (Json.int n).isPlain = true := by
  simp only [Json.isPlain, Bool.and_eq_true, decide_eq_true_eq]
  omega

theorem isPlain_ofUInt64 (x : UInt64) : (Json.int x.toNat).isPlain = true :=
  isPlain_ofNat x.toNat_lt

namespace Json

@[simp]
theorem isPlain_str (s : String) : (str s).isPlain = true := rfl

@[simp]
theorem isPlain_bool (b : Bool) : (bool b).isPlain = true := rfl

theorem isPlain_list {α : Type} {f : α → Json} (h : ∀ a, (f a).isPlain = true) (as : List α) :
    (array (as.map f)).isPlain = true := arePlain_map h as

@[simp]
theorem isSound_str (levels : Nat) (s : String) : (str s).isSound levels = true := by
  simp [str, isSound]

@[simp]
theorem isSound_int (levels : Nat) (z : Int) : (int z).isSound levels = true := by
  simp [isSound]

theorem isSound_list {α : Type} {f : α → Json} {levels : Nat}
    (h : ∀ a, (f a).isSound levels = true) (as : List α) :
    (array (as.map f)).isSound (levels + 1) = true := areSound_map h as

/-- The texts of a value: without blanks, and on lines of its own. -/
def forms (j : Json) : List String := [j.compact, j.spread]

theorem compact_mem_forms (j : Json) : j.compact ∈ j.forms := List.mem_cons_self ..

theorem spread_mem_forms (j : Json) : j.spread ∈ j.forms :=
  List.mem_cons_of_mem _ (List.mem_cons_self ..)

/-- A value is read back from its texts. -/
theorem ofText?_forms {j : Json} (h : j.isPlain = true) :
    ∀ text ∈ j.forms, ofText? text = some j := by
  rw [forms, List.forall_mem_cons, List.forall_mem_singleton]
  exact ⟨ofText?_compact h, ofText?_spread h⟩

theorem isPlain_record (members : List (String × Json)) :
    (record members).isPlain = members.all (·.2.isPlain) := by
  rw [record, isPlain]
  induction members with
  | nil => rfl
  | cons member members ih =>
      rw [List.map_cons, arePlainMembers, ih]
      rfl

theorem isSound_record (levels : Nat) (members : List (String × Json)) :
    (record members).isSound (levels + 1) = members.all (·.2.isSound levels) := by
  rw [record, isSound]
  induction members with
  | nil => rfl
  | cons member members ih =>
      rw [List.map_cons, areSoundMembers, ih]
      rfl

/-! ### Reading -/

@[simp]
theorem asText_str (s : String) : asText (.str s) = .ok s := rfl

@[simp]
theorem asBool_bool (b : Bool) : asBool (.bool b) = .ok b := rfl

theorem asParsed_str {α ε : Type} (parse : String → Except ε α) (fault : ε → ShapeError)
    (s : String) : asParsed parse fault (.str s) = (parse s).mapError fault := rfl

section

variable {α : Type} {item : α → Json} {shape : Json → Shape α}

theorem asList_map {as : List α} (h : ∀ a ∈ as, shape (item a) = .ok a) :
    asList shape (.array (as.map item)) = .ok as := mapM_map_eq_ok h

theorem member?_record (members : List (String × Json)) (name : String) :
    (record members).member? name = members.lookup name := by
  rw [record, member?]
  induction members with
  | nil => rfl
  | cons member members ih =>
      rw [List.map_cons, List.lookup_cons, List.lookup_cons, ih]
      rfl

/-- **A structure is read as its fields are.** -/
theorem read_record {members : List (String × Json)} {wanted : String} {names : List String}
    {body : Members → Shape α} {r : Shape α} (hdistinct : (members.map (·.1)).Nodup)
    (hbody : ∀ ms : Members, (∀ name ∈ names, ms.entries.lookup name = members.lookup name) →
      body ms = r) :
    (record members).fields wanted names >>= body = r := by
  obtain ⟨ms, hms, hlookup⟩ := (isRecord_record hdistinct).fields wanted names
  rw [hms]
  exact hbody ms fun name hname => (hlookup name hname).trans (member?_record members name)

end

end Json

end AssetMarket
