/-
**The search for a derived address.**

A derived address is reached in two ways.  One is given all seeds and hashes them; the other lacks
the last seed, the bump, and tries all of its values from the highest down.  The two were written
apart, with limits of their own for the number of seeds, and one hashes the bump as a seed while the
other hashes it by itself.  Here they are tied together: the search finds exactly what the highest
bump that works leads to, and it fails exactly if the seeds break a limit or no bump works.  Nothing
is said about the hash or the curve.

Main definitions:

* `Derivation.Admissible` — seeds that keep both limits.

Main results:

* `Derivation.checkSeeds_eq_ok_iff` — the check passes exactly the admissible seeds;
* `Derivation.admissible_append_bump` — with the bump there is one seed more, and never a long one;
* `Derivation.searchBelow_eq_some_iff`, `Derivation.searchBelow_eq_none_iff` — what the search
  finds, by induction on the bumps that are left;
* `Derivation.create_of_derive` — what is found is created again from its bump;
* `Derivation.derive_canonical` — **the search returns the address of the highest bump that works**.
-/

import Mathlib.Logic.Basic
import AssetMarket.Address.Derivation

set_option relaxedAutoImplicit false
set_option autoImplicit false

namespace AssetMarket

namespace Derivation

/-! ### Limits -/

/-- Seeds that keep both limits, where so many of them are allowed. -/
def Admissible (allowed : Nat) (seeds : List Bytes) : Prop :=
  seeds.length ≤ allowed ∧ ∀ seed ∈ seeds, seed.length ≤ maxSeedLength

theorem not_admissible_iff {allowed : Nat} {seeds : List Bytes} :
    ¬Admissible allowed seeds ↔
      allowed < seeds.length ∨ ∃ seed ∈ seeds, maxSeedLength < seed.length := by
  simp only [Admissible, not_and_or, Nat.not_le, not_forall, exists_prop]

theorem firstTooLong?_eq_none_iff {seeds : List Bytes} :
    firstTooLong? seeds = none ↔ ∀ seed ∈ seeds, seed.length ≤ maxSeedLength := by
  rw [firstTooLong?, List.find?_eq_none]
  constructor
  · intro h seed hseed
    obtain ⟨position, hposition⟩ := List.mem_iff_getElem?.1 hseed
    simpa using h (seed, position) (List.mem_zipIdx_iff_getElem?.2 hposition)
  · intro h entry hentry
    simpa using h entry.1 (List.mem_of_getElem? (List.mem_zipIdx_iff_getElem?.1 hentry))

/-- The check passes exactly the admissible seeds. -/
theorem checkSeeds_eq_ok_iff {allowed : Nat} {seeds : List Bytes} :
    checkSeeds allowed seeds = .ok () ↔ Admissible allowed seeds := by
  rw [Admissible, ← firstTooLong?_eq_none_iff, checkSeeds]
  split
  · rename_i hmany
    simp [Nat.not_le.2 hmany]
  · rename_i hmany
    cases firstTooLong? seeds <;> simp [Nat.not_lt.1 hmany]

theorem exists_checkSeeds_eq_error_iff {allowed : Nat} {seeds : List Bytes} :
    (∃ fault, checkSeeds allowed seeds = .error fault) ↔ ¬Admissible allowed seeds := by
  rw [← checkSeeds_eq_ok_iff]
  cases checkSeeds allowed seeds <;> simp

/-- Seeds that the check refuses are at fault themselves, not the address they lead to. -/
theorem ne_onCurve_of_checkSeeds {allowed : Nat} {seeds : List Bytes} {fault : SeedFault}
    (h : checkSeeds allowed seeds = .error fault) : fault ≠ .onCurve := by
  rintro rfl
  rw [checkSeeds] at h
  split at h
  · cases h
  · split at h <;> cases h

/-- The bump is one seed more, and it is never too long. -/
theorem admissible_append_bump {seeds : List Bytes} {bump : UInt8} :
    Admissible maxSeeds (seeds ++ [[bump]]) ↔ Admissible (maxSeeds - 1) seeds := by
  have hshort : 1 ≤ maxSeedLength := by decide
  have hcount : seeds.length + 1 ≤ maxSeeds ↔ seeds.length ≤ maxSeeds - 1 := by
    have hpos : 1 ≤ maxSeeds := by decide
    omega
  simp only [Admissible, List.length_append, List.length_singleton, List.forall_mem_append,
    List.forall_mem_singleton, hshort, hcount, and_true]

section

variable {hash : Bytes → Address} {onCurve : Address → Bool}

theorem offCurve?_eq_some_iff {bs : Bytes} {a : Address} :
    offCurve? hash onCurve bs = some a ↔ hash bs = a ∧ onCurve a = false := by
  rw [offCurve?]
  split
  · rename_i hcurve
    constructor
    · intro h
      cases h
    · rintro ⟨rfl, hoff⟩
      rw [hcurve] at hoff
      cases hoff
  · rename_i hcurve
    constructor
    · intro h
      cases h
      exact ⟨rfl, Bool.eq_false_iff.2 hcurve⟩
    · rintro ⟨rfl, -⟩
      rfl

variable {seeds : List Bytes} {program : Address}

/-! ### Creating an address -/

section Checked

variable {α : Type} {check : Except SeedFault Unit} {found : Option α} {failure : Error}

/-- Seeds are checked first, and what they lead to may be nothing. -/
theorem checked_eq :
    (check.mapError Error.seeds >>= fun _ => found.elim (throw failure) pure) =
      match check, found with
      | .error fault, _ => .error (.seeds fault)
      | .ok (), none => .error failure
      | .ok (), some a => .ok a := by
  cases check with
  | error fault => rfl
  | ok => cases found <;> rfl

theorem checked_eq_ok_iff {a : α} :
    (check.mapError Error.seeds >>= fun _ => found.elim (throw failure) pure) = .ok a ↔
      check = .ok () ∧ found = some a := by
  rw [checked_eq]
  cases check with
  | error fault => simp
  | ok => cases found <;> simp

theorem checked_eq_error_iff {e : Error} :
    (check.mapError Error.seeds >>= fun _ => found.elim (throw failure) pure) = .error e ↔
      (∃ fault, check = .error fault ∧ .seeds fault = e) ∨
        check = .ok () ∧ found = none ∧ failure = e := by
  rw [checked_eq]
  cases check with
  | error fault => simp
  | ok => cases found <;> simp

end Checked

theorem create_eq_ok_iff {a : Address} :
    create hash onCurve seeds program = .ok a ↔
      Admissible maxSeeds seeds ∧ offCurve? hash onCurve (material seeds none program) = some a := by
  rw [create, checked_eq_ok_iff, checkSeeds_eq_ok_iff]

/-- A creation that fails for another reason than the curve fails for its seeds. -/
theorem exists_create_eq_error_iff :
    (∃ fault, fault ≠ .onCurve ∧ create hash onCurve seeds program = .error (.seeds fault)) ↔
      ¬Admissible maxSeeds seeds := by
  rw [← exists_checkSeeds_eq_error_iff]
  simp only [create, checked_eq_error_iff]
  constructor
  · rintro ⟨fault, hfault, ⟨fault', hcheck, -⟩ | ⟨-, -, heq⟩⟩
    · exact ⟨fault', hcheck⟩
    · cases heq
      exact absurd rfl hfault
  · rintro ⟨fault, hcheck⟩
    exact ⟨fault, ne_onCurve_of_checkSeeds hcheck, .inl ⟨fault, hcheck, rfl⟩⟩

/-- With a bump behind admissible seeds the creation is an attempt of the search. -/
theorem create_append_bump_eq_ok_iff {bump : UInt8} {a : Address} :
    create hash onCurve (seeds ++ [[bump]]) program = .ok a ↔
      Admissible (maxSeeds - 1) seeds ∧ attempt hash onCurve seeds program bump = some a := by
  rw [create_eq_ok_iff, admissible_append_bump, material_append_bump, attempt]

/-- Behind admissible seeds all that can go wrong is the attempt. -/
theorem exists_create_append_bump_eq_error_iff (hseeds : Admissible (maxSeeds - 1) seeds)
    {bump : UInt8} :
    (∃ e, create hash onCurve (seeds ++ [[bump]]) program = .error e) ↔
      attempt hash onCurve seeds program bump = none := by
  rw [attempt_eq_create _ _ (checkSeeds_eq_ok_iff.2 (admissible_append_bump.2 hseeds))]
  cases attempt hash onCurve seeds program bump <;> simp

/-! ### Searching for one -/

/-- An empty search finds nothing, and one more bump is tried before all that are lower. -/
theorem searchBelow_succ {bump : Nat} :
    searchBelow hash onCurve seeds program (bump + 1)
      = ((attempt hash onCurve seeds program (UInt8.ofNat bump)).map (⟨·, UInt8.ofNat bump⟩)).or
          (searchBelow hash onCurve seeds program bump) := by
  rw [searchBelow]
  cases attempt hash onCurve seeds program (UInt8.ofNat bump) <;> rfl

theorem searchBelow_eq_none_iff {count : Nat} (hcount : count ≤ 256) :
    searchBelow hash onCurve seeds program count = none ↔
      ∀ bump : UInt8, bump.toNat < count → attempt hash onCurve seeds program bump = none := by
  induction count with
  | zero => simp [searchBelow]
  | succ count ih =>
      rw [searchBelow_succ, Option.or_eq_none_iff, Option.map_eq_none_iff, ih (by omega)]
      constructor
      · rintro ⟨hlast, hbelow⟩ bump hbump
        rcases Nat.lt_succ_iff_lt_or_eq.1 hbump with hlt | rfl
        · exact hbelow bump hlt
        · rwa [UInt8.ofNat_toNat] at hlast
      · intro h
        refine ⟨h _ ?_, fun bump hbump => h bump (Nat.lt_succ_of_lt hbump)⟩
        rw [UInt8.toNat_ofNat_of_lt' hcount]
        exact Nat.lt_succ_self count

/-- What the search finds works, and no higher bump does. -/
theorem of_searchBelow_eq_some {count : Nat} (hcount : count ≤ 256) {d : Derived}
    (h : searchBelow hash onCurve seeds program count = some d) :
    attempt hash onCurve seeds program d.bump = some d.address ∧
      ∀ bump : UInt8, d.bump < bump → bump.toNat < count →
        attempt hash onCurve seeds program bump = none := by
  induction count with
  | zero => cases h
  | succ count ih =>
      rw [searchBelow_succ] at h
      cases hlast : attempt hash onCurve seeds program (UInt8.ofNat count) with
      | some a =>
          rw [hlast] at h
          cases h
          refine ⟨hlast, fun bump habove hbump => ?_⟩
          rw [UInt8.lt_iff_toNat_lt, UInt8.toNat_ofNat_of_lt' hcount] at habove
          omega
      | none =>
          rw [hlast] at h
          obtain ⟨hworks, habove⟩ := ih (by omega) h
          refine ⟨hworks, fun bump hlt hbump => ?_⟩
          rcases Nat.lt_succ_iff_lt_or_eq.1 hbump with hless | rfl
          · exact habove bump hlt hless
          · rwa [UInt8.ofNat_toNat] at hlast

/-- There is only one bump that works such that no higher one does. -/
theorem eq_of_attempt {d d' : Derived}
    (hd : attempt hash onCurve seeds program d.bump = some d.address)
    (hd' : attempt hash onCurve seeds program d'.bump = some d'.address)
    (habove : ∀ bump, d.bump < bump → attempt hash onCurve seeds program bump = none)
    (habove' : ∀ bump, d'.bump < bump → attempt hash onCurve seeds program bump = none) :
    d = d' := by
  rcases Nat.lt_trichotomy d.bump.toNat d'.bump.toNat with hlt | heq | hgt
  · rw [habove d'.bump (UInt8.lt_iff_toNat_lt.2 hlt)] at hd'
    cases hd'
  · have hbump : d.bump = d'.bump := UInt8.toNat.inj heq
    rw [hbump, hd', Option.some.injEq] at hd
    exact Derived.ext hd.symm hbump
  · rw [habove' d.bump (UInt8.lt_iff_toNat_lt.2 hgt)] at hd
    cases hd

theorem searchBelow_eq_some_iff {d : Derived} :
    searchBelow hash onCurve seeds program 256 = some d ↔
      attempt hash onCurve seeds program d.bump = some d.address ∧
        ∀ bump, d.bump < bump → attempt hash onCurve seeds program bump = none := by
  have found {d' : Derived} (h : searchBelow hash onCurve seeds program 256 = some d') :
      attempt hash onCurve seeds program d'.bump = some d'.address ∧
        ∀ bump, d'.bump < bump → attempt hash onCurve seeds program bump = none := by
    obtain ⟨hworks, habove⟩ := of_searchBelow_eq_some (Nat.le_refl 256) h
    exact ⟨hworks, fun bump hlt => habove bump hlt bump.toNat_lt⟩
  refine ⟨found, fun ⟨hworks, habove⟩ => ?_⟩
  cases hsearch : searchBelow hash onCurve seeds program 256 with
  | none =>
      have hnone := (searchBelow_eq_none_iff (Nat.le_refl 256)).1 hsearch d.bump d.bump.toNat_lt
      rw [hworks] at hnone
      cases hnone
  | some d' =>
      obtain ⟨hworks', habove'⟩ := found hsearch
      rw [eq_of_attempt hworks hworks' habove habove']

/-! ### The whole derivation -/

theorem derive_eq_ok_iff {d : Derived} :
    derive hash onCurve seeds program = .ok d ↔
      Admissible (maxSeeds - 1) seeds ∧ searchBelow hash onCurve seeds program 256 = some d := by
  rw [derive, checked_eq_ok_iff, checkSeeds_eq_ok_iff]

theorem derive_eq_exhausted_iff :
    derive hash onCurve seeds program = .error .exhausted ↔
      Admissible (maxSeeds - 1) seeds ∧ searchBelow hash onCurve seeds program 256 = none := by
  simp only [derive, checked_eq_error_iff, checkSeeds_eq_ok_iff, reduceCtorEq, and_false,
    exists_false, false_or, and_true]

theorem exists_derive_eq_seeds_iff :
    (∃ fault, derive hash onCurve seeds program = .error (.seeds fault)) ↔
      ¬Admissible (maxSeeds - 1) seeds := by
  rw [← exists_checkSeeds_eq_error_iff]
  simp only [derive, checked_eq_error_iff, reduceCtorEq, and_false, or_false]
  constructor
  · rintro ⟨-, fault, hcheck, -⟩
    exact ⟨fault, hcheck⟩
  · rintro ⟨fault, hcheck⟩
    exact ⟨fault, fault, hcheck, rfl⟩

/-- What is found is created again from its bump. -/
theorem create_of_derive {d : Derived} (h : derive hash onCurve seeds program = .ok d) :
    create hash onCurve (seeds ++ [[d.bump]]) program = .ok d.address := by
  obtain ⟨hseeds, hsearch⟩ := derive_eq_ok_iff.1 h
  exact create_append_bump_eq_ok_iff.2 ⟨hseeds, (searchBelow_eq_some_iff.1 hsearch).1⟩

/-- **The search returns the address of the highest bump that works.**  The address can be created
again from its bump, it lies off the curve, and no higher bump leads to one.  The search comes to an
end without an address exactly if no bump leads to one, and the seeds are at fault exactly if they
break a limit; one seed fewer is allowed than where the bump is given. -/
theorem derive_canonical (hash : Bytes → Address) (onCurve : Address → Bool) (seeds : List Bytes)
    (program : Address) :
    (∀ d, derive hash onCurve seeds program = .ok d ↔
      create hash onCurve (seeds ++ [[d.bump]]) program = .ok d.address ∧
        onCurve d.address = false ∧
        ∀ bump, d.bump < bump →
          ∃ e, create hash onCurve (seeds ++ [[bump]]) program = .error e) ∧
    (derive hash onCurve seeds program = .error .exhausted ↔
      (seeds.length ≤ 15 ∧ ∀ seed ∈ seeds, seed.length ≤ 32) ∧
        ∀ bump, ∃ e, create hash onCurve (seeds ++ [[bump]]) program = .error e) ∧
    ((∃ fault, derive hash onCurve seeds program = .error (.seeds fault)) ↔
      15 < seeds.length ∨ ∃ seed ∈ seeds, 32 < seed.length) ∧
    ((∃ fault, fault ≠ .onCurve ∧ create hash onCurve seeds program = .error (.seeds fault)) ↔
      16 < seeds.length ∨ ∃ seed ∈ seeds, 32 < seed.length) := by
  refine ⟨fun d => ?_, ?_, ?_, ?_⟩
  · rw [derive_eq_ok_iff, searchBelow_eq_some_iff, create_append_bump_eq_ok_iff]
    constructor
    · rintro ⟨hseeds, hworks, habove⟩
      refine ⟨⟨hseeds, hworks⟩, (offCurve?_eq_some_iff.1 hworks).2, fun bump hlt => ?_⟩
      exact (exists_create_append_bump_eq_error_iff hseeds).2 (habove bump hlt)
    · rintro ⟨⟨hseeds, hworks⟩, -, habove⟩
      refine ⟨hseeds, hworks, fun bump hlt => ?_⟩
      exact (exists_create_append_bump_eq_error_iff hseeds).1 (habove bump hlt)
  · rw [derive_eq_exhausted_iff, searchBelow_eq_none_iff (Nat.le_refl 256)]
    refine and_congr_right fun hseeds => ⟨fun h bump => ?_, fun h bump _ => ?_⟩
    · exact (exists_create_append_bump_eq_error_iff hseeds).2 (h bump bump.toNat_lt)
    · exact (exists_create_append_bump_eq_error_iff hseeds).1 (h bump)
  · rw [exists_derive_eq_seeds_iff]
    exact not_admissible_iff
  · rw [exists_create_eq_error_iff]
    exact not_admissible_iff

end

end Derivation

end AssetMarket
