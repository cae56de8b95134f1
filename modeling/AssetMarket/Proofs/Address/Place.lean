/-
**Places do not share addresses.**

What is hashed for a place is its seeds one after the other, with nothing between them to tell where
one ends, then the bump, the program and a marker.  The last three have a fixed width, so they can
be taken off the end; of the seeds only their concatenation is left.  It still tells the place: the
eight kinds of places differ in length, but for listings and user accounts, and these two begin with
different words.  So two places have the same address only if the hash has a collision, and then the
two colliding byte strings are at hand.

Main definitions:

* `Place.material` — the bytes that are hashed for a place and a bump;
* `Place.seedsLength` — the bytes of the seeds of a place;
* `Sha256.Collision` — two byte strings with the same digest.

Main results:

* `Derivation.material_some_inj` — bump and program stand at the end of what is hashed;
* `Place.eq_of_flatten_seeds` — the seeds of a place tell the place, even without their limits;
* `Place.create_of_find` — what is found for a place can be created from its bump;
* `Place.isOnCurve_of_address` — nobody can sign for a place;
* `Place.eq_or_collision_of_address` — places that share an address are one, or the hash fails;
* `Place.material_tells_place` — **places that differ are hashed from different bytes**.
-/

import AssetMarket.Address.Place
import AssetMarket.Proofs.Address.Derivation

set_option relaxedAutoImplicit false
set_option autoImplicit false

namespace AssetMarket

/-- Two byte strings that differ and have the same digest. -/
def Sha256.Collision (x y : Bytes) : Prop := x ≠ y ∧ digest x = digest y

/-! ### The end of what is hashed -/

theorem Derivation.material_some (seeds : List Bytes) (bump : UInt8) (program : Address) :
    material seeds (some bump) program
      = seeds.flatten ++ ([bump] ++ (program.bytes ++ marker)) := by
  simp [material]

/-- The end of what is hashed has a fixed width, so its parts are told from each other. -/
theorem Derivation.material_some_inj {seeds seeds' : List Bytes} {bump bump' : UInt8}
    {program program' : Address} :
    material seeds (some bump) program = material seeds' (some bump') program' ↔
      seeds.flatten = seeds'.flatten ∧ bump = bump' ∧ program = program' := by
  constructor
  · intro h
    rw [material_some, material_some] at h
    obtain ⟨hseeds, hend⟩ := List.append_inj' h (by simp)
    obtain ⟨hbump, hend⟩ := List.append_inj hend rfl
    obtain ⟨hprogram, -⟩ := List.append_inj hend (by simp)
    exact ⟨hseeds, List.head_eq_of_cons_eq hbump, Address.ext hprogram⟩
  · rintro ⟨hseeds, rfl, rfl⟩
    rw [material_some, material_some, hseeds]

namespace Place

/-! ### The seeds -/

/-- The bytes of the seeds of a place. -/
def seedsLength : Place → Nat
  | .global => 19
  | .escrow => 12
  | .listing _ => 44
  | .offer _ _ => 77
  | .auction _ => 47
  | .user _ => 44
  | .tokenAccount _ _ => 96
  | .metadata _ => 72

theorem length_flatten_seeds (p : Place) : p.seeds.flatten.length = p.seedsLength := by
  have hglobal : (Bytes.ofText "global-authority-v1").length = 19 := by decide
  have hescrow : (Bytes.ofText "escrow-vault").length = 12 := by decide
  have hlisting : (Bytes.ofText "sell-info-v1").length = 12 := by decide
  have hoffer : (Bytes.ofText "offer-info-v1").length = 13 := by decide
  have hauction : (Bytes.ofText "auction-info-v1").length = 15 := by decide
  have huser : (Bytes.ofText "user-info-v1").length = 12 := by decide
  have hmetadata : (Bytes.ofText "metadata").length = 8 := by decide
  cases p <;>
    simp [seeds, seedsLength, hglobal, hescrow, hlisting, hoffer, hauction, huser, hmetadata]

/-- Listings and user accounts are of one length, and their words differ. -/
theorem flatten_seeds_listing_ne_user (mint owner : Address) :
    (listing mint).seeds.flatten ≠ (user owner).seeds.flatten := by
  intro h
  have hword : Bytes.ofText "sell-info-v1" ≠ Bytes.ofText "user-info-v1" := by decide
  simp only [seeds, List.flatten_cons] at h
  exact hword (List.append_inj h (by decide)).1

/-- The seeds of a place tell the place, even when nothing says where one seed ends. -/
theorem eq_of_flatten_seeds {p p' : Place} (h : p.seeds.flatten = p'.seeds.flatten) : p = p' := by
  have hlen : p.seedsLength = p'.seedsLength := by
    rw [← length_flatten_seeds, ← length_flatten_seeds, h]
  -- Behind the same word the keys follow, each of thirty-two bytes.
  have hkey {a a' : Address} {rest rest' : Bytes} (hkeys : a.bytes ++ rest = a'.bytes ++ rest') :
      a = a' ∧ rest = rest' := by
    obtain ⟨hbytes, hrest⟩ := List.append_inj hkeys (by simp)
    exact ⟨Address.ext hbytes, hrest⟩
  cases p with
  | global =>
      cases p' with
      | global => rfl
      | _ => cases hlen
  | escrow =>
      cases p' with
      | escrow => rfl
      | _ => cases hlen
  | listing mint =>
      cases p' with
      | listing mint' => rw [(hkey (List.append_cancel_left h)).1]
      | user owner => exact absurd h (flatten_seeds_listing_ne_user mint owner)
      | _ => cases hlen
  | offer mint buyer =>
      cases p' with
      | offer mint' buyer' =>
          obtain ⟨hmint, hrest⟩ := hkey (List.append_cancel_left h)
          rw [hmint, (hkey hrest).1]
      | _ => cases hlen
  | auction mint =>
      cases p' with
      | auction mint' => rw [(hkey (List.append_cancel_left h)).1]
      | _ => cases hlen
  | user owner =>
      cases p' with
      | user owner' => rw [(hkey (List.append_cancel_left h)).1]
      | listing mint => exact absurd h.symm (flatten_seeds_listing_ne_user mint owner)
      | _ => cases hlen
  | tokenAccount owner mint =>
      cases p' with
      | tokenAccount owner' mint' =>
          obtain ⟨howner, hrest⟩ := hkey h
          rw [howner, (hkey (List.append_cancel_left hrest)).1]
      | _ => cases hlen
  | metadata mint =>
      cases p' with
      | metadata mint' =>
          rw [(hkey (List.append_cancel_left (List.append_cancel_left h))).1]
      | _ => cases hlen

/-! ### What is hashed for a place -/

/-- The bytes that are hashed for a place of a marketplace and a bump. -/
def material (market : Address) (p : Place) (bump : UInt8) : Bytes :=
  Derivation.material p.seeds (some bump) (p.owner market)

theorem material_inj {market market' : Address} {p p' : Place} {bump bump' : UInt8} :
    p.material market bump = p'.material market' bump' ↔
      p = p' ∧ p.owner market = p'.owner market' ∧ bump = bump' := by
  rw [material, material, Derivation.material_some_inj]
  constructor
  · rintro ⟨hseeds, hbump, howner⟩
    exact ⟨eq_of_flatten_seeds hseeds, howner, hbump⟩
  · rintro ⟨rfl, howner, hbump⟩
    exact ⟨rfl, hbump, howner⟩

/-! ### What is found for a place -/

variable {market : Address} {p : Place} {d : Derived}

theorem find_eq_ok_iff :
    p.find market = .ok d ↔ Address.derive p.seeds (p.owner market) = .ok d := by
  rw [find]
  cases Address.derive p.seeds (p.owner market) with
  | error e => exact ⟨nofun, nofun⟩
  | ok d' =>
      constructor
      · rintro ⟨⟩
        rfl
      · rintro ⟨⟩
        rfl

/-- What is found for a place can be created from its bump. -/
theorem create_of_find (h : p.find market = .ok d) :
    Address.create (p.seeds ++ [[d.bump]]) (p.owner market) = .ok d.address :=
  Derivation.create_of_derive (find_eq_ok_iff.1 h)

/-- The address that is found is the hash of its material. -/
theorem bytes_address_of_find (h : p.find market = .ok d) :
    d.address.bytes = Sha256.digest (p.material market d.bump) := by
  have hoff := (Derivation.create_eq_ok_iff.1 (create_of_find h)).2
  rw [Derivation.material_append_bump] at hoff
  rw [← (Derivation.offCurve?_eq_some_iff.1 hoff).1]
  rfl

theorem exists_find_of_address {a : Address} (h : p.address market = .ok a) :
    ∃ d, p.find market = .ok d ∧ d.address = a := by
  rw [address] at h
  cases hfind : p.find market with
  | error e =>
      rw [hfind] at h
      cases h
  | ok d =>
      rw [hfind] at h
      exact ⟨d, rfl, Except.ok.inj h⟩

/-- Nobody can sign for a place. -/
theorem isOnCurve_of_address {a : Address} (h : p.address market = .ok a) :
    a.isOnCurve = false := by
  obtain ⟨d, hd, rfl⟩ := exists_find_of_address h
  exact (Derivation.offCurve?_eq_some_iff.1 (Derivation.create_eq_ok_iff.1 (create_of_find hd)).2).2

/-- Two places that share an address are one place of one program, or what was hashed for them is a
collision. -/
theorem eq_or_collision_of_address {market' a : Address} {p' : Place}
    (h : p.address market = .ok a) (h' : p'.address market' = .ok a) :
    (p = p' ∧ p.owner market = p'.owner market') ∨
      ∃ bump bump', Sha256.Collision (p.material market bump) (p'.material market' bump') := by
  obtain ⟨d, hd, rfl⟩ := exists_find_of_address h
  obtain ⟨d', hd', haddress⟩ := exists_find_of_address h'
  by_cases hmaterial : p.material market d.bump = p'.material market' d'.bump
  · obtain ⟨hp, howner, -⟩ := material_inj.1 hmaterial
    exact .inl ⟨hp, howner⟩
  · refine .inr ⟨d.bump, d'.bump, hmaterial, ?_⟩
    rw [← bytes_address_of_find hd, ← bytes_address_of_find hd', haddress]

/-- A place of a program has one address, whichever way the program came to own it. -/
theorem find_congr {market' : Address} (howner : p.owner market = p.owner market') :
    p.find market = p.find market' := by
  rw [find, find, howner]

/-- **Places that differ are hashed from different bytes.**  What is hashed tells the place with all
its keys, the program and the bump.  So where two searches end at one address they were for the
same place of the same program, unless what they hashed is a collision. -/
theorem material_tells_place (market market' : Address) (p p' : Place) :
    (∀ bump bump', p.material market bump = p'.material market' bump' ↔
      p = p' ∧ p.owner market = p'.owner market' ∧ bump = bump') ∧
    ∀ d d', p.find market = .ok d → p'.find market' = .ok d' →
      (d.address = d'.address ↔
        (p = p' ∧ p.owner market = p'.owner market') ∨
          Sha256.Collision (p.material market d.bump) (p'.material market' d'.bump)) := by
  refine ⟨fun bump bump' => material_inj, fun d d' hd hd' => ?_⟩
  have hsame : d.address = d'.address ↔
      Sha256.digest (p.material market d.bump) = Sha256.digest (p'.material market' d'.bump) := by
    rw [← bytes_address_of_find hd, ← bytes_address_of_find hd', Address.ext_iff]
  constructor
  · intro haddress
    by_cases hmaterial : p.material market d.bump = p'.material market' d'.bump
    · obtain ⟨hp, howner, -⟩ := material_inj.1 hmaterial
      exact .inl ⟨hp, howner⟩
    · exact .inr ⟨hmaterial, hsame.1 haddress⟩
  · rintro (⟨rfl, howner⟩ | ⟨-, hdigest⟩)
    · rw [find_congr howner, hd'] at hd
      cases hd
      rfl
    · exact hsame.2 hdigest

/-- A listing and a user account, whose seeds are of one length: the keys are the same bytes, and it
is the words before them that keep the two apart. -/
theorem material_tells_place_listing :
    ∃ d d', (listing (.ofNumber 1)).find Address.marketplace = .ok d ∧
      (user (.ofNumber 1)).find Address.marketplace = .ok d' ∧
      (d.address = d'.address →
        Sha256.Collision ((listing (.ofNumber 1)).material Address.marketplace d.bump)
          ((user (.ofNumber 1)).material Address.marketplace d'.bump)) := by
  have hlisting : ((listing (.ofNumber 1)).find Address.marketplace).isOk := by decide +kernel
  have huser : ((user (.ofNumber 1)).find Address.marketplace).isOk := by decide +kernel
  obtain ⟨d, hd⟩ := exists_eq_ok_of_isOk hlisting
  obtain ⟨d', hd'⟩ := exists_eq_ok_of_isOk huser
  refine ⟨d, d', hd, hd', fun haddress => ?_⟩
  obtain ⟨-, hsame⟩ := material_tells_place Address.marketplace Address.marketplace
    (listing (.ofNumber 1)) (user (.ofNumber 1))
  rcases (hsame d d' hd hd').1 haddress with ⟨hplace, -⟩ | hcollision
  · cases hplace
  · exact hcollision

end Place

/-- The vault's account for a mint is that of the settings record. -/
theorem vaultAccount_eq_ok_iff {market mint a : Address} :
    vaultAccount market mint = .ok a ↔
      ∃ global, Place.global.address market = .ok global ∧ associatedAccount global mint = .ok a := by
  rw [vaultAccount]
  cases Place.global.address market with
  | error e => exact ⟨nofun, fun ⟨_, h, _⟩ => nomatch h⟩
  | ok global =>
      constructor
      · exact fun h => ⟨global, rfl, h⟩
      · rintro ⟨_, ⟨⟩, h⟩
        exact h

end AssetMarket
