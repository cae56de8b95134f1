/-
**Derived addresses.**

A program owns accounts at addresses that nobody can sign for.  Such an address is the hash of
some seeds, the program's own address and a fixed marker, and it must lie off the curve; to reach
one from any seeds, a last seed of one byte, the bump, is counted down from 255 until the hash
falls off the curve.  Which hash and which curve does not matter for the search, so both are
parameters here; the ledger's choice, SHA-256 and the Edwards curve, is made in the last section.

Main definitions:

* `Derivation.create` — the address for exactly the given seeds;
* `Derivation.derive` — the address and bump for seeds that lack the bump;
* `Derivation.Error` — why there is no address;
* `Address.create`, `Address.derive` — the same for the ledger's hash and curve.

Main results:

* `Derivation.material_append_bump` — a bump that is given apart is hashed as a last seed would be;
* `Derivation.attempt_eq_create` — an attempt of the search is the creation with the bump as seed.
-/

import AssetMarket.Address
import AssetMarket.Crypto.Edwards
import AssetMarket.Crypto.Sha256
import AssetMarket.Error

set_option relaxedAutoImplicit false
set_option autoImplicit false

namespace AssetMarket

/-- A derived address and the bump that leads to it. -/
@[ext]
structure Derived where
  address : Address
  bump : UInt8
  deriving DecidableEq

namespace Derivation

/-! ### Seeds -/

/-- The most bytes of a seed. -/
def maxSeedLength : Nat := 32

/-- The most seeds, the bump included. -/
def maxSeeds : Nat := 16

/-- The text that sets hashes of derived addresses apart from all others. -/
def marker : Bytes := Bytes.ofText "ProgramDerivedAddress"

/-- What is wrong with seeds. -/
inductive SeedFault where
  /-- There are more than are allowed. -/
  | tooMany (given allowed : Nat)
  /-- The seed at this position is too long. -/
  | tooLong (position length : Nat)
  /-- The address they lead to lies on the curve. -/
  | onCurve
  deriving DecidableEq, Repr

/-- The wording of each fault. -/
def SeedFault.message : SeedFault → String
  | .tooMany given allowed => s!"{given} seeds given, at most {allowed} allowed"
  | .tooLong position length => s!"seed {position} is {length} bytes, max {maxSeedLength}"
  | .onCurve => "derived address lies on the ed25519 curve"

/-- Why there is no derived address. -/
inductive Error where
  /-- The seeds are at fault. -/
  | seeds (fault : SeedFault)
  /-- Every bump leads onto the curve. -/
  | exhausted
  deriving DecidableEq, Repr

/-- The failure of the market that each of them is. -/
def Error.toMarketError : Error → MarketError
  | .seeds fault => .invalidSeeds fault.message
  | .exhausted => .derivationExhausted

/-- The first seed that is too long, with its position. -/
def firstTooLong? (seeds : List Bytes) : Option (Bytes × Nat) :=
  seeds.zipIdx.find? fun entry => maxSeedLength < entry.1.length

/-- Check the number of seeds, then the length of each. -/
def checkSeeds (allowed : Nat) (seeds : List Bytes) : Except SeedFault Unit :=
  if allowed < seeds.length then .error (.tooMany seeds.length allowed)
  else
    match firstTooLong? seeds with
    | some (seed, position) => .error (.tooLong position seed.length)
    | none => .ok ()

/-- The bytes that are hashed, with the bump behind the seeds if it is given apart. -/
def material (seeds : List Bytes) (bump : Option UInt8) (program : Address) : Bytes :=
  seeds.flatten ++ bump.toList ++ program.bytes ++ marker

theorem material_append_bump (seeds : List Bytes) (bump : UInt8) (program : Address) :
    material (seeds ++ [[bump]]) none program = material seeds (some bump) program := by
  rw [material, material, List.flatten_append, List.flatten_singleton, Option.toList_none,
    Option.toList_some, List.append_nil]

/-! ### The search, for any hash and any curve -/

section Search

variable (hash : Bytes → Address) (onCurve : Address → Bool)

/-- The hash of some material, unless it lies on the curve. -/
def offCurve? (bs : Bytes) : Option Address :=
  if onCurve (hash bs) then none else some (hash bs)

/-- The address for exactly these seeds. -/
def create (seeds : List Bytes) (program : Address) : Except Error Address := do
  (checkSeeds maxSeeds seeds).mapError .seeds
  (offCurve? hash onCurve (material seeds none program)).elim (throw (.seeds .onCurve)) pure

/-- The address that one bump leads to. -/
def attempt (seeds : List Bytes) (program : Address) (bump : UInt8) : Option Address :=
  offCurve? hash onCurve (material seeds (some bump) program)

/-- The first address among the `count` bumps below `count`, from the highest down. -/
def searchBelow (seeds : List Bytes) (program : Address) : Nat → Option Derived
  | 0 => none
  | bump + 1 =>
      match attempt hash onCurve seeds program (UInt8.ofNat bump) with
      | some address => some ⟨address, UInt8.ofNat bump⟩
      | none => searchBelow seeds program bump

/-- The address for these seeds and the highest bump that leads to one. -/
def derive (seeds : List Bytes) (program : Address) : Except Error Derived := do
  (checkSeeds (maxSeeds - 1) seeds).mapError .seeds
  (searchBelow hash onCurve seeds program 256).elim (throw .exhausted) pure

theorem attempt_eq_create {seeds : List Bytes} {program : Address} {bump : UInt8}
    (h : checkSeeds maxSeeds (seeds ++ [[bump]]) = .ok ()) :
    create hash onCurve (seeds ++ [[bump]]) program =
      (attempt hash onCurve seeds program bump).elim (.error (.seeds .onCurve)) .ok := by
  simp only [create, h, attempt, material_append_bump]
  rfl

end Search

end Derivation

/-! ### The ledger's hash and curve -/

namespace Address

/-- The SHA-256 digest of a byte string, as an address. -/
def ofDigest (bs : Bytes) : Address := ⟨Sha256.digest bs, Sha256.length_digest bs⟩

/-- Whether somebody could sign for an address. -/
def isOnCurve (a : Address) : Bool := Edwards.isPoint a.bytes

/-- The address for exactly these seeds. -/
def create (seeds : List Bytes) (program : Address) : Except Derivation.Error Address :=
  Derivation.create ofDigest isOnCurve seeds program

/-- The address for these seeds and the highest bump that leads to one. -/
def derive (seeds : List Bytes) (program : Address) : Except Derivation.Error Derived :=
  Derivation.derive ofDigest isOnCurve seeds program

end Address

end AssetMarket
