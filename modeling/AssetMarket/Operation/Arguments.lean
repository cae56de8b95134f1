/-
**Operations from arguments.**

On a command line an operation is a name and some flags.  Arguments are taken from left to right:
one that begins with two hyphens is a flag, and what follows it is its value unless that begins
with two hyphens as well; all others stand for themselves.  A flag without a value counts as
`true`, and of a flag that is repeated the last value holds.

Main definitions:

* `Flags`, `Flags.ofArguments` — the flags among some arguments;
* `positionals` — the arguments that stand for themselves;
* `Operation.ArgumentError`, `Operation.ofFlags` — the operation of a name and flags.
-/

import AssetMarket.Address.Text
import AssetMarket.Operation
import AssetMarket.Text.Quantity

set_option relaxedAutoImplicit false
set_option autoImplicit false

namespace AssetMarket

/-! ### Arguments -/

/-- Flags and their values in the order in which they were given. -/
abbrev Flags := List (String × String)

/-- The name of the flag that an argument is. -/
def flagName? (s : String) : Option String :=
  match s.toList with
  | '-' :: '-' :: rest => some (String.ofList rest)
  | _ => none

/-- The value of a flag that has none. -/
def impliedValue : String := "true"

namespace Flags

/-- The flags among some arguments. -/
def ofArguments : List String → Flags
  | [] => []
  | [s] => (flagName? s).toList.map fun name => (name, impliedValue)
  | s :: value :: rest =>
      match flagName? s with
      | none => ofArguments (value :: rest)
      | some name =>
          if (flagName? value).isSome then (name, impliedValue) :: ofArguments (value :: rest)
          else (name, value) :: ofArguments rest

/-- The value of a flag, the last one if there are several. -/
def value? (flags : Flags) (name : String) : Option String := flags.reverse.lookup name

/-- Whether a flag is given. -/
def has (flags : Flags) (name : String) : Bool := (flags.value? name).isSome

end Flags

/-- The arguments that stand for themselves, in order. -/
def positionals : List String → List String
  | [] => []
  | [s] => if (flagName? s).isSome then [] else [s]
  | s :: value :: rest =>
      if (flagName? s).isSome then
        if (flagName? value).isSome then positionals (value :: rest) else positionals rest
      else s :: positionals (value :: rest)

/-! ### Values of flags -/

/-- Why arguments are no operation. -/
inductive ArgumentError where
  /-- A flag is not given. -/
  | missing (flag : String)
  /-- The value of a flag is no address. -/
  | badAddress (flag : String) (cause : Address.KeyError)
  /-- The value of a flag is no quantity of its sort. -/
  | badQuantity (flag : String) (cause : Quantity.Error)
  /-- There is no operation of this name. -/
  | unknownOperation (name : String)
  deriving DecidableEq, Repr

/-- The wording of each cause. -/
def ArgumentError.message : ArgumentError → String
  | .missing flag => s!"Missing required argument --{flag}"
  | .badAddress flag cause => s!"--{flag}: {cause.message}"
  | .badQuantity flag cause => s!"--{flag}: {cause.message}"
  | .unknownOperation name => s!"Unknown operation '{name}'"

/-- Whether there is no error, but a reader of base 58 broke down. -/
def ArgumentError.isBreakdown : ArgumentError → Bool
  | .badAddress _ .breakdown => true
  | _ => false

namespace Flags

/-- The value of a flag that must be given. -/
def required (flags : Flags) (flag : String) : Except ArgumentError String :=
  (flags.value? flag).elim (.error (.missing flag)) .ok

/-- The address that a flag gives. -/
def address (flags : Flags) (flag : String) : Except ArgumentError Address := do
  let s ← flags.required flag
  (Address.ofKeyText s).mapError (.badAddress flag)

/-- The quantity that a flag gives. -/
def quantity {α : Type} (read : String → Except Quantity.Error α) (flags : Flags) (flag : String) :
    Except ArgumentError α := do
  let s ← flags.required flag
  (read s).mapError (.badQuantity flag)

/-- The amount of money that a flag gives. -/
def amount (flags : Flags) (flag : String) : Except ArgumentError UInt64 :=
  flags.quantity Quantity.amount flag

/-- The plain number that a flag gives. -/
def count (flags : Flags) (flag : String) : Except ArgumentError UInt64 :=
  flags.quantity Quantity.count flag

/-- The duration that a flag gives. -/
def duration (flags : Flags) (flag : String) : Except ArgumentError Int64 :=
  flags.quantity Quantity.duration flag

/-- The position of a switch; one that is not given is off. -/
def switch (flags : Flags) (flag : String) : Except ArgumentError Bool :=
  if flags.has flag then flags.quantity Quantity.switch flag else .ok false

end Flags

/-! ### Operations -/

namespace Operation

/-- A name with hyphens in place of underscores. -/
def hyphenated (name : String) : String :=
  String.ofList (name.toList.map fun c => if c = '_' then '-' else c)

/-- The terms of an auction that flags give. -/
def termsOfFlags (flags : Flags) : Except ArgumentError AuctionTerms := do
  let startPrice ← flags.amount "start-price"
  let minIncrease ← flags.amount "min-increase"
  let duration ← flags.duration "duration"
  let reserved ← flags.switch "reserved"
  return { startPrice, minIncrease, duration, reserved }

/-- The operation of a name with hyphens and flags.  Flags that it has no use for are passed over.
-/
def ofHyphenated (name : String) (flags : Flags) : Except ArgumentError Operation := do
  match name with
  | "initialize" => return .openMarket
  | "update-fee" => return .updateFee (← flags.count "sol-fee")
  | "add-treasury" => return .addTreasury (← flags.address "address") (← flags.count "rate")
  | "remove-treasury" => return .removeTreasury (← flags.address "address")
  | "init-user" => return .initUser
  | "init-listing" => return .initListing (← flags.address "mint")
  | "list" => return .list (← flags.address "mint") (← flags.amount "price")
  | "delist" => return .delist (← flags.address "mint")
  | "set-price" => return .setPrice (← flags.address "mint") (← flags.amount "price")
  | "transfer" => return .transfer (← flags.address "mint") (← flags.address "recipient")
  | "purchase" => return .purchase (← flags.address "mint")
  | "deposit" => return .deposit (← flags.amount "amount")
  | "withdraw" => return .withdraw (← flags.amount "amount")
  | "init-offer" => return .initOffer (← flags.address "mint")
  | "make-offer" => return .makeOffer (← flags.address "mint") (← flags.amount "price")
  | "cancel-offer" => return .cancelOffer (← flags.address "mint")
  | "accept-offer" => return .acceptOffer (← flags.address "mint") (← flags.address "buyer")
  | "init-auction" => return .initAuction (← flags.address "mint")
  | "create-auction" => return .createAuction (← flags.address "mint") (← termsOfFlags flags)
  | "place-bid" => return .placeBid (← flags.address "mint") (← flags.amount "price")
  | "claim-auction" => return .claimAuction (← flags.address "mint")
  | "update-reserve" => return .updateReserve (← flags.address "mint") (← flags.amount "price")
  | "cancel-auction" => return .cancelAuction (← flags.address "mint")
  | _ => throw (.unknownOperation name)

/-- The operation of a name, in which underscores may stand for hyphens, and flags. -/
def ofFlags (name : String) (flags : Flags) : Except ArgumentError Operation :=
  ofHyphenated (hyphenated name) flags

end Operation

end AssetMarket
