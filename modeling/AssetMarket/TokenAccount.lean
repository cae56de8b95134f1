/-
**Token accounts.**

A token account holds some amount of one mint for one owner.  Every owner has one associated
account for each mint, at a derived address.

Main definitions:

* `TokenAccount` — mint, owner and amount;
* `TokenAccount.decode`, `TokenAccount.encode` — the account as bytes;
* `TokenAccount.holds` — whether the account holds some of a mint;
* `TokenAccount.checkOwner` — whether the account is of the expected owner;
* `createTokenAccount` — the instruction that opens an associated account.
-/

import AssetMarket.Address.Place
import AssetMarket.Instruction
import AssetMarket.Record.Fields

set_option relaxedAutoImplicit false
set_option autoImplicit false

namespace AssetMarket

/-- What matters of a token account. -/
@[ext]
structure TokenAccount where
  mint : Address
  owner : Address
  amount : UInt64
  deriving DecidableEq

namespace TokenAccount

/-- The bytes of a token account. -/
def size : Nat := 165

/-- Read a token account. -/
def decode (bs : Bytes) : Except MarketError TokenAccount := do
  Record.checkLength "TokenAccount" size bs.length
  return { mint := bs.addressAt 0, owner := bs.addressAt 32, amount := bs.u64At 64 }

/-- Write a token account, with zeros for everything that does not matter. -/
def encode (t : TokenAccount) : Bytes :=
  t.mint.bytes ++ t.owner.bytes ++ Bytes.ofU64 t.amount ++ List.replicate (size - 72) 0

/-- Whether the account holds some of a mint. -/
def holds (t : TokenAccount) (mint : Address) : Bool := t.mint == mint && 0 < t.amount

/-- Refuse an account of another owner. -/
def checkOwner (accountOwner expected mint : Address) : Except MarketError Unit :=
  if accountOwner = expected then .ok () else .error (.assetNotOwned mint.text expected.text)

end TokenAccount

/-- The instruction that opens the associated account of an owner unless it is open already, and the
address of that account. -/
def createTokenAccount (payer owner mint : Address) :
    Except MarketError (Instruction × Address) := do
  let account ← associatedAccount owner mint
  let instruction : Instruction :=
    { program := Address.associatedTokenProgram
      accounts :=
        [.signer payer, .writable account, .readOnly owner, .readOnly mint,
         .readOnly Address.systemProgram, .readOnly Address.tokenProgram]
      data := [1] }
  return (instruction, account)

end AssetMarket
