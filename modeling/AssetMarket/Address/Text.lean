/-
**Reading addresses.**

Addresses come as text in two ways.  Between programs they are base 58 and nothing else; on the
command line a person may also give the sixty-four hexadecimal digits, with or without a mark.
Both readers drop blanks at the two ends, and both break down with the reader of base 58.

Main definitions:

* `MarketError.ofBase58` — the failure that stands for an error in base 58;
* `Address.ofText` — the strict reader;
* `Address.KeyError`, `Address.ofKeyText` — the reader of the command line.
-/

import AssetMarket.Address
import AssetMarket.Error
import AssetMarket.Text.Blank
import AssetMarket.Text.Hex

set_option relaxedAutoImplicit false
set_option autoImplicit false

namespace AssetMarket

/-- The failure that stands for an error in base 58, given the one for a refusal. -/
def MarketError.ofBase58 (refused : String → MarketError) : Base58.Error → MarketError
  | .breakdown => .breakdown
  | e => refused e.message

namespace Address

/-! ### Base 58 only -/

/-- What is said of a text that is not base 58. -/
def notBase58 (s cause : String) : MarketError :=
  .invalidArgument "address" s!"'{s}' is not base58: {cause}"

/-- Read an address in base 58.  Complaints show the text with its blanks. -/
def ofText (s : String) : Except MarketError Address :=
  match Base58.decodeChars (Text.trim s.toList) with
  | .error e => .error (.ofBase58 (notBase58 s) e)
  | .ok bs =>
      match ofBytes? bs with
      | some a => .ok a
      | none =>
          .error (.invalidArgument "address" s!"'{s}' decodes to {bs.length} bytes, expected 32")

/-! ### Base 58 or hexadecimal -/

/-- Why a text on the command line is not an address. -/
inductive KeyError where
  /-- Base 58 of another length. -/
  | base58Length (length : Nat)
  /-- Neither base 58 nor hexadecimal. -/
  | notHexadecimal (cause : Hex.Error)
  /-- Hexadecimal of another length. -/
  | hexLength (length : Nat)
  /-- No refusal, but the breakdown of the reader of base 58. -/
  | breakdown
  deriving DecidableEq, Repr

/-- The wording of each cause. -/
def KeyError.message : KeyError → String
  | .base58Length length => s!"Base58 decoded to {length} bytes, expected 32"
  | .notHexadecimal cause => cause.message
  | .hexLength length => s!"Expected 32 bytes, got {length} (provide base58 or 64 hex chars)"
  | .breakdown => Base58.Error.breakdown.message

/-- Whether a text is the sixty-four digits of an address. -/
def isKeyDigits (cs : List Char) : Bool :=
  Text.utf8Length cs == 64 && cs.all Text.isHexadecimal

/-- Read a text that is already trimmed as hexadecimal. -/
def ofHexChars (cs : List Char) : Except KeyError Address := do
  let bs ← (Hex.decodeDigits (Hex.dropMark cs)).mapError .notHexadecimal
  (ofBytes? bs).elim (throw (.hexLength bs.length)) pure

/-- Read an address in base 58 or hexadecimal.  Sixty-four hexadecimal digits are always taken as
such; any other text is base 58 if it can be.  After a breakdown hexadecimal is not tried. -/
def ofKeyText (s : String) : Except KeyError Address :=
  let cs := Text.trim s.toList
  if isKeyDigits cs then ofHexChars cs
  else
    match Base58.decodeChars cs with
    | .ok bs => (ofBytes? bs).elim (.error (.base58Length bs.length)) .ok
    | .error .breakdown => .error .breakdown
    | .error _ => ofHexChars cs

end Address

end AssetMarket
