/-
**A length-prefixed byte format.**

Metadata are stored without fixed offsets: integers lowest byte first, texts and lists behind
their length in four bytes, truth values and optional parts behind a byte that must be zero or
one.  Readers take what they need from the front and leave the rest.

Main definitions:

* `Wire.Error` — why bytes cannot be read;
* `Wire.Reader` — what a reader does, with `Wire.take`, `Wire.nat`, `Wire.text`, `Wire.bool`,
  `Wire.option`, `Wire.list`;
* `Wire.ofText`, `Wire.ofList`, `Wire.ofOption`, `Wire.ofBool` — the writers.
-/

import AssetMarket.Address
import AssetMarket.Text.Utf8

set_option relaxedAutoImplicit false
set_option autoImplicit false

namespace AssetMarket

namespace Wire

/-- Why bytes cannot be read. -/
inductive Error where
  /-- There are too few. -/
  | endOfInput
  /-- A truth value is neither zero nor one. -/
  | badBool (byte : UInt8)
  /-- The byte before an optional part is neither zero nor one. -/
  | badOption (byte : UInt8)
  /-- The bytes of a text are not UTF-8. -/
  | badText (fault : Utf8.Fault)
  deriving DecidableEq, Repr

/-- The wording of each cause. -/
def Error.message : Error → String
  | .endOfInput => "Unexpected length of input"
  | .badBool byte => s!"Invalid bool representation: {byte}"
  | .badOption byte =>
      s!"Invalid Option representation: {byte}. The first byte must be 0 or 1"
  | .badText fault => fault.message

/-- A reader takes bytes from the front. -/
abbrev Reader := StateT Bytes (Except Error)

/-! ### Readers -/

/-- The next `count` bytes. -/
def take (count : Nat) : Reader Bytes := fun bs =>
  if bs.length < count then .error .endOfInput else .ok (bs.take count, bs.drop count)

/-- One byte. -/
def byte : Reader UInt8 := fun
  | [] => .error .endOfInput
  | b :: bs => .ok (b, bs)

/-- A number of `width` bytes. -/
def nat (width : Nat) : Reader Nat := do return Bytes.number (← take width)

/-- An address. -/
def address : Reader Address := do return Bytes.address (← take 32)

/-- A truth value. -/
def bool : Reader Bool := do
  let b ← byte
  if b = 0 then return false
  else if b = 1 then return true
  else throw (.badBool b)

/-- A text behind its length. -/
def text : Reader String := do
  let bs ← take (← nat 4)
  match Utf8.decode bs with
  | .ok s => return s
  | .error fault => throw (.badText fault)

/-- So many values one after the other. -/
def repeated {α : Type} (item : Reader α) : Nat → Reader (List α)
  | 0 => return []
  | count + 1 => do
      let x ← item
      let xs ← repeated item count
      return x :: xs

/-- A list behind its length. -/
def list {α : Type} (item : Reader α) : Reader (List α) := do repeated item (← nat 4)

/-- An optional part behind its mark. -/
def option {α : Type} (some? : Reader α) : Reader (Option α) := do
  let b ← byte
  if b = 0 then return none
  else if b = 1 then return some (← some?)
  else throw (.badOption b)

/-! ### Writers -/

/-- A text behind its length. -/
def ofText (s : String) : Bytes :=
  Bytes.littleEndian 4 (Bytes.ofText s).length ++ Bytes.ofText s

/-- A truth value. -/
def ofBool (b : Bool) : Bytes := [if b then 1 else 0]

/-- A list behind its length. -/
def ofList {α : Type} (item : α → Bytes) (xs : List α) : Bytes :=
  Bytes.littleEndian 4 xs.length ++ xs.flatMap item

/-- An optional part behind its mark. -/
def ofOption {α : Type} (some? : α → Bytes) : Option α → Bytes
  | none => [0]
  | some x => 1 :: some? x

end Wire

end AssetMarket
