/-
**Hexadecimal text.**

Bytes are written as two lower-case digits each.  The reader is lenient about what surrounds the
digits: blanks at the two ends are dropped, then one mark `0x` or `0X`; letters count in either
case.  Lengths and positions in its complaints are measured in bytes.

Main definitions:

* `Hex.encode` — the digits of a byte string;
* `Hex.Error`, `Hex.decode` — the reader and its complaints.

Main results:

* `Hex.decodePairs_digits` — the digits of a byte string read back;
* `Hex.length_digits` — there are two digits for each byte.
-/

import AssetMarket.Bytes
import AssetMarket.Text.Blank
import AssetMarket.Text.Numeral

set_option relaxedAutoImplicit false
set_option autoImplicit false

namespace AssetMarket

namespace Hex

/-! ### Writing -/

/-- The lower-case digit of a value below sixteen. -/
def digit (n : Nat) : Char :=
  if n < 10 then Char.ofNat ('0'.toNat + n) else Char.ofNat ('a'.toNat + (n - 10))

/-- The two digits of a byte. -/
def byteDigits (b : UInt8) : List Char := [digit (b.toNat / 16), digit (b.toNat % 16)]

/-- The digits of a byte string. -/
def digits (bs : Bytes) : List Char := bs.flatMap byteDigits

/-- A byte string as hexadecimal text. -/
def encode (bs : Bytes) : String := String.ofList (digits bs)

@[simp] theorem digits_nil : digits [] = [] := rfl

@[simp] theorem digits_cons (b : UInt8) (bs : Bytes) :
    digits (b :: bs) = digit (b.toNat / 16) :: digit (b.toNat % 16) :: digits bs := rfl

theorem length_digits (bs : Bytes) : (digits bs).length = 2 * bs.length := by
  induction bs with
  | nil => rfl
  | cons b bs ih => simp [ih]; omega

/-! ### Reading -/

/-- The bytes of a run of digits, two digits a byte; a character that is no digit counts as zero. -/
def decodePairs : List Char → Bytes
  | high :: low :: rest =>
      UInt8.ofNat ((Text.digit? 16 high).getD 0 * 16 + (Text.digit? 16 low).getD 0)
        :: decodePairs rest
  | _ => []

theorem digit?_digit : ∀ n < 16, Text.digit? 16 (digit n) = some n := by decide

theorem decodePairs_digits (bs : Bytes) : decodePairs (digits bs) = bs := by
  induction bs with
  | nil => rfl
  | cons b bs ih =>
      have hb := b.toNat_lt
      have hvalue : b.toNat / 16 * 16 + b.toNat % 16 = b.toNat := by omega
      simp [decodePairs, ih, digit?_digit (b.toNat / 16) (by omega),
        digit?_digit (b.toNat % 16) (by omega), hvalue]

/-- Why a text is not hexadecimal. -/
inductive Error where
  /-- The digits do not pair up; the number of bytes of the text is given. -/
  | oddLength (bytes : Nat)
  /-- The character at this byte position is no digit. -/
  | invalidCharacter (position : Nat)
  deriving DecidableEq, Repr

/-- The wording of each cause. -/
def Error.message : Error → String
  | .oddLength bytes => s!"Hex string has odd length: {bytes}"
  | .invalidCharacter position => s!"Invalid hex character at position {position}"

/-- A text without one mark `0x` or `0X` at its start. -/
def dropMark : List Char → List Char
  | '0' :: 'x' :: rest => rest
  | '0' :: 'X' :: rest => rest
  | cs => cs

/-- Read a run of digits that stands alone. -/
def decodeDigits (cs : List Char) : Except Error Bytes :=
  if Text.utf8Length cs % 2 ≠ 0 then .error (.oddLength (Text.utf8Length cs))
  else if cs.all Text.isHexadecimal then .ok (decodePairs cs)
  else .error (.invalidCharacter (Text.utf8Length (cs.takeWhile Text.isHexadecimal)))

/-- Read hexadecimal text, with blanks around it and a mark in front if one likes. -/
def decode (s : String) : Except Error Bytes := decodeDigits (dropMark (Text.trim s.toList))

end Hex

end AssetMarket
