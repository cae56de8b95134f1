/-
**Base 58.**

The ledger writes byte strings as big-endian numbers in base 58, with digits and letters but
without the four that are easily mistaken for others.  Leading zero bytes carry no value and are
written as one `1` each, so the text keeps the length of the byte string.

The reader scans from the left.  A character outside the alphabet stops it with the position, in
bytes, and the byte that stands there; a number that outgrows 132 bytes stops it as well, at the
digit at which that happens.  These are refusals.  At the end the bytes of the number and a zero byte
for each leading `1` must together find room in 132 bytes.  Where they do not, the reader has no
answer at all: it breaks down, and the program with it.

Main definitions:

* `Base58.encode`, `Base58.decode` — the writer and the reader;
* `Base58.Error` — why a text gives no bytes, with the breakdown as one of the causes.

Main results:

* `Base58.letter_injective`, `Base58.digitOf_letter` — the alphabet is a bijection with the
  digits.
-/

import AssetMarket.Bytes
import AssetMarket.Text.Radix
import AssetMarket.Text.Quoted

set_option relaxedAutoImplicit false
set_option autoImplicit false

namespace AssetMarket

namespace Base58

/-! ### The alphabet -/

/-- The digits in order of their value. -/
def alphabet : List Char :=
  ['1', '2', '3', '4', '5', '6', '7', '8', '9',
   'A', 'B', 'C', 'D', 'E', 'F', 'G', 'H', 'J', 'K', 'L', 'M', 'N', 'P', 'Q', 'R', 'S', 'T', 'U',
   'V', 'W', 'X', 'Y', 'Z',
   'a', 'b', 'c', 'd', 'e', 'f', 'g', 'h', 'i', 'j', 'k', 'm', 'n', 'o', 'p', 'q', 'r', 's', 't',
   'u', 'v', 'w', 'x', 'y', 'z']

/-- The character of a digit. -/
def letter (d : Nat) : Char := alphabet.getD d '1'

/-- The value of a character, if it is a digit. -/
def digitOf (c : Char) : Option Nat := alphabet.idxOf? c

theorem digitOf_letter : ∀ d < 58, digitOf (letter d) = some d := by decide

theorem letter_injective {d e : Nat} (hd : d < 58) (he : e < 58) (h : letter d = letter e) :
    d = e := by
  have hde := digitOf_letter d hd
  rw [h, digitOf_letter e he] at hde
  exact (Option.some.inj hde).symm

/-! ### Writing -/

/-- The digits of a byte string, one `1` for each leading zero byte and then the number. -/
def encodeChars (bs : Bytes) : List Char :=
  (bs.takeWhile (· == 0)).map (fun _ => '1')
    ++ (Radix.digits 58 (Bytes.number bs.reverse)).reverse.map letter

/-- A byte string as text. -/
def encode (bs : Bytes) : String := String.ofList (encodeChars bs)

/-! ### Reading -/

/-- The bytes for which the reader has room. -/
def room : Nat := 132

/-- Why a text gives no bytes. -/
inductive Error where
  /-- The byte at this position belongs to no digit. -/
  | invalidCharacter (byte : Char) (offset : Nat)
  /-- The number does not find room. -/
  | invalidLength
  /-- The number finds room, but not with the zero bytes in front of it.  This is no refusal: the
  reader breaks down, and whoever waits for its answer gets none. -/
  | breakdown
  deriving DecidableEq, Repr

/-- The wording of each cause. -/
def Error.message : Error → String
  | .invalidCharacter byte offset =>
      "InvalidBase58Character(" ++ Text.quoteChar byte ++ ", " ++ toString offset ++ ")"
  | .invalidLength => "InvalidBase58Length"
  | .breakdown => "base 58 text out of range"

/-- The first byte of a character in UTF-8, as the character of that number. -/
def firstByte (c : Char) : Char :=
  let n := c.toNat
  if n < 0x80 then c
  else if n < 0x800 then Char.ofNat (0xC0 + n / 0x40)
  else if n < 0x10000 then Char.ofNat (0xE0 + n / 0x1000)
  else Char.ofNat (0xF0 + n / 0x40000)

/-- One more than the largest number for which there is room. -/
def numberBound : Nat := 2 ^ 1056

/-- Continue a number with more digits.  All digits so far were single bytes, so their count is the
position in bytes of the next character. -/
def readNumber (offset value : Nat) : List Char → Except Error Nat
  | [] => .ok value
  | c :: cs =>
      match digitOf c with
      | none => .error (.invalidCharacter (firstByte c) offset)
      | some d =>
          if value * 58 + d < numberBound then readNumber (offset + 1) (value * 58 + d) cs
          else .error .invalidLength

/-- The bytes of a text with this number: a zero byte for each leading `1`, then those of the
number. -/
def assemble (cs : List Char) (n : Nat) : Bytes :=
  (cs.takeWhile (· == '1')).map (fun _ => (0 : UInt8))
    ++ (Radix.digits 256 n).reverse.map UInt8.ofNat

/-- Read a text.  Whether there is room for all of its bytes turns out last. -/
def decodeChars (cs : List Char) : Except Error Bytes := do
  let bs := assemble cs (← readNumber 0 0 cs)
  if bs.length ≤ room then return bs else throw .breakdown

/-- Read a text. -/
def decode (s : String) : Except Error Bytes := decodeChars s.toList

end Base58

end AssetMarket
