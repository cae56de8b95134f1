/-
**Faults in UTF-8.**

Texts inside records are UTF-8.  Where the bytes are not, the complaint says at which byte the valid
part ends and how many bytes the broken character takes, or that the string ends within a character.

Main definitions:

* `Utf8.Fault`, `Utf8.fault` — where and how bytes stop being UTF-8;
* `Utf8.decode` — the text of a byte string.

Main results:

* `Utf8.decode_ofText` — the bytes of a text read back.
-/

import AssetMarket.Bytes

set_option relaxedAutoImplicit false
set_option autoImplicit false

namespace AssetMarket

namespace Utf8

/-- Where and how bytes stop being UTF-8. -/
structure Fault where
  /-- The number of bytes of whole characters before the fault. -/
  validLength : Nat
  /-- The number of bytes that can be of no character, or nothing where the string ends within
  one.  -/
  brokenLength : Option Nat
  deriving DecidableEq, Repr

/-- The wording of a fault. -/
def Fault.message (f : Fault) : String :=
  match f.brokenLength with
  | some n => s!"invalid utf-8 sequence of {n} bytes from index {f.validLength}"
  | none => s!"incomplete utf-8 byte sequence from index {f.validLength}"

/-- The number of bytes of the character that a first byte announces, `0` for a byte that begins no
character. -/
def announced (first : UInt8) : Nat :=
  if first < 0x80 then 1
  else if first < 0xC2 then 0
  else if first < 0xE0 then 2
  else if first < 0xF0 then 3
  else if first < 0xF5 then 4
  else 0

/-- Whether a byte continues a character. -/
def continues (b : UInt8) : Bool := 0x80 ≤ b && b < 0xC0

/-- Whether a byte may stand second after a first byte.  It is here that overlong forms, surrogates
and numbers above the last code point are ruled out. -/
def maySecond (first second : UInt8) : Bool :=
  if first = 0xE0 then 0xA0 ≤ second && second < 0xC0
  else if first = 0xED then 0x80 ≤ second && second < 0xA0
  else if first = 0xF0 then 0x90 ≤ second && second < 0xC0
  else if first = 0xF4 then 0x80 ≤ second && second < 0x90
  else continues second

/-- What a byte string begins with. -/
inductive Lead where
  /-- A whole character of so many bytes. -/
  | whole (length : Nat)
  /-- So many bytes that can be of no character. -/
  | broken (length : Nat)
  /-- The beginning of a character, and nothing more. -/
  | cut
  deriving DecidableEq, Repr

/-- What a first byte and those after it begin with. -/
def lead (first : UInt8) (rest : Bytes) : Lead :=
  match announced first, rest with
  | 0, _ => .broken 1
  | 1, _ => .whole 1
  | _, [] => .cut
  | 2, second :: _ => if maySecond first second then .whole 2 else .broken 1
  | n, second :: rest =>
      if maySecond first second then
        match n, rest with
        | _, [] => .cut
        | 3, third :: _ => if continues third then .whole 3 else .broken 2
        | _, third :: rest =>
            if continues third then
              match rest with
              | [] => .cut
              | fourth :: _ => if continues fourth then .whole 4 else .broken 3
            else .broken 2
      else .broken 1

/-- The first fault after `position` bytes of whole characters; `skip` bytes of the current one are
still to be passed over. -/
def faultFrom (position skip : Nat) : Bytes → Fault
  | [] => ⟨position, none⟩
  | first :: rest =>
      match skip with
      | skip + 1 => faultFrom position skip rest
      | 0 =>
          match lead first rest with
          | .whole n => faultFrom (position + n) (n - 1) rest
          | .broken n => ⟨position, some n⟩
          | .cut => ⟨position, none⟩

/-- The first fault of a byte string that is not UTF-8. -/
def fault (bs : Bytes) : Fault := faultFrom 0 0 bs

/-- The text of a byte string. -/
def decode (bs : Bytes) : Except Fault String :=
  match String.fromUTF8? ⟨bs.toArray⟩ with
  | some s => .ok s
  | none => .error (fault bs)

theorem decode_ofText (s : String) : decode (Bytes.ofText s) = .ok s := by
  have hbytes : (⟨(Bytes.ofText s).toArray⟩ : ByteArray) = s.toByteArray := by
    simp only [Bytes.ofText, Array.toArray_toList]
    rfl
  have hs : String.fromUTF8? s.toByteArray = some s := by
    simp [String.fromUTF8?, s.isValidUTF8, String.fromUTF8]
  simp only [decode, hbytes, hs]

end Utf8

end AssetMarket
