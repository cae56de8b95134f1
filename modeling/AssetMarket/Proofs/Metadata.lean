/-
**Metadata written and read again.**

The texts of a record are stored with null characters behind them, and an empty list of creators is
stored as no list at all.  So reading does not give back the record that was written, but the record
without its padding; the creators come back as they are, whichever way they were stored.  A record
that was read has no padding left, and it is found again when it is written.

A record that is cut short is never taken for a shorter one: every length stands in front of what it
counts, and so the reader always knows that something is missing.

Main definitions:

* `Metadata.Stripped` — a text that is left when the padding of another is taken off;
* `Metadata.Unpads` — the same for records;
* `Metadata.unpadded` — the record without padding.

Main results:

* `Metadata.stripped_iff` — what is left is determined, and the reader computes it;
* `Metadata.reads_bytes` — the bytes of a record, whole and cut short;
* `Metadata.yields_reader` — what is read has no padding and can be written;
* `Metadata.codec_up_to_padding` — **reading undoes writing but for the padding**.
-/

import Mathlib.Data.List.DropRight
import AssetMarket.Metadata
import AssetMarket.Proofs.Wire

set_option relaxedAutoImplicit false
set_option autoImplicit false

namespace AssetMarket

namespace Metadata

/-! ### Padding -/

/-- A text is left when the null characters at the end of another are taken off. -/
def Stripped (s t : String) : Prop :=
  (∃ k, s.toList = t.toList ++ List.replicate k '\x00') ∧ ∀ c ∈ t.toList.getLast?, c ≠ '\x00'

theorem toList_trimNulls (s : String) :
    (trimNulls s).toList = s.toList.rdropWhile (· = '\x00') := String.toList_ofList

theorem stripped_trimNulls (s : String) : Stripped s (trimNulls s) := by
  refine ⟨⟨(s.toList.rtakeWhile (· = '\x00')).length, ?_⟩, fun c hc hnull => ?_⟩
  · have hnulls : s.toList.rtakeWhile (· = '\x00')
        = List.replicate (s.toList.rtakeWhile (· = '\x00')).length '\x00' :=
      List.eq_replicate_of_mem fun c hc => by simpa using List.mem_rtakeWhile_imp hc
    rw [toList_trimNulls, ← hnulls, List.rdropWhile_append_rtakeWhile]
  · rw [toList_trimNulls] at hc
    have hne : s.toList.rdropWhile (· = '\x00') ≠ [] := by
      rintro hnil
      rw [hnil] at hc
      cases hc
    rw [List.getLast?_eq_some_getLast hne, Option.mem_def, Option.some.injEq] at hc
    exact List.rdropWhile_last_not (· = '\x00') s.toList hne (by simp [hc, hnull])

theorem rdropWhile_append_nulls {cs : List Char} (h : ∀ c ∈ cs.getLast?, c ≠ '\x00') (k : Nat) :
    (cs ++ List.replicate k '\x00').rdropWhile (· = '\x00') = cs := by
  induction k with
  | zero =>
      rw [List.replicate_zero, List.append_nil, List.rdropWhile_eq_self_iff]
      intro hne hnull
      exact h _ (List.getLast?_eq_some_getLast hne) (by simpa using hnull)
  | succ k ih =>
      rw [List.replicate_succ', ← List.append_assoc, List.rdropWhile_concat_pos _ _ _ (by simp), ih]

/-- What is left is determined, and the reader computes it. -/
theorem stripped_iff {s t : String} : Stripped s t ↔ trimNulls s = t := by
  constructor
  · rintro ⟨⟨k, hs⟩, hlast⟩
    refine String.toList_inj.1 ?_
    rw [toList_trimNulls, hs, rdropWhile_append_nulls hlast]
  · rintro rfl
    exact stripped_trimNulls s

theorem trimNulls_trimNulls (s : String) : trimNulls (trimNulls s) = trimNulls s :=
  stripped_iff.1 ⟨⟨0, (List.append_nil _).symm⟩, (stripped_trimNulls s).2⟩

theorem length_ofText_trimNulls_le (s : String) :
    (Bytes.ofText (trimNulls s)).length ≤ (Bytes.ofText s).length := by
  obtain ⟨⟨k, hs⟩, -⟩ := stripped_trimNulls s
  have hsplit : s = trimNulls s ++ String.ofList (List.replicate k '\x00') := by
    refine String.toList_inj.1 ?_
    rw [String.toList_append, String.toList_ofList, hs]
  have hlen (t : String) : (Bytes.ofText t).length = t.utf8ByteSize := rfl
  have hsize := congrArg String.utf8ByteSize hsplit
  rw [String.utf8ByteSize_append] at hsize
  rw [hlen, hlen]
  omega

/-- The record without padding. -/
def unpadded (m : Metadata) : Metadata :=
  { m with name := trimNulls m.name, symbol := trimNulls m.symbol, uri := trimNulls m.uri }

/-- A record is left when the padding of the texts of another is taken off. -/
structure Unpads (m m' : Metadata) : Prop where
  updateAuthority : m'.updateAuthority = m.updateAuthority
  mint : m'.mint = m.mint
  name : Stripped m.name m'.name
  symbol : Stripped m.symbol m'.symbol
  uri : Stripped m.uri m'.uri
  sellerFee : m'.sellerFee = m.sellerFee
  creators : m'.creators = m.creators

theorem unpads_unpadded (m : Metadata) : Unpads m m.unpadded :=
  ⟨rfl, rfl, stripped_trimNulls _, stripped_trimNulls _, stripped_trimNulls _, rfl, rfl⟩

/-! ### What can be written -/

theorem fits_iff {m : Metadata} :
    m.fits = true ↔ (Bytes.ofText m.name).length < 256 ^ 4 ∧
      (Bytes.ofText m.symbol).length < 256 ^ 4 ∧ (Bytes.ofText m.uri).length < 256 ^ 4 ∧
      m.creators.length < 256 ^ 4 := by
  simp [fits]

theorem encode_eq_ok_iff {m : Metadata} {bs : Bytes} :
    m.encode = .ok bs ↔ m.fits = true ∧ m.bytes = bs := by
  rw [encode]
  split
  next hfits => simp [hfits]
  next hfits => simp [hfits]

/-! ### The bytes of a record -/

theorem reads_creatorBytes (c : Creator) : Wire.Reads creatorReader (creatorBytes c) c := by
  rw [creatorBytes, List.append_assoc]
  exact (Wire.reads_address c.address).bind
    ((Wire.reads_bool c.verified).bind ((Wire.reads_byte c.share).map _))

theorem getD_storedCreators (m : Metadata) : m.storedCreators.getD [] = m.creators := by
  rw [storedCreators]
  split
  next hempty => exact (List.isEmpty_iff.1 hempty).symm
  next => rfl

theorem reads_storedCreators {m : Metadata} (h : m.creators.length < 256 ^ 4) :
    Wire.Reads (Wire.option (Wire.list creatorReader))
      (Wire.ofOption (Wire.ofList creatorBytes) m.storedCreators) m.storedCreators := by
  refine Wire.reads_option fun cs hcs => ?_
  rw [storedCreators] at hcs
  split at hcs
  · cases hcs
  · cases hcs
    exact Wire.reads_list (fun c _ => reads_creatorBytes c) h

theorem reads_sellerFee (m : Metadata) :
    Wire.Reads (Wire.nat 2) (Bytes.ofU16 m.sellerFee) m.sellerFee.toNat :=
  Wire.reads_nat m.sellerFee.toNat_lt

/-- The bytes of a record are read as the record without padding, and all of them are needed. -/
theorem reads_bytes {m : Metadata} (h : m.fits = true) :
    Wire.Reads reader m.bytes m.unpadded := by
  obtain ⟨hname, hsymbol, huri, hcreators⟩ := fits_iff.1 h
  have hself : ({
      updateAuthority := m.updateAuthority, mint := m.mint
      name := trimNulls m.name, symbol := trimNulls m.symbol, uri := trimNulls m.uri
      sellerFee := UInt16.ofNat m.sellerFee.toNat
      creators := m.storedCreators.getD [] } : Metadata) = m.unpadded := by
    rw [getD_storedCreators, UInt16.ofNat_toNat]
    rfl
  rw [← hself]
  simp only [bytes, List.append_assoc]
  exact (Wire.reads_byte versionByte).bind ((Wire.reads_address _).bind
    ((Wire.reads_address _).bind ((Wire.reads_text hname).bind ((Wire.reads_text hsymbol).bind
      ((Wire.reads_text huri).bind ((reads_sellerFee m).bind
        ((reads_storedCreators hcreators).map _)))))))

/-- What is read has no padding and can be written. -/
theorem yields_reader : Wire.Yields reader fun m => m.fits = true ∧ m.unpadded = m := by
  refine Wire.yields_bind fun _ => Wire.yields_bind fun updateAuthority =>
    Wire.yields_bind fun mint => Wire.yields_text.bind fun name hname =>
    Wire.yields_text.bind fun symbol hsymbol => Wire.yields_text.bind fun uri huri =>
    Wire.yields_bind fun sellerFee =>
    (Wire.yields_option (Wire.yields_list creatorReader)).bind fun creators hcreators =>
    Wire.yields_pure ⟨?_, ?_⟩
  · have hcount : (creators.getD []).length < 256 ^ 4 := by
      cases creators with
      | none => exact Nat.pow_pos (by decide)
      | some cs => exact hcreators cs rfl
    exact fits_iff.2 ⟨Nat.lt_of_le_of_lt (length_ofText_trimNulls_le name) hname,
      Nat.lt_of_le_of_lt (length_ofText_trimNulls_le symbol) hsymbol,
      Nat.lt_of_le_of_lt (length_ofText_trimNulls_le uri) huri, hcount⟩
  · simp only [unpadded, trimNulls_trimNulls]

/-! ### Reading and writing -/

theorem decode_eq_ok_iff {bs : Bytes} {m : Metadata} :
    decode bs = .ok m ↔ ∃ rest, reader bs = .ok (m, rest) := by
  rw [decode, StateT.run]
  cases reader bs with
  | error e => simp
  | ok result => simp [Prod.ext_iff]

theorem decode_of_error {bs : Bytes} {e : Wire.Error} (h : reader bs = .error e) :
    decode bs = .error (.undecodable kindName e.message) := by
  rw [decode, StateT.run, h]

/-- **Reading undoes writing but for the padding.**  A record is written if its lengths fit into
four bytes.  What was written is read, whatever follows it, as the record without the null
characters at the end of its texts; and no piece of it but the whole is read at all.  A record that
was read from any bytes can be written, and it is read from what was written. -/
theorem codec_up_to_padding :
    (∀ m : Metadata, (∃ bs, m.encode = .ok bs) ↔
      (Bytes.ofText m.name).length < 256 ^ 4 ∧ (Bytes.ofText m.symbol).length < 256 ^ 4 ∧
        (Bytes.ofText m.uri).length < 256 ^ 4 ∧ m.creators.length < 256 ^ 4) ∧
    (∀ (m : Metadata) (bs : Bytes), m.encode = .ok bs →
      (∃ m', Unpads m m' ∧ ∀ rest, decode (bs ++ rest) = .ok m') ∧
      ∀ front back, front ++ back = bs → back ≠ [] →
        decode front = .error (.undecodable kindName Wire.Error.endOfInput.message)) ∧
    ∀ (bs : Bytes) (m : Metadata), decode bs = .ok m →
      ∃ written, m.encode = .ok written ∧ decode written = .ok m := by
  refine ⟨fun m => ?_, fun m bs hbs => ?_, fun bs m hm => ?_⟩
  · rw [← fits_iff]
    constructor
    · rintro ⟨bs, hbs⟩
      exact (encode_eq_ok_iff.1 hbs).1
    · exact fun hfits => ⟨m.bytes, encode_eq_ok_iff.2 ⟨hfits, rfl⟩⟩
  · obtain ⟨hfits, rfl⟩ := encode_eq_ok_iff.1 hbs
    have hreads := reads_bytes hfits
    exact ⟨⟨m.unpadded, unpads_unpadded m,
        fun rest => decode_eq_ok_iff.2 ⟨rest, hreads.whole rest⟩⟩,
      fun front back hfront hback => decode_of_error (hreads.cut front back hfront hback)⟩
  · obtain ⟨rest, hread⟩ := decode_eq_ok_iff.1 hm
    obtain ⟨hfits, hself⟩ := yields_reader bs m rest hread
    have hwhole := (reads_bytes hfits).whole []
    rw [List.append_nil, hself] at hwhole
    exact ⟨m.bytes, encode_eq_ok_iff.2 ⟨hfits, rfl⟩, decode_eq_ok_iff.2 ⟨[], hwhole⟩⟩

/-- Metadata with a padded name and one creator. -/
def paddedMug : Metadata where
  updateAuthority := Address.marketplace
  mint := Address.tokenProgram
  name := "Mug #1\x00\x00"
  symbol := "MUG"
  uri := "https://example.invalid/1.json"
  sellerFee := 500
  creators := [⟨Address.marketplace, true, 100⟩]

theorem codec_up_to_padding_mug : ∃ bs m, paddedMug.encode = .ok bs ∧ m.name = "Mug #1" ∧
    m.creators = paddedMug.creators ∧ decode (bs ++ [255]) = .ok m ∧
    decode bs.dropLast = .error (.undecodable kindName Wire.Error.endOfInput.message) ∧
    ∃ written, m.encode = .ok written ∧ decode written = .ok m := by
  obtain ⟨hencode, hdecode, hback⟩ := codec_up_to_padding
  obtain ⟨bs, hbs⟩ := (hencode paddedMug).2 (by decide +kernel)
  obtain ⟨⟨m, hm, hwhole⟩, hcut⟩ := hdecode paddedMug bs hbs
  have hname : trimNulls paddedMug.name = "Mug #1" := by decide +kernel
  have hne : bs ≠ [] := by
    rintro rfl
    have hbytes := (encode_eq_ok_iff.1 hbs).2
    cases hbytes
  exact ⟨bs, m, hbs, (stripped_iff.1 hm.name).symm.trans hname, hm.creators, hwhole [255],
    hcut _ _ (List.dropLast_concat_getLast hne) (List.cons_ne_nil _ _), hback _ m (hwhole [])⟩

end Metadata

end AssetMarket
