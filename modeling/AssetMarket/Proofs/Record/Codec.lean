/-
**Records and their bytes determine each other.**

Every kind of record is written as its header and then its fields, and it is read at the offsets at
which the fields were written.  `Record.LawfulCodec` says what a reader and a writer of one size and
one header owe each other; the five kinds keep it, and the theorem for records of any kind is put
together from them.

The settings record alone can be refused when it is long enough: its count may be beyond the
capacity of the treasury.  Its slots are two runs of fields, first the addresses and then the rates,
and slots beyond the count are read and written like all others.

Main definitions:

* `Record.storedCount` — the number of recipients as it stands in the bytes of settings;
* `Record.Overfull` — bytes of settings with more recipients than there are slots;
* `Record.LawfulCodec` — the laws of a reader and a writer.

Main results:

* `Listing.lawfulCodec`, `Offer.lawfulCodec`, `Auction.lawfulCodec`, `UserAccount.lawfulCodec`,
  `GlobalConfig.lawfulCodec` — the five kinds keep the laws;
* `Record.lawfulCodec` — so do records, kind by kind;
* `Record.decode_congr` — what stands before and behind the fields does not matter to the reader;
* `Record.codec_bijective` — **reading and writing are inverse**.
-/

import Mathlib.Data.List.Basic
import AssetMarket.Record

set_option relaxedAutoImplicit false
set_option autoImplicit false

namespace AssetMarket

/-! ### Runs of fields -/

namespace Bytes

/-- Two ranges that touch make one range, wherever the second is said to begin. -/
theorem slice_append_slice_of_eq {bs : Bytes} {offset len next : Nat} (h : offset + len = next)
    (more : Nat) : bs.slice offset len ++ bs.slice next more = bs.slice offset (len + more) := by
  subst h
  exact slice_append_slice bs offset len more

variable {α : Type} (f : α → Address) (g : α → UInt64)

@[simp] theorem length_flatMap_bytes (xs : List α) :
    (xs.flatMap fun x => (f x).bytes).length = 32 * xs.length := by
  induction xs with
  | nil => rfl
  | cons x xs ih => simp [ih]; omega

@[simp] theorem length_flatMap_ofU64 (xs : List α) :
    (xs.flatMap fun x => ofU64 (g x)).length = 8 * xs.length := by
  induction xs with
  | nil => rfl
  | cons x xs ih => simp [ih]; omega

/-- The addresses of a run are found one after the other. -/
theorem addressAt_flatMap (xs : List α) (rest : Bytes) (i : Nat) (h : i < xs.length) :
    addressAt ((xs.flatMap fun x => (f x).bytes) ++ rest) (32 * i) = f xs[i] := by
  induction xs generalizing i with
  | nil => simp at h
  | cons x xs ih =>
      rw [List.flatMap_cons, List.append_assoc]
      cases i with
      | zero => simp
      | succ i =>
          rw [addressAt_append_left (by rw [Address.length_bytes]; omega)]
          simpa [Nat.mul_succ] using ih i (by simpa using h)

/-- The integers of a run are found one after the other. -/
theorem u64At_flatMap (xs : List α) (i : Nat) (h : i < xs.length) :
    u64At (xs.flatMap fun x => ofU64 (g x)) (8 * i) = g xs[i] := by
  induction xs generalizing i with
  | nil => simp at h
  | cons x xs ih =>
      rw [List.flatMap_cons]
      cases i with
      | zero => simp
      | succ i =>
          rw [u64At_append_left (by rw [length_ofU64]; omega)]
          simpa [Nat.mul_succ] using ih i (by simpa using h)

end Bytes

/-! ### The laws of a codec -/

namespace Record

/-- The number of recipients as it stands in the bytes of settings. -/
def storedCount (bs : Bytes) : Nat := (bs.slice 48 8).number

/-- Whether bytes are those of settings with more recipients than there are slots. -/
def Overfull (kind : RecordKind) (bs : Bytes) : Prop :=
  kind = .globalConfig ∧ treasuryCapacity < storedCount bs

/-- What a reader and a writer owe each other for the values that are records of a kind.  The writer
fills the size and puts the header first, and the reader finds what was written.  Of all bytes those
that are too few and those that are overfull are refused; the others are a record, and it is written
with the bytes behind the header that it was read from. -/
structure LawfulCodec {α : Type} (kind : RecordKind) (ofKind : α → Prop)
    (decode : Bytes → Except MarketError α) (encode : α → Bytes) : Prop where
  length_encode : ∀ x, ofKind x → (encode x).length = kind.size
  header_encode : ∀ x, ofKind x → kind.header <+: encode x
  decode_encode : ∀ x, ofKind x → decode (encode x) = .ok x
  decode_of_lt : ∀ bs, bs.length < kind.size →
    decode bs = .error (.malformedRecord kind.name kind.size bs.length)
  decode_of_overfull : ∀ bs, kind.size ≤ bs.length → Overfull kind bs →
    decode bs = .error (.treasuryCapacity treasuryCapacity (storedCount bs))
  exists_decode : ∀ bs, kind.size ≤ bs.length → ¬ Overfull kind bs →
    ∃ x, decode bs = .ok x ∧ ofKind x ∧
      encode x = kind.header ++ bs.slice headerLength (kind.size - headerLength)

theorem checkLength_of_lt {kind : String} {expected actual : Nat} (h : actual < expected) :
    checkLength kind expected actual = .error (.malformedRecord kind expected actual) := by
  simp [checkLength, h]

theorem checkLength_of_le {kind : String} {expected actual : Nat} (h : expected ≤ actual) :
    checkLength kind expected actual = .ok () := by
  simp [checkLength, Nat.not_lt.2 h]

end Record

/-! ### Records without runs -/

namespace Listing

@[simp] theorem length_header : header.length = 8 := by simp [header]

theorem decode_of_le {bs : Bytes} (h : 128 ≤ bs.length) : decode bs = .ok
    ⟨bs.addressAt 8, bs.addressAt 40, bs.addressAt 72, bs.u64At 104, bs.i64At 112,
      bs.u64At 120⟩ := by
  rw [decode, size, Record.checkLength_of_le h]
  rfl

theorem lawfulCodec : Record.LawfulCodec .listing (fun _ => True) decode encode where
  length_encode r _ := by simp [encode, RecordKind.size, size]
  header_encode r _ := by simp [encode, RecordKind.header]
  decode_encode r _ := by
    rw [decode_of_le (by simp [encode])]
    simp [encode, Bytes.addressAt_append_left, Bytes.u64At_append_left, Bytes.i64At_append_left]
  decode_of_lt bs h := by
    rw [decode, Record.checkLength_of_lt (show bs.length < size from h)]
    rfl
  decode_of_overfull _ _ h := absurd h.1 (by decide)
  exists_decode bs hlen _ := by
    have hsize : 128 ≤ bs.length := hlen
    refine ⟨_, decode_of_le hsize, trivial, ?_⟩
    simp (disch := omega) only [encode, List.append_assoc, Bytes.bytes_addressAt,
      Bytes.ofU64_u64At, Bytes.ofI64_i64At]
    simp [Bytes.slice_append_slice_of_eq, RecordKind.header, RecordKind.size, size,
      Record.headerLength]

end Listing

namespace Offer

@[simp] theorem length_header : header.length = 8 := by simp [header]

theorem decode_of_le {bs : Bytes} (h : 96 ≤ bs.length) : decode bs = .ok
    ⟨bs.addressAt 8, bs.addressAt 40, bs.u64At 72, bs.i64At 80, bs.u64At 88⟩ := by
  rw [decode, size, Record.checkLength_of_le h]
  rfl

theorem lawfulCodec : Record.LawfulCodec .offer (fun _ => True) decode encode where
  length_encode r _ := by simp [encode, RecordKind.size, size]
  header_encode r _ := by simp [encode, RecordKind.header]
  decode_encode r _ := by
    rw [decode_of_le (by simp [encode])]
    simp [encode, Bytes.addressAt_append_left, Bytes.u64At_append_left, Bytes.i64At_append_left]
  decode_of_lt bs h := by
    rw [decode, Record.checkLength_of_lt (show bs.length < size from h)]
    rfl
  decode_of_overfull _ _ h := absurd h.1 (by decide)
  exists_decode bs hlen _ := by
    have hsize : 96 ≤ bs.length := hlen
    refine ⟨_, decode_of_le hsize, trivial, ?_⟩
    simp (disch := omega) only [encode, List.append_assoc, Bytes.bytes_addressAt,
      Bytes.ofU64_u64At, Bytes.ofI64_i64At]
    simp [Bytes.slice_append_slice_of_eq, RecordKind.header, RecordKind.size, size,
      Record.headerLength]

end Offer

namespace Auction

@[simp] theorem length_header : header.length = 8 := by simp [header]

theorem decode_of_le {bs : Bytes} (h : 160 ≤ bs.length) : decode bs = .ok
    ⟨bs.addressAt 8, bs.addressAt 40, bs.u64At 72, bs.u64At 80, bs.i64At 88, bs.i64At 96,
      bs.addressAt 104, bs.u64At 136, bs.i64At 144, bs.u64At 152⟩ := by
  rw [decode, size, Record.checkLength_of_le h]
  rfl

theorem lawfulCodec : Record.LawfulCodec .auction (fun _ => True) decode encode where
  length_encode r _ := by simp [encode, RecordKind.size, size]
  header_encode r _ := by simp [encode, RecordKind.header]
  decode_encode r _ := by
    rw [decode_of_le (by simp [encode])]
    simp [encode, Bytes.addressAt_append_left, Bytes.u64At_append_left, Bytes.i64At_append_left]
  decode_of_lt bs h := by
    rw [decode, Record.checkLength_of_lt (show bs.length < size from h)]
    rfl
  decode_of_overfull _ _ h := absurd h.1 (by decide)
  exists_decode bs hlen _ := by
    have hsize : 160 ≤ bs.length := hlen
    refine ⟨_, decode_of_le hsize, trivial, ?_⟩
    simp (disch := omega) only [encode, List.append_assoc, Bytes.bytes_addressAt,
      Bytes.ofU64_u64At, Bytes.ofI64_i64At]
    simp [Bytes.slice_append_slice_of_eq, RecordKind.header, RecordKind.size, size,
      Record.headerLength]

end Auction

namespace UserAccount

@[simp] theorem length_header : header.length = 8 := by simp [header]

theorem decode_of_le {bs : Bytes} (h : 56 ≤ bs.length) :
    decode bs = .ok ⟨bs.addressAt 8, bs.u64At 40, bs.u64At 48⟩ := by
  rw [decode, size, Record.checkLength_of_le h]
  rfl

theorem lawfulCodec : Record.LawfulCodec .userAccount (fun _ => True) decode encode where
  length_encode r _ := by simp [encode, RecordKind.size, size]
  header_encode r _ := by simp [encode, RecordKind.header]
  decode_encode r _ := by
    rw [decode_of_le (by simp [encode])]
    simp [encode, Bytes.addressAt_append_left, Bytes.u64At_append_left]
  decode_of_lt bs h := by
    rw [decode, Record.checkLength_of_lt (show bs.length < size from h)]
    rfl
  decode_of_overfull _ _ h := absurd h.1 (by decide)
  exists_decode bs hlen _ := by
    have hsize : 56 ≤ bs.length := hlen
    refine ⟨_, decode_of_le hsize, trivial, ?_⟩
    simp (disch := omega) only [encode, List.append_assoc, Bytes.bytes_addressAt,
      Bytes.ofU64_u64At]
    simp [Bytes.slice_append_slice_of_eq, RecordKind.header, RecordKind.size, size,
      Record.headerLength]

end UserAccount

/-! ### The settings -/

namespace GlobalConfig

open Record (storedCount)

@[simp] theorem length_header : header.length = 8 := by simp [header]

theorem toNat_u64At (bs : Bytes) : (bs.u64At 48).toNat = storedCount bs := by
  have hlt : storedCount bs < 2 ^ 64 := by
    have hnumber := Bytes.number_lt (bs.slice 48 8)
    have hlen : (bs.slice 48 8).length ≤ 8 := by rw [Bytes.length_slice]; omega
    exact Nat.lt_of_lt_of_le hnumber (Nat.pow_le_pow_right (by decide) hlen)
  exact UInt64.toNat_ofNat_of_lt' hlt

theorem decode_of_count_le {bs : Bytes} (h : 376 ≤ bs.length) (hcount : storedCount bs ≤ 8) :
    decode bs = .ok ⟨bs.addressAt 8, bs.u64At 40,
      ⟨storedCount bs, (List.range treasuryCapacity).map (slotAt bs), by simp, hcount⟩⟩ := by
  rw [decode, size, Record.checkLength_of_le h]
  simp only [toNat_u64At]
  exact dif_pos hcount

theorem decode_of_count_gt {bs : Bytes} (h : 376 ≤ bs.length) (hcount : 8 < storedCount bs) :
    decode bs = .error (.treasuryCapacity treasuryCapacity (storedCount bs)) := by
  rw [decode, size, Record.checkLength_of_le h]
  simp only [toNat_u64At]
  exact dif_neg (Nat.not_le.2 hcount)

/-- The fields in front of the slots, with the header. -/
def front (r : GlobalConfig) : Bytes :=
  header ++ r.superAdmin.bytes ++ Bytes.ofU64 r.marketFee
    ++ Bytes.ofU64 (UInt64.ofNat r.treasury.count)

/-- The addresses of the slots, one after the other. -/
def addressRun (r : GlobalConfig) : Bytes := r.treasury.slots.flatMap (·.1.bytes)

/-- The rates of the slots, one after the other. -/
def rateRun (r : GlobalConfig) : Bytes :=
  r.treasury.slots.flatMap fun slot => Bytes.ofU64 slot.2

@[simp] theorem length_front (r : GlobalConfig) : r.front.length = addressesOffset := by
  simp [front, addressesOffset]

@[simp] theorem length_addressRun (r : GlobalConfig) : r.addressRun.length = 256 := by
  rw [addressRun, Bytes.length_flatMap_bytes, r.treasury.length_slots]
  rfl

@[simp] theorem length_rateRun (r : GlobalConfig) : r.rateRun.length = 64 := by
  rw [rateRun, Bytes.length_flatMap_ofU64, r.treasury.length_slots]
  rfl

theorem encode_eq (r : GlobalConfig) : encode r = r.front ++ (r.addressRun ++ r.rateRun) := by
  simp [encode, front, addressRun, rateRun]

theorem slotAt_encode (r : GlobalConfig) (i : Nat) (h : i < r.treasury.slots.length) :
    slotAt (encode r) i = r.treasury.slots[i] := by
  have haddress : (encode r).addressAt (addressesOffset + 32 * i) = r.treasury.slots[i].1 := by
    rw [encode_eq, Bytes.addressAt_append_left (by simp), length_front, Nat.add_sub_cancel_left]
    exact Bytes.addressAt_flatMap (·.1) _ _ i h
  have hrate : (encode r).u64At (ratesOffset + 8 * i) = r.treasury.slots[i].2 := by
    have hoffset : ratesOffset + 8 * i - addressesOffset - 256 = 8 * i := by
      simp only [ratesOffset, addressesOffset]; omega
    rw [encode_eq, Bytes.u64At_append_left (by simp [ratesOffset, addressesOffset]; omega),
      length_front, Bytes.u64At_append_left (by simp [ratesOffset, addressesOffset]; omega),
      length_addressRun, hoffset]
    exact Bytes.u64At_flatMap (·.2) _ i h
  rw [slotAt, haddress, hrate]

theorem map_slotAt_encode (r : GlobalConfig) :
    (List.range treasuryCapacity).map (slotAt (encode r)) = r.treasury.slots := by
  apply List.ext_getElem
  · simp [r.treasury.length_slots]
  · intro i _ h
    simp [slotAt_encode r i h]

theorem storedCount_encode (r : GlobalConfig) : storedCount (encode r) = r.treasury.count := by
  have hcount : r.treasury.count < 2 ^ 64 := Nat.lt_of_le_of_lt r.treasury.count_le (by decide)
  rw [← toNat_u64At, encode]
  simp [Bytes.u64At_append_left, UInt64.toNat_ofNat_of_lt' hcount]

/-- The runs of addresses and rates as they are read from bytes are the bytes they are read from. -/
theorem runs_of_slotAt {bs : Bytes} (h : 376 ≤ bs.length) :
    ((List.range treasuryCapacity).map (slotAt bs)).flatMap (·.1.bytes) = bs.slice 56 256 ∧
      (((List.range treasuryCapacity).map (slotAt bs)).flatMap fun slot => Bytes.ofU64 slot.2)
        = bs.slice 312 64 := by
  constructor
  · rw [List.flatMap_map, ← Bytes.flatMap_range_slice bs 56 32 8]
    refine List.flatMap_congr fun i hi => ?_
    have hi8 : i < 8 := List.mem_range.1 hi
    exact Bytes.bytes_addressAt (by simp only [addressesOffset]; omega)
  · rw [List.flatMap_map, ← Bytes.flatMap_range_slice bs 312 8 8]
    refine List.flatMap_congr fun i hi => ?_
    have hi8 : i < 8 := List.mem_range.1 hi
    exact Bytes.ofU64_u64At (by simp only [ratesOffset]; omega)

theorem lawfulCodec : Record.LawfulCodec .globalConfig (fun _ => True) decode encode where
  length_encode r _ := by simp [encode_eq, RecordKind.size, size, addressesOffset]
  header_encode r _ := by simp [encode, RecordKind.header]
  decode_encode r _ := by
    have hcount : storedCount (encode r) ≤ 8 := by
      rw [storedCount_encode]
      exact r.treasury.count_le
    rw [decode_of_count_le (by simp [encode_eq, addressesOffset]) hcount]
    simp only [storedCount_encode, map_slotAt_encode]
    simp [encode, Bytes.addressAt_append_left, Bytes.u64At_append_left]
  decode_of_lt bs h := by
    rw [decode, Record.checkLength_of_lt (show bs.length < size from h)]
    rfl
  decode_of_overfull bs hlen h := decode_of_count_gt hlen h.2
  exists_decode bs hlen h := by
    have hsize : 376 ≤ bs.length := hlen
    have hcount : storedCount bs ≤ treasuryCapacity := Nat.not_lt.1 fun hlt => h ⟨rfl, hlt⟩
    obtain ⟨haddresses, hrates⟩ := runs_of_slotAt hsize
    refine ⟨_, decode_of_count_le hsize hcount, trivial, ?_⟩
    simp only [encode, haddresses, hrates, ← toNat_u64At, UInt64.ofNat_toNat]
    simp (disch := omega) only [List.append_assoc, Bytes.bytes_addressAt, Bytes.ofU64_u64At]
    simp [Bytes.slice_append_slice_of_eq, RecordKind.header, RecordKind.size, size,
      Record.headerLength]

end GlobalConfig

/-! ### Records of any kind -/

theorem RecordKind.length_header (kind : RecordKind) :
    kind.header.length = Record.headerLength := by
  cases kind <;> rfl

namespace Record

/-- The codec of a type is the codec of a kind if its values stand for the records of that kind. -/
theorem LawfulCodec.map {α : Type} {kind : RecordKind} {read : Bytes → Except MarketError α}
    {write : α → Bytes} (law : LawfulCodec kind (fun _ => True) read write) {wrap : α → Record}
    (hread : ∀ bs, decode kind bs = (read bs).map wrap) (hwrite : ∀ x, (wrap x).encode = write x)
    (hkind : ∀ x, (wrap x).kind = kind) (hwrap : ∀ r : Record, r.kind = kind → ∃ x, r = wrap x) :
    LawfulCodec kind (fun r : Record => r.kind = kind) (decode kind) encode where
  length_encode r hr := by
    obtain ⟨x, rfl⟩ := hwrap r hr
    rw [hwrite, law.length_encode x trivial]
  header_encode r hr := by
    obtain ⟨x, rfl⟩ := hwrap r hr
    rw [hwrite]
    exact law.header_encode x trivial
  decode_encode r hr := by
    obtain ⟨x, rfl⟩ := hwrap r hr
    rw [hread, hwrite, law.decode_encode x trivial]
    rfl
  decode_of_lt bs h := by
    rw [hread, law.decode_of_lt bs h]
    rfl
  decode_of_overfull bs hlen h := by
    rw [hread, law.decode_of_overfull bs hlen h]
    rfl
  exists_decode bs hlen h := by
    obtain ⟨x, hx, -, hbytes⟩ := law.exists_decode bs hlen h
    refine ⟨wrap x, ?_, hkind x, ?_⟩
    · rw [hread, hx]
      rfl
    · rw [hwrite, hbytes]

theorem lawfulCodec (kind : RecordKind) :
    LawfulCodec kind (fun r : Record => r.kind = kind) (decode kind) encode := by
  cases kind with
  | globalConfig =>
      exact GlobalConfig.lawfulCodec.map (fun _ => rfl) (fun _ => rfl) (fun _ => rfl)
        fun | .globalConfig r, _ => ⟨r, rfl⟩
  | listing =>
      exact Listing.lawfulCodec.map (fun _ => rfl) (fun _ => rfl) (fun _ => rfl)
        fun | .listing r, _ => ⟨r, rfl⟩
  | offer =>
      exact Offer.lawfulCodec.map (fun _ => rfl) (fun _ => rfl) (fun _ => rfl)
        fun | .offer r, _ => ⟨r, rfl⟩
  | auction =>
      exact Auction.lawfulCodec.map (fun _ => rfl) (fun _ => rfl) (fun _ => rfl)
        fun | .auction r, _ => ⟨r, rfl⟩
  | userAccount =>
      exact UserAccount.lawfulCodec.map (fun _ => rfl) (fun _ => rfl) (fun _ => rfl)
        fun | .userAccount r, _ => ⟨r, rfl⟩

variable {kind : RecordKind} {bs bs' : Bytes} {r : Record}

/-- A record that was read is of the kind wanted, and is written as the bytes it was read from. -/
theorem of_decode (h : decode kind bs = .ok r) :
    r.kind = kind ∧
      r.encode = kind.header ++ bs.slice headerLength (kind.size - headerLength) := by
  have law := lawfulCodec kind
  rcases Nat.lt_or_ge bs.length kind.size with hlt | hle
  · rw [law.decode_of_lt bs hlt] at h
    cases h
  · by_cases hfull : Overfull kind bs
    · rw [law.decode_of_overfull bs hle hfull] at h
      cases h
    · obtain ⟨r', hr', hkind, hbytes⟩ := law.exists_decode bs hle hfull
      rw [h] at hr'
      cases hr'
      exact ⟨hkind, hbytes⟩

theorem decode_eq_malformed_iff :
    decode kind bs = .error (.malformedRecord kind.name kind.size bs.length) ↔
      bs.length < kind.size := by
  refine ⟨fun h => Nat.not_le.1 fun hlen => ?_, (lawfulCodec kind).decode_of_lt bs⟩
  by_cases hfull : Overfull kind bs
  · rw [(lawfulCodec kind).decode_of_overfull bs hlen hfull] at h
    cases h
  · obtain ⟨r, hr, -⟩ := (lawfulCodec kind).exists_decode bs hlen hfull
    rw [hr] at h
    cases h

theorem decode_eq_capacity_iff :
    decode kind bs = .error (.treasuryCapacity treasuryCapacity (storedCount bs)) ↔
      kind.size ≤ bs.length ∧ Overfull kind bs := by
  refine ⟨fun h => ?_, fun ⟨hlen, hfull⟩ => (lawfulCodec kind).decode_of_overfull bs hlen hfull⟩
  rcases Nat.lt_or_ge bs.length kind.size with hlt | hlen
  · rw [(lawfulCodec kind).decode_of_lt bs hlt] at h
    cases h
  · refine ⟨hlen, ?_⟩
    by_cases hfull : Overfull kind bs
    · exact hfull
    · obtain ⟨r, hr, -⟩ := (lawfulCodec kind).exists_decode bs hlen hfull
      rw [hr] at h
      cases h

/-- The count is among the bytes behind the header. -/
theorem storedCount_congr (h : bs.slice 8 368 = bs'.slice 8 368) :
    storedCount bs = storedCount bs' := by
  have inside : ∀ bs : Bytes, bs.slice 48 8 = Bytes.slice (bs.slice 8 368) 40 8 := by
    intro bs
    simp [Bytes.slice, List.drop_take, List.take_take, List.drop_drop]
  rw [storedCount, storedCount, inside bs, inside bs', h]

/-- What stands before and behind the fields does not matter to the reader. -/
theorem decode_congr (hlen : kind.size ≤ bs.length) (hlen' : kind.size ≤ bs'.length)
    (h : bs.slice headerLength (kind.size - headerLength)
      = bs'.slice headerLength (kind.size - headerLength)) : decode kind bs = decode kind bs' := by
  have law := lawfulCodec kind
  have hcount : kind = .globalConfig → storedCount bs = storedCount bs' := by
    rintro rfl
    exact storedCount_congr h
  by_cases hfull : Overfull kind bs
  · have hfull' : Overfull kind bs' := ⟨hfull.1, hcount hfull.1 ▸ hfull.2⟩
    rw [law.decode_of_overfull bs hlen hfull, law.decode_of_overfull bs' hlen' hfull',
      hcount hfull.1]
  · have hfull' : ¬ Overfull kind bs' := fun ⟨hk, hlt⟩ => hfull ⟨hk, hcount hk ▸ hlt⟩
    obtain ⟨r, hr, hkind, hbytes⟩ := law.exists_decode bs hlen hfull
    obtain ⟨r', hr', hkind', hbytes'⟩ := law.exists_decode bs' hlen' hfull'
    -- both records are written as the same bytes, and these can be read in one way only
    rw [hr, hr', ← law.decode_encode r hkind, ← law.decode_encode r' hkind', hbytes, hbytes', h]

/-- **Reading and writing are inverse.**  A record is found again in the bytes it is written as.
Bytes are refused exactly if they are too few, or if they are settings that count more recipients
than there are slots; all others are a record, and writing it gives the header and then the bytes
it was read from, so that nothing before or behind these has any influence. -/
theorem codec_bijective :
    (∀ r : Record, r.encode.length = r.kind.size ∧ r.kind.header <+: r.encode ∧
      decode r.kind r.encode = .ok r) ∧
    ∀ (kind : RecordKind) (bs : Bytes),
      (decode kind bs = .error (.malformedRecord kind.name kind.size bs.length) ↔
        bs.length < kind.size) ∧
      (decode kind bs = .error (.treasuryCapacity treasuryCapacity (storedCount bs)) ↔
        kind.size ≤ bs.length ∧ kind = .globalConfig ∧ treasuryCapacity < storedCount bs) ∧
      (kind.size ≤ bs.length → ¬ (kind = .globalConfig ∧ treasuryCapacity < storedCount bs) →
        ∃ r, decode kind bs = .ok r ∧ r.kind = kind ∧
          r.encode = kind.header ++ bs.slice headerLength (kind.size - headerLength)) ∧
      ∀ bs' : Bytes, kind.size ≤ bs.length → kind.size ≤ bs'.length →
        bs.slice headerLength (kind.size - headerLength)
          = bs'.slice headerLength (kind.size - headerLength) →
        decode kind bs = decode kind bs' := by
  refine ⟨fun r => ?_, fun kind bs => ?_⟩
  · have law := lawfulCodec r.kind
    exact ⟨law.length_encode r rfl, law.header_encode r rfl, law.decode_encode r rfl⟩
  · exact ⟨decode_eq_malformed_iff, decode_eq_capacity_iff, (lawfulCodec kind).exists_decode bs,
      fun _ => decode_congr⟩

end Record

end AssetMarket
