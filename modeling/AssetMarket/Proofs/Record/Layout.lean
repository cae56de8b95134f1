/-
**The catalog tells where the fields of a record stand.**

Three lists say how a record is laid out: the reader has one, the writer has one, and the catalog
that is published has a third, with offsets of its own.  Others who read records know the catalog
alone.  This module shows that they find what the writer has put there, and that what they change in
one field is seen in no other.

A record is taken as the list of its fields with their values.  Its bytes are the header and then
these values, one after the other, and the offsets of the catalog add up the widths of the same
list; so one induction finds each value at its offset.

Main definitions:

* `Catalog.RecordField.width`, `Catalog.RecordField.read` — what the catalog says of a field;
* `Catalog.Tiles` — fields that leave no gap and do not overlap;
* `FieldValue` — what a field can hold, with `FieldValue.encode`, the bytes for it;
* `Record.values`, `Record.value?` — the fields of a record under their names.

Main results:

* `Catalog.Tiles.existsUnique_covers` — each byte belongs to one field;
* `Record.encode_eq_flatten` — a record is its header and its values;
* `Catalog.exists_row_of_mem_place` — what is placed somewhere is found there;
* `Record.read_of_decode` — a field is read from its own bytes;
* `Record.layout_describes_codec` — **the catalog describes the codec**.
-/

import Mathlib.Logic.ExistsUnique
import AssetMarket.Catalog
import AssetMarket.Proofs.Record.Codec

set_option relaxedAutoImplicit false
set_option autoImplicit false

namespace AssetMarket

/-! ### What the catalog says -/

namespace FieldType

/-- All types. -/
def all : List FieldType := ArgType.all.map .one ++ ArgType.all.map .eight

/-- The width of a type given by its name; a type that is not known has none. -/
def widthOfName (name : String) : Nat := (all.find? (·.name == name)).elim 0 width

@[simp] theorem widthOfName_name (t : FieldType) : widthOfName t.name = t.width := by
  cases t with
  | one type => cases type <;> rfl
  | eight type => cases type <;> rfl

theorem name_injective {t t' : FieldType} (h : t.name = t'.name) : t = t' := by
  have hmem : ∀ t : FieldType, t ∈ all := by
    intro t
    cases t with
    | one type => cases type <;> decide
    | eight type => cases type <;> decide
  have hall : ∀ t ∈ all, ∀ t' ∈ all, t.name = t'.name → t = t' := by decide
  exact hall t (hmem t) t' (hmem t') h

end FieldType

theorem RecordKind.size_lt (k : RecordKind) : k.size < 2 ^ 64 := by
  cases k <;> decide

namespace Catalog

namespace RecordField

/-- A field as the catalog lists it. -/
def ofField (field : RecordKind.Field) : RecordField :=
  ⟨field.name, field.type.name, UInt64.ofNat field.offset⟩

variable (f : RecordField)

/-- The bytes of a field, as its type says. -/
def width : Nat := FieldType.widthOfName f.type

/-- A byte of a record belongs to a field. -/
def Covers (i : Nat) : Prop := f.offset.toNat ≤ i ∧ i < f.offset.toNat + f.width

instance (i : Nat) : Decidable (f.Covers i) :=
  inferInstanceAs (Decidable (_ ∧ _))

/-- What stands where the catalog has a field. -/
def read (bs : Bytes) : Bytes := bs.slice f.offset.toNat f.width

variable {f}

/-- Bytes that agree on a field are read alike there. -/
theorem read_congr {bs bs' : Bytes} (h : ∀ i, f.Covers i → bs[i]? = bs'[i]?) :
    f.read bs = f.read bs' := by
  apply List.ext_getElem?
  intro i
  rw [read, read, Bytes.slice, Bytes.slice, List.getElem?_take, List.getElem?_take]
  split
  · next hi =>
      rw [List.getElem?_drop, List.getElem?_drop]
      exact h _ ⟨Nat.le_add_right _ _, Nat.add_lt_add_left hi _⟩
  · rfl

end RecordField

/-- Fields fill the bytes from one place to another, each of them from where the one before it
ends. -/
def Tiles : Nat → List RecordField → Nat → Prop
  | start, [], stop => start = stop
  | start, f :: fs, stop => f.offset.toNat = start ∧ Tiles (start + f.width) fs stop

namespace Tiles

variable {start stop i : Nat} {fs : List RecordField}

theorem le (h : Tiles start fs stop) : start ≤ stop := by
  induction fs generalizing start with
  | nil => exact Nat.le_of_eq h
  | cons f fs ih => exact Nat.le_trans (Nat.le_add_right _ _) (ih h.2)

/-- No field reaches beyond the ends. -/
theorem within (h : Tiles start fs stop) :
    ∀ f ∈ fs, start ≤ f.offset.toNat ∧ f.offset.toNat + f.width ≤ stop := by
  induction fs generalizing start with
  | nil => simp
  | cons f fs ih =>
      obtain ⟨hoffset, hrest⟩ := h
      intro g hg
      rcases List.mem_cons.1 hg with rfl | hg
      · have hle := hrest.le
        omega
      · have hwithin := ih hrest g hg
        omega

/-- Each byte belongs to one field. -/
theorem existsUnique_covers (h : Tiles start fs stop) (hstart : start ≤ i) (hstop : i < stop) :
    ∃! f, f ∈ fs ∧ f.Covers i := by
  induction fs generalizing start with
  | nil =>
      have hempty : start = stop := h
      omega
  | cons f fs ih =>
      obtain ⟨hoffset, hrest⟩ := h
      have hlater : ∀ g ∈ fs, start + f.width ≤ g.offset.toNat := fun g hg =>
        (hrest.within g hg).1
      -- a byte of the first field lies in front of all others
      rcases Nat.lt_or_ge i (start + f.width) with hi | hi
      · refine ⟨f, ⟨List.mem_cons_self, by omega, by omega⟩, ?_⟩
        rintro g ⟨hg, hcovers, -⟩
        rcases List.mem_cons.1 hg with rfl | hg
        · rfl
        · have hbehind := hlater g hg
          omega
      · obtain ⟨g, ⟨hg, hcovers⟩, hunique⟩ := ih hrest hi
        refine ⟨g, ⟨List.mem_cons_of_mem f hg, hcovers⟩, ?_⟩
        rintro g' ⟨hg', hcovers'⟩
        rcases List.mem_cons.1 hg' with rfl | hg'
        · have hend := hcovers'.2
          omega
        · exact hunique g' ⟨hg', hcovers'⟩

/-- Two fields have no byte in common. -/
theorem not_covers (h : Tiles start fs stop) {f g : RecordField} (hf : f ∈ fs) (hg : g ∈ fs)
    (hne : g ≠ f) (hcovers : g.Covers i) : ¬f.Covers i := by
  intro hboth
  have hwithin := h.within g hg
  obtain ⟨_, -, hunique⟩ := h.existsUnique_covers (Nat.le_trans hwithin.1 hcovers.1)
    (Nat.lt_of_lt_of_le hcovers.2 hwithin.2)
  exact hne ((hunique g ⟨hg, hcovers⟩).trans (hunique f ⟨hf, hboth⟩).symm)

end Tiles

/-- Fields that are placed one after the other leave no gap. -/
theorem tiles_place (rows : List (String × FieldType)) (offset : Nat)
    (h : offset + (rows.map fun row => row.2.width).sum < 2 ^ 64) :
    Tiles offset ((RecordKind.place offset rows).map .ofField)
      (offset + (rows.map fun row => row.2.width).sum) := by
  induction rows generalizing offset with
  | nil => rfl
  | cons row rows ih =>
      rw [List.map_cons, List.sum_cons] at h
      rw [RecordKind.place, List.map_cons, List.map_cons, List.sum_cons, ← Nat.add_assoc]
      have hwidth : (RecordField.ofField ⟨row.1, row.2, offset⟩).width = row.2.width :=
        FieldType.widthOfName_name row.2
      have hoffset : offset < 2 ^ 64 := by omega
      refine ⟨UInt64.toNat_ofNat_of_lt' hoffset, ?_⟩
      rw [hwidth]
      exact ih _ (by omega)

/-- The fields of a kind fill its records behind the header. -/
theorem tiles_ofKind (k : RecordKind) :
    Tiles Record.headerLength (ofKind k).fields k.size := by
  have hfills := k.layout_fills
  have htiles := tiles_place k.layout Record.headerLength (by rw [hfills]; exact k.size_lt)
  rwa [hfills] at htiles

end Catalog

/-! ### What a record holds -/

/-- What a field can hold. -/
inductive FieldValue where
  | publicKey (a : Address)
  | u64 (x : UInt64)
  | i64 (x : Int64)
  /-- One address for each slot of the treasury. -/
  | publicKeys (as : List Address) (h : as.length = treasuryCapacity)
  /-- One rate for each slot of the treasury. -/
  | u64s (xs : List UInt64) (h : xs.length = treasuryCapacity)
  deriving DecidableEq

namespace FieldValue

/-- The type of a field that holds a value. -/
def type : FieldValue → FieldType
  | .publicKey _ => .one .publicKey
  | .u64 _ => .one .u64
  | .i64 _ => .one .i64
  | .publicKeys _ _ => .eight .publicKey
  | .u64s _ _ => .eight .u64

/-- The bytes of a value: addresses as they are, integers lowest byte first. -/
def encode : FieldValue → Bytes
  | .publicKey a => a.bytes
  | .u64 x => Bytes.ofU64 x
  | .i64 x => Bytes.ofI64 x
  | .publicKeys as _ => as.flatMap fun a => a.bytes
  | .u64s xs _ => xs.flatMap fun x => Bytes.ofU64 x

theorem length_encode (v : FieldValue) : v.encode.length = v.type.width := by
  cases v with
  | publicKeys as h =>
      rw [encode, Bytes.length_flatMap_bytes (fun a => a), h]
      rfl
  | u64s xs h =>
      rw [encode, Bytes.length_flatMap_ofU64 (fun x => x), h]
      rfl
  | _ => simp [encode, type, FieldType.width, ArgType.width]

/-- The bytes of a value tell the value, if its type is known. -/
theorem encode_injective {v v' : FieldValue} (htype : v.type = v'.type)
    (h : v.encode = v'.encode) : v = v' := by
  cases v with
  | publicKey a =>
      cases v' with
      | publicKey a' => rw [Address.ext h]
      | _ => cases htype
  | u64 x =>
      cases v' with
      | u64 x' =>
          have hread := congrArg (Bytes.u64At · 0) h
          simpa [encode] using hread
      | _ => cases htype
  | i64 x =>
      cases v' with
      | i64 x' =>
          have hread := congrArg (fun bs : Bytes => Bytes.i64At (bs ++ []) 0) h
          simpa only [encode, Bytes.i64At_append_right, i64.injEq] using hread
      | _ => cases htype
  | publicKeys as has =>
      cases v' with
      | publicKeys as' has' =>
          have hall : as = as' := by
            apply List.ext_getElem (has.trans has'.symm)
            intro i hi hi'
            rw [← Bytes.addressAt_flatMap (fun a => a) as [] i hi,
              ← Bytes.addressAt_flatMap (fun a => a) as' [] i hi']
            exact congrArg (fun bs : Bytes => Bytes.addressAt (bs ++ []) (32 * i)) h
          subst hall
          rfl
      | _ => cases htype
  | u64s xs hxs =>
      cases v' with
      | u64s xs' hxs' =>
          have hall : xs = xs' := by
            apply List.ext_getElem (hxs.trans hxs'.symm)
            intro i hi hi'
            rw [← Bytes.u64At_flatMap (fun x => x) xs i hi,
              ← Bytes.u64At_flatMap (fun x => x) xs' i hi']
            exact congrArg (fun bs : Bytes => Bytes.u64At bs (8 * i)) h
          subst hall
          rfl
      | _ => cases htype

end FieldValue

namespace Record

/-- The fields of a record under their names.  The treasury of the settings is three fields: its
count, its addresses and its rates. -/
def values : Record → List (String × FieldValue)
  | .globalConfig r =>
      [("super_admin", .publicKey r.superAdmin), ("market_fee_sol", .u64 r.marketFee),
       ("team_count", .u64 (UInt64.ofNat r.treasury.count)),
       ("team_treasury", .publicKeys (r.treasury.slots.map (·.1)) (by
          rw [List.length_map, r.treasury.length_slots])),
       ("treasury_rate", .u64s (r.treasury.slots.map (·.2)) (by
          rw [List.length_map, r.treasury.length_slots]))]
  | .listing r =>
      [("mint", .publicKey r.mint), ("seller", .publicKey r.seller),
       ("collection", .publicKey r.collection), ("price", .u64 r.price),
       ("listed_date", .i64 r.listedDate), ("active", .u64 r.active)]
  | .offer r =>
      [("mint", .publicKey r.mint), ("buyer", .publicKey r.buyer),
       ("offer_price", .u64 r.offerPrice), ("offer_listing_date", .i64 r.offerListingDate),
       ("active", .u64 r.active)]
  | .auction r =>
      [("mint", .publicKey r.mint), ("creator", .publicKey r.creator),
       ("start_price", .u64 r.startPrice), ("min_increase", .u64 r.minIncrease),
       ("start_date", .i64 r.startDate), ("last_bid_date", .i64 r.lastBidDate),
       ("last_bidder", .publicKey r.lastBidder), ("highest_bid", .u64 r.highestBid),
       ("duration", .i64 r.duration), ("status", .u64 r.statusCode)]
  | .userAccount r =>
      [("address", .publicKey r.address), ("traded_volume", .u64 r.tradedVolume),
       ("escrow_sol_balance", .u64 r.escrowBalance)]

/-- The value of a field given by its name. -/
def value? (r : Record) (name : String) : Option FieldValue := r.values.lookup name

/-- A record is its header and its values. -/
theorem encode_eq_flatten (r : Record) :
    r.encode = r.kind.header ++ (r.values.map fun row => row.2.encode).flatten := by
  cases r <;>
    simp [encode, kind, values, FieldValue.encode, RecordKind.header, GlobalConfig.encode,
      Listing.encode, Offer.encode, Auction.encode, UserAccount.encode, List.flatMap_map]

theorem layout_kind (r : Record) :
    r.kind.layout = r.values.map fun row => (row.1, row.2.type) := by
  cases r <;> rfl

theorem value?_of_mem {r : Record} {row : String × FieldValue} (h : row ∈ r.values) :
    r.value? row.1 = some row.2 := by
  revert row
  cases r <;> simp [value?, values, List.lookup_cons]

end Record

/-! ### Finding what was written -/

namespace Catalog

/-- What is placed somewhere is found there.  In front of the fields stands something else, and its
length is where they begin. -/
theorem exists_row_of_mem_place (rows : List (String × FieldValue)) (front : Bytes)
    (h : front.length + ((rows.map fun row => row.2.encode).flatten).length < 2 ^ 64) :
    ∀ f ∈ (RecordKind.place front.length (rows.map fun row => (row.1, row.2.type))).map
        RecordField.ofField,
      ∃ row ∈ rows, f.name = row.1 ∧ f.type = row.2.type.name ∧
        f.read (front ++ (rows.map fun row => row.2.encode).flatten) = row.2.encode := by
  induction rows generalizing front with
  | nil => simp [RecordKind.place]
  | cons row rows ih =>
      obtain ⟨name, v⟩ := row
      have hnext : front.length + v.type.width = (front ++ v.encode).length := by
        rw [List.length_append, v.length_encode]
      simp only [List.map_cons, List.flatten_cons, List.length_append] at h
      intro f hf
      rw [List.map_cons, RecordKind.place, List.map_cons, List.mem_cons] at hf
      rw [List.map_cons, List.flatten_cons]
      rcases hf with rfl | hf
      · have hoffset : front.length < 2 ^ 64 := by omega
        refine ⟨(name, v), List.mem_cons_self, rfl, rfl, ?_⟩
        rw [RecordField.read, RecordField.width, RecordField.ofField,
          FieldType.widthOfName_name, UInt64.toNat_ofNat_of_lt' hoffset, ← v.length_encode]
        exact Bytes.slice_append_append _ _ _
      · -- what was passed stands in front of what is left
        rw [hnext] at hf
        rw [← List.append_assoc]
        obtain ⟨row, hrow, hfound⟩ := ih (front ++ v.encode) (by
          rw [List.length_append]; omega) f hf
        exact ⟨row, List.mem_cons_of_mem _ hrow, hfound⟩

end Catalog

namespace Record

open Catalog (Tiles tiles_ofKind)

variable {kind : RecordKind} {bs bs' : Bytes} {r r' : Record} {f : Catalog.RecordField}

/-- A field of the catalog is a field of the record, and the writer puts its value there. -/
theorem exists_value_of_mem (r : Record) (hf : f ∈ (Catalog.ofKind r.kind).fields) :
    ∃ v, r.value? f.name = some v ∧ f.type = v.type.name ∧ f.read r.encode = v.encode := by
  have hsize : r.kind.header.length + ((r.values.map fun row => row.2.encode).flatten).length
      < 2 ^ 64 := by
    rw [← List.length_append, ← r.encode_eq_flatten, (lawfulCodec r.kind).length_encode r rfl]
    exact r.kind.size_lt
  have hplace : (Catalog.ofKind r.kind).fields
      = (RecordKind.place r.kind.header.length
          (r.values.map fun row => (row.1, row.2.type))).map Catalog.RecordField.ofField := by
    rw [r.kind.length_header, ← r.layout_kind]
    rfl
  rw [hplace] at hf
  obtain ⟨row, hrow, hname, htype, hread⟩ :=
    Catalog.exists_row_of_mem_place r.values r.kind.header hsize f hf
  refine ⟨row.2, ?_, htype, ?_⟩
  · rw [hname]
    exact value?_of_mem hrow
  · rw [r.encode_eq_flatten]
    exact hread

/-- A field is read from its own bytes: they are the same in the record as it is written. -/
theorem read_of_decode (h : decode kind bs = .ok r) (hf : f ∈ (Catalog.ofKind kind).fields) :
    f.read bs = f.read r.encode := by
  obtain ⟨-, hbytes⟩ := of_decode h
  obtain ⟨hstart, hstop⟩ := (tiles_ofKind kind).within f hf
  -- behind the header the record is written as the buffer goes on, as far as a record reaches
  have hheader := kind.length_header
  have hfront : (kind.header ++ bs.slice headerLength (kind.size - headerLength)).drop
      f.offset.toNat = (bs.drop f.offset.toNat).take (kind.size - f.offset.toNat) := by
    rw [Bytes.drop_append_left (by rw [hheader]; exact hstart), Bytes.slice, List.drop_take,
      List.drop_drop, hheader, Nat.add_sub_cancel' hstart]
    congr 1
    omega
  rw [Catalog.RecordField.read, Catalog.RecordField.read, hbytes, Bytes.slice, Bytes.slice, hfront,
    List.take_take, Nat.min_eq_left (by omega)]

/-- What two buffers agree on, the records read from them agree on. -/
theorem value?_congr (h : decode kind bs = .ok r) (h' : decode kind bs' = .ok r')
    (hf : f ∈ (Catalog.ofKind kind).fields) (hread : f.read bs = f.read bs') :
    r.value? f.name = r'.value? f.name := by
  obtain ⟨hkind, -⟩ := of_decode h
  obtain ⟨hkind', -⟩ := of_decode h'
  obtain ⟨v, hv, htype, hbytes⟩ := exists_value_of_mem r (hkind ▸ hf)
  obtain ⟨v', hv', htype', hbytes'⟩ := exists_value_of_mem r' (hkind' ▸ hf)
  have hencode : v.encode = v'.encode := by
    rw [← hbytes, ← hbytes', ← read_of_decode h hf, ← read_of_decode h' hf, hread]
  have hsame : v.type = v'.type := FieldType.name_injective (htype.symm.trans htype')
  rw [hv, hv', FieldValue.encode_injective hsame hencode]

/-- **The catalog describes the codec.**  For each kind the fields that the catalog lists fill the
bytes behind the header up to the size of the record, and each of these bytes belongs to one field.
For each record a field of the catalog is a field of the record of this name and type, and where the
catalog has it, the writer puts the bytes of its value.  And where two buffers can both be read and
differ, as far as a record reaches, within one field only, the records agree on all other fields. -/
theorem layout_describes_codec :
    (∀ kind : RecordKind,
      Catalog.ofKind kind ∈ Catalog.current.accounts ∧
      (Catalog.ofKind kind).size.toNat = kind.size ∧
      Tiles headerLength (Catalog.ofKind kind).fields kind.size ∧
      ∀ i, headerLength ≤ i → i < kind.size →
        ∃! f, f ∈ (Catalog.ofKind kind).fields ∧ f.Covers i) ∧
    (∀ r : Record,
      (Catalog.ofKind r.kind).fields.map (·.name) = r.values.map (·.1) ∧
      ∀ f ∈ (Catalog.ofKind r.kind).fields, ∃ v, r.value? f.name = some v ∧
        f.type = v.type.name ∧ r.encode.slice f.offset.toNat f.width = v.encode) ∧
    ∀ (kind : RecordKind) (bs bs' : Bytes) (r r' : Record),
      decode kind bs = .ok r → decode kind bs' = .ok r' →
      ∀ f ∈ (Catalog.ofKind kind).fields,
        (∀ i < kind.size, ¬f.Covers i → bs[i]? = bs'[i]?) →
        ∀ g ∈ (Catalog.ofKind kind).fields, g ≠ f → r.value? g.name = r'.value? g.name := by
  refine ⟨fun kind => ⟨?_, ?_, tiles_ofKind kind, fun i hstart hstop => ?_⟩, fun r => ⟨?_, ?_⟩, ?_⟩
  · exact List.mem_map_of_mem kind.mem_all
  · cases kind <;> rfl
  · exact (tiles_ofKind kind).existsUnique_covers hstart hstop
  · cases r <;> rfl
  · exact fun f hf => exists_value_of_mem r hf
  · intro kind bs bs' r r' h h' f hf hagree g hg hne
    refine value?_congr h h' hg (Catalog.RecordField.read_congr fun i hi => hagree i ?_ ?_)
    · exact Nat.lt_of_lt_of_le hi.2 ((tiles_ofKind kind).within g hg).2
    · exact (tiles_ofKind kind).not_covers hf hg hne hi

/-- A listing at a price. -/
def listedAt (price : UInt64) : Record :=
  .listing ⟨.ofNumber 19, .ofNumber 1, .ofNumber 30, price, 7, 1⟩

/-- Two listings that differ in the price name one seller. -/
theorem layout_describes_codec_repriced :
    decode .listing (listedAt 5).encode = .ok (listedAt 5) ∧
      decode .listing (listedAt 1000).encode = .ok (listedAt 1000) ∧
      (listedAt 5).value? "price" ≠ (listedAt 1000).value? "price" ∧
      (listedAt 5).value? "seller" = (listedAt 1000).value? "seller" := by
  have hread : ∀ price, decode .listing (listedAt price).encode = .ok (listedAt price) :=
    fun price => (lawfulCodec .listing).decode_encode (listedAt price) rfl
  refine ⟨hread 5, hread 1000, by decide +kernel, ?_⟩
  exact layout_describes_codec.2.2 .listing _ _ _ _ (hread 5) (hread 1000) ⟨"price", "u64", 104⟩
    (by decide +kernel) (by decide +kernel) ⟨"seller", "publicKey", 40⟩ (by decide +kernel)
    (by decide)

end Record

end AssetMarket
