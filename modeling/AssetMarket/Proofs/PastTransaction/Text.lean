/-
**Past transactions are read back from their texts.**

The form of the snapshots has all of a transaction: texts of any letters, numbers of the whole
range, addresses and data in base 58, and the inner instructions with their types.  Of these the
data alone may not be read back, because the reader of base 58 has room for 132 bytes, those of
leading zeros among them; and one instruction that is not read is enough for the whole transaction.

Main definitions:

* `Bytes.longFault` — how the reading of data ends that are too long.

Main results:

* `PastInstruction.ofJson_toJson` — an instruction is read back if its data are brief;
* `InnerInstruction.ofJson_toJson` — an inner instruction is, of whichever type it is;
* `PastTransaction.ofText?_of_mem_forms` — a transaction is read back just where its data are brief;
* `PastTransaction.text_round_trip` — **and then with the same events**.
-/

import AssetMarket.Event.Decode
import AssetMarket.Proofs.PastTransaction.Node

set_option relaxedAutoImplicit false
set_option autoImplicit false

namespace AssetMarket

open Json (Shape asList asU64 asIndex asList_map isPlain_list isPlain_record read_record)

/-! ### Plain parts -/

@[simp]
theorem Address.ofJson_text (a : Address) : ofJson (.str a.text) = .ok a := by
  rw [ofJson, Json.asParsed_str, ofText_text]
  rfl

theorem asList_texts (accounts : List Address) :
    asList Address.ofJson (.array (accounts.map (.str ·.text))) = .ok accounts :=
  asList_map fun a _ => a.ofJson_text

/-- How the reading of data ends that are too long. -/
def Bytes.longFault (bs : Bytes) : Json.ShapeError :=
  if (Base58.significant bs).length ≤ Base58.room then .breakdown
  else Base58.Error.invalidLength.shapeError

/-- Data are read back if they are brief. -/
theorem Bytes.ofBase58Json_encode (bs : Bytes) :
    ofBase58Json (.str (Base58.encode bs))
      = if bs.length ≤ Base58.room then .ok bs else .error bs.longFault := by
  rw [ofBase58Json, Json.asParsed_str, Base58.decode_encode, longFault]
  split
  · rfl
  · split <;> rfl

/-! ### Instructions -/

/-- An instruction is read back if its data are brief. -/
theorem PastInstruction.ofJson_toJson (i : PastInstruction) :
    ofJson i.toJson = if i.isBrief then .ok i else .error (Bytes.longFault i.data) := by
  have hdata := Bytes.ofBase58Json_encode i.data
  refine read_record (by simp) fun ms hms => ?_
  simp [Json.required, Json.optional, hms, List.lookup_cons, asList_texts, hdata, isBrief]
  split <;> rfl

theorem PastInstruction.isPlain_toJson (i : PastInstruction) : i.toJson.isPlain = true := by
  have haccounts := isPlain_list (fun a : Address => Json.isPlain_str a.text) i.accounts
  simp [toJson, isPlain_record, haccounts]

namespace InnerInstruction

variable (i : InnerInstruction)

theorem isSound_toJson (levels : Nat) : i.toJson.isSound (levels + 1) = true := by
  cases i <;> simp [toJson, Json.isSound_record]

/-- A sound object is read by its type. -/
theorem ofJson_record {levels : Nat} {members : List (String × Json)} {type : String}
    (hsound : (Json.record members).isSound levels = true)
    (hdistinct : (members.map (·.1)).Nodup) (htype : members.lookup "type" = some (.str type)) :
    ofJson levels (.record members) = ofFields type (.record members) := by
  simp only [ofJson, hsound]
  refine read_record hdistinct fun ms hms => ?_
  rw [Json.required_of_lookup ((hms "type" (by simp)).trans htype)]
  rfl

/-- An inner instruction is read back, of whichever type it is: the reader of its fields passes over
the type. -/
theorem ofJson_toJson (levels : Nat) : ofJson (levels + 1) i.toJson = .ok i := by
  have hsound := i.isSound_toJson levels
  cases i with
  | transfer source destination amount =>
      refine (ofJson_record hsound (by simp) rfl).trans ?_
      rw [ofFields, if_pos rfl]
      refine read_record (by simp) fun ms hms => ?_
      simp [Json.required, hms, List.lookup_cons, asU64_int]
      rfl
  | other program =>
      refine (ofJson_record hsound (by simp) rfl).trans ?_
      rw [ofFields, if_neg (by decide), if_pos rfl]
      refine read_record (by simp) fun ms hms => ?_
      simp [Json.required, hms, List.lookup_cons]

theorem isPlain_toJson : i.toJson.isPlain = true := by
  cases i <;> simp [toJson, isPlain_record, isPlain_ofUInt64]

end InnerInstruction

theorem InnerGroup.ofJson_toJson (levels : Nat) (g : InnerGroup) :
    ofJson (levels + 3) g.toJson = .ok g := by
  have hinstructions := asList_map fun i (_ : i ∈ g.instructions) => i.ofJson_toJson levels
  refine read_record (by simp) fun ms hms => ?_
  simp [Json.required, hms, List.lookup_cons, asIndex_int, hinstructions]
  rfl

theorem InnerGroup.isPlain_toJson (g : InnerGroup) : g.toJson.isPlain = true := by
  have hinstructions := isPlain_list InnerInstruction.isPlain_toJson g.instructions
  simp [toJson, isPlain_record, isPlain_ofUInt64, hinstructions]

/-! ### Transactions -/

namespace PastTransaction

variable (tx : PastTransaction)

theorem asList_instructions :
    asList PastInstruction.ofJson (.array (tx.instructions.map PastInstruction.toJson))
      = (tx.firstLong?).elim (.ok tx.instructions) (fun i => .error (Bytes.longFault i.data)) :=
  mapM_map_eq_find? PastInstruction.ofJson_toJson tx.instructions

/-- What becomes of a transaction depends on the first instruction of which the data are too long. -/
theorem ofJson_toJson (levels : Nat) :
    ofJson (levels + 5) tx.toJson
      = (tx.firstLong?).elim (.ok tx) (fun i => .error (Bytes.longFault i.data)) := by
  have hinstructions := tx.asList_instructions
  have hinner := asList_map fun g (_ : g ∈ tx.inner) => g.ofJson_toJson levels
  refine read_record (by simp) fun ms hms => ?_
  simp [Json.required, Json.optional, hms, List.lookup_cons, asI64_timeToJson, hinstructions,
    hinner]
  cases tx.firstLong? <;> rfl

theorem isPlain_toJson : tx.toJson.isPlain = true := by
  have hinstructions := isPlain_list PastInstruction.isPlain_toJson tx.instructions
  have hinner := isPlain_list InnerGroup.isPlain_toJson tx.inner
  simp [toJson, isPlain_record, isPlain_timeToJson, hinstructions, hinner]

/-- A transaction is read back just where its data are brief. -/
theorem ofText?_of_mem_forms {text : String} (h : text ∈ tx.toJson.forms) :
    ofText? text = if tx.isBrief then some tx else none := by
  rw [ofText?, Json.ofText?_forms tx.isPlain_toJson text h, Option.bind_eq_bind, Option.bind_some,
    maxLevels, tx.ofJson_toJson 122]
  cases hlong : tx.firstLong? with
  | none =>
      rw [if_pos (firstLong?_eq_none_iff.1 hlong)]
      rfl
  | some i =>
      rw [if_neg (not_isBrief_of_firstLong? hlong)]
      rfl

/-- **Past transactions are read back from their texts, and with the same events**, if no data have
more than 132 bytes. -/
theorem text_round_trip {text : String} (htext : text ∈ tx.toJson.forms)
    (hbrief : ∀ i ∈ tx.instructions, i.data.length ≤ 132) :
    ofText? text = some tx ∧
    ∀ program, (ofText? text).map (·.events program) = some (tx.events program) := by
  have hall : tx.isBrief = true := List.all_eq_true.2 fun i hi => decide_eq_true (hbrief i hi)
  have hread : ofText? text = some tx := (tx.ofText?_of_mem_forms htext).trans (if_pos hall)
  exact ⟨hread, fun program => by rw [hread, Option.map_some]⟩

/-- A transaction with a signature of many sorts of letters, with leading zeros and as many bytes
after them as there is room for, and with inner instructions of both types. -/
def variedTransaction : PastTransaction :=
  { signature := "\x00\n\"\\\x7fé😀"
    blockTime := some .minValue
    instructions :=
      [⟨.tokenProgram, [.zero, .tokenProgram], [0, 0] ++ List.replicate 130 255⟩, ⟨.zero, [], []⟩]
    inner :=
      [⟨18446744073709551615,
          [.transfer .zero .tokenProgram 18446744073709551615, .other .zero]⟩, ⟨0, []⟩] }

theorem text_round_trip_varied :
    (∀ i ∈ variedTransaction.instructions, i.data.length ≤ 132) ∧
    ofText? variedTransaction.toJson.compact = some variedTransaction ∧
    ofText? variedTransaction.toJson.spread = some variedTransaction := by
  have hbrief : ∀ i ∈ variedTransaction.instructions, i.data.length ≤ 132 := by decide +kernel
  exact ⟨hbrief, (text_round_trip _ (Json.compact_mem_forms _) hbrief).1,
    (text_round_trip _ (Json.spread_mem_forms _) hbrief).1⟩

end PastTransaction

end AssetMarket
