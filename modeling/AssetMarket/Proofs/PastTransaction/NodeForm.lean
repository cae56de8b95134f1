/-
**How a node shows a transaction.**

A node shows a transaction as a JSON object: the signature, the time, the instructions in the raw
form, and under the outcome the inner instructions in groups, where moves of coins are shown in a
form of their own and all others raw.  Where the members stand, and what else the object has, makes
no difference; so a form says which members are there and what they are, and not what the text is.

Main definitions:

* `RawForm`, `TransferForm`, `InnerForm`, `GroupForm` — the forms of its parts;
* `PastTransaction.Form` — the form in which a node shows a transaction;
* `PastTransaction.toNodeJson` — a value in this form.

Main results:

* `PastTransaction.Form.lastOfEach` — it does not matter that of each name the last member is kept;
* `PastTransaction.form_toNodeJson` — every transaction can be shown;
* `PastTransaction.isPlain_toNodeJson`, `PastTransaction.isSound_toNodeJson` — and what is shown can
  be written and is not nested too deep.
-/

import AssetMarket.Proofs.Json.Shape

set_option relaxedAutoImplicit false
set_option autoImplicit false

namespace AssetMarket

open Json (isPlain_list isPlain_record isPlain_str isSound_list isSound_record isSound_str)

/-! ### What a node shows -/

section

variable (j : Json)

/-- An instruction in the raw form. -/
structure RawForm (program : Address) (accounts : List Address) (data : Bytes) : Prop where
  record : j.IsRecord
  program : j.member? "programId" = some (.str program.text)
  accounts : j.member? "accounts" = some (.array (accounts.map fun a => .str a.text))
  data : j.member? "data" = some (.str (Base58.encode data))
  notShown : j.member? "parsed" = none

/-- A move of coins in the form of the node. -/
structure TransferForm (source destination : Address) (amount : UInt64) : Prop where
  record : j.IsRecord
  program : j.member? "programId" = some (.str Address.systemProgram.text)
  family : j.member? "program" = some (.str "system")
  content : ∃ content info, j.member? "parsed" = some content ∧ content.IsRecord ∧
    content.member? "type" = some (.str "transfer") ∧ content.member? "info" = some info ∧
    info.IsRecord ∧ info.member? "source" = some (.str source.text) ∧
    info.member? "destination" = some (.str destination.text) ∧
    info.member? "lamports" = some (.int amount.toNat)

/-- An inner instruction.  Of one that is no move of coins only the program is kept. -/
inductive InnerForm : InnerInstruction → Prop
  | transfer {source destination : Address} {amount : UInt64}
      (h : TransferForm j source destination amount) :
      InnerForm (.transfer source destination amount)
  | other {program : Address} {accounts : List Address} {data : Bytes}
      (h : RawForm j program accounts data) : InnerForm (.other program)

/-- A group of inner instructions. -/
structure GroupForm (g : InnerGroup) : Prop where
  record : j.IsRecord
  index : j.member? "index" = some (.int g.index.toNat)
  instructions : ∃ items, j.member? "instructions" = some (.array items) ∧
    List.Forall₂ InnerForm items g.instructions

/-- A transaction. -/
structure PastTransaction.Form (tx : PastTransaction) : Prop where
  record : j.IsRecord
  blockTime : j.member? "blockTime" = some (timeToJson tx.blockTime)
  body : ∃ body message items, j.member? "transaction" = some body ∧ body.IsRecord ∧
    body.member? "signatures" = some (.array [.str tx.signature]) ∧
    body.member? "message" = some message ∧ message.IsRecord ∧
    message.member? "instructions" = some (.array items) ∧
    List.Forall₂ (fun j i => RawForm j i.program i.accounts i.data) items tx.instructions
  outcome : ∃ outcome items, j.member? "meta" = some outcome ∧ outcome.IsRecord ∧
    outcome.member? "err" = some .null ∧
    outcome.member? "innerInstructions" = some (.array items) ∧
    List.Forall₂ GroupForm items tx.inner

end

/-! ### The last member of each name -/

section

variable {j : Json} {program : Address} {accounts : List Address} {data : Bytes}

theorem Json.lastOfEach_strs (texts : List String) :
    (Json.array (texts.map .str)).lastOfEach = .array (texts.map .str) := by
  rw [Json.lastOfEach, Json.lastOfEachItem_eq, List.map_map]
  rfl

theorem RawForm.lastOfEach (h : RawForm j program accounts data) :
    RawForm j.lastOfEach program accounts data where
  record := h.record.lastOfEach
  program := h.record.lastOfEach_of_member? h.program
  accounts := by
    have hmap : accounts.map (fun a => Json.str a.text)
        = (accounts.map (·.text)).map Json.str := by rw [List.map_map]; rfl
    rw [h.record.lastOfEach_of_member? h.accounts, hmap, Json.lastOfEach_strs]
  data := h.record.lastOfEach_of_member? h.data
  notShown := by rw [h.record.member?_lastOfEach, h.notShown, Option.map_none]

theorem TransferForm.lastOfEach {source destination : Address} {amount : UInt64}
    (h : TransferForm j source destination amount) :
    TransferForm j.lastOfEach source destination amount where
  record := h.record.lastOfEach
  program := h.record.lastOfEach_of_member? h.program
  family := h.record.lastOfEach_of_member? h.family
  content := by
    obtain ⟨content, info, hcontent, hrecord, htype, hinfo, hinner, hsource, hdestination,
      hamount⟩ := h.content
    refine ⟨content.lastOfEach, info.lastOfEach, ?_, hrecord.lastOfEach, ?_, ?_,
      hinner.lastOfEach, ?_, ?_, ?_⟩
    · exact h.record.lastOfEach_of_member? hcontent
    · exact hrecord.lastOfEach_of_member? htype
    · exact hrecord.lastOfEach_of_member? hinfo
    · exact hinner.lastOfEach_of_member? hsource
    · exact hinner.lastOfEach_of_member? hdestination
    · exact hinner.lastOfEach_of_member? hamount

theorem InnerForm.lastOfEach {i : InnerInstruction} (h : InnerForm j i) :
    InnerForm j.lastOfEach i := by
  cases h with
  | transfer h => exact .transfer h.lastOfEach
  | other h => exact .other h.lastOfEach

theorem forall₂_lastOfEach {α : Type} {r : Json → α → Prop} {items : List Json} {as : List α}
    (hr : ∀ j a, r j a → r j.lastOfEach a) (h : List.Forall₂ r items as) :
    List.Forall₂ r (Json.lastOfEachItem items) as := by
  rw [Json.lastOfEachItem_eq, List.forall₂_map_left_iff]
  exact h.imp hr

theorem GroupForm.lastOfEach {g : InnerGroup} (h : GroupForm j g) : GroupForm j.lastOfEach g where
  record := h.record.lastOfEach
  index := h.record.lastOfEach_of_member? h.index
  instructions := by
    obtain ⟨items, hitems, hforms⟩ := h.instructions
    refine ⟨Json.lastOfEachItem items, ?_,
      forall₂_lastOfEach (fun _ _ h => h.lastOfEach) hforms⟩
    exact h.record.lastOfEach_of_member? hitems

theorem PastTransaction.Form.lastOfEach {tx : PastTransaction} (h : Form j tx) :
    Form j.lastOfEach tx where
  record := h.record.lastOfEach
  blockTime := by
    rw [h.record.lastOfEach_of_member? h.blockTime]
    cases tx.blockTime <;> rfl
  body := by
    obtain ⟨body, message, items, hbody, hrecord, hsignatures, hmessage, hinner, hitems, hforms⟩ :=
      h.body
    refine ⟨body.lastOfEach, message.lastOfEach, Json.lastOfEachItem items, ?_, hrecord.lastOfEach,
      ?_, ?_, hinner.lastOfEach, ?_, forall₂_lastOfEach (fun _ _ h => h.lastOfEach) hforms⟩
    · exact h.record.lastOfEach_of_member? hbody
    · exact hrecord.lastOfEach_of_member? hsignatures
    · exact hrecord.lastOfEach_of_member? hmessage
    · exact hinner.lastOfEach_of_member? hitems
  outcome := by
    obtain ⟨outcome, items, houtcome, hrecord, herror, hitems, hforms⟩ := h.outcome
    refine ⟨outcome.lastOfEach, Json.lastOfEachItem items, ?_, hrecord.lastOfEach, ?_, ?_,
      forall₂_lastOfEach (fun _ _ h => h.lastOfEach) hforms⟩
    · exact h.record.lastOfEach_of_member? houtcome
    · exact hrecord.lastOfEach_of_member? herror
    · exact hrecord.lastOfEach_of_member? hitems

end

/-! ### Values in this form -/

/-- An instruction in the raw form. -/
def PastInstruction.toNodeJson (i : PastInstruction) : Json :=
  .record
    [("programId", .str i.program.text), ("accounts", .array (i.accounts.map fun a => .str a.text)),
     ("data", .str (Base58.encode i.data))]

/-- An inner instruction.  One that is no move of coins is shown without accounts and data. -/
def InnerInstruction.toNodeJson : InnerInstruction → Json
  | .transfer source destination amount =>
      .record
        [("programId", .str Address.systemProgram.text), ("program", .str "system"),
         ("parsed", .record
           [("type", .str "transfer"),
            ("info", .record
              [("source", .str source.text), ("destination", .str destination.text),
               ("lamports", .int amount.toNat)])])]
  | .other program => PastInstruction.toNodeJson ⟨program, [], []⟩

/-- A group of inner instructions. -/
def InnerGroup.toNodeJson (g : InnerGroup) : Json :=
  .record
    [("index", .int g.index.toNat),
     ("instructions", .array (g.instructions.map InnerInstruction.toNodeJson))]

/-- A transaction. -/
def PastTransaction.toNodeJson (tx : PastTransaction) : Json :=
  .record
    [("blockTime", timeToJson tx.blockTime),
     ("transaction", .record
       [("signatures", .array [.str tx.signature]),
        ("message", .record
          [("instructions", .array (tx.instructions.map PastInstruction.toNodeJson))])]),
     ("meta", .record
       [("err", .null), ("innerInstructions", .array (tx.inner.map InnerGroup.toNodeJson))])]

theorem PastInstruction.form_toNodeJson (i : PastInstruction) :
    RawForm i.toNodeJson i.program i.accounts i.data where
  record := Json.isRecord_record (by simp)
  program := rfl
  accounts := rfl
  data := rfl
  notShown := rfl

theorem InnerInstruction.form_toNodeJson (i : InnerInstruction) : InnerForm i.toNodeJson i := by
  cases i with
  | transfer source destination amount =>
      refine .transfer ⟨Json.isRecord_record (by simp), rfl, rfl, _, _, rfl,
        Json.isRecord_record (by simp), rfl, rfl, Json.isRecord_record (by simp), rfl, rfl, rfl⟩
  | other program => exact .other (PastInstruction.form_toNodeJson ⟨program, [], []⟩)

theorem forall₂_form {α : Type} {r : Json → α → Prop} {f : α → Json} (h : ∀ a, r (f a) a)
    (as : List α) : List.Forall₂ r (as.map f) as := by
  rw [List.forall₂_map_left_iff, List.forall₂_same]
  exact fun a _ => h a

theorem InnerGroup.form_toNodeJson (g : InnerGroup) : GroupForm g.toNodeJson g where
  record := Json.isRecord_record (by simp)
  index := rfl
  instructions := ⟨_, rfl, forall₂_form InnerInstruction.form_toNodeJson g.instructions⟩

namespace PastTransaction

theorem form_toNodeJson (tx : PastTransaction) : Form tx.toNodeJson tx where
  record := Json.isRecord_record (by simp)
  blockTime := rfl
  body := ⟨_, _, _, rfl, Json.isRecord_record (by simp), rfl, rfl, Json.isRecord_record (by simp),
    rfl, forall₂_form PastInstruction.form_toNodeJson tx.instructions⟩
  outcome := ⟨_, _, rfl, Json.isRecord_record (by simp), rfl, rfl,
    forall₂_form InnerGroup.form_toNodeJson tx.inner⟩

end PastTransaction

/-! ### Texts of these values -/

theorem isPlain_timeToJson (t : Option Int64) :
    (PastTransaction.timeToJson t).isPlain = true := by
  cases t with
  | none => rfl
  | some t =>
      have hlow := t.le_toInt
      have hhigh := t.toInt_lt
      simp only [PastTransaction.timeToJson, Json.isPlain, Bool.and_eq_true, decide_eq_true_eq]
      omega

theorem PastInstruction.isPlain_toNodeJson (i : PastInstruction) :
    i.toNodeJson.isPlain = true := by
  have haccounts := isPlain_list (fun a : Address => isPlain_str a.text) i.accounts
  simp [toNodeJson, isPlain_record, haccounts]

theorem PastInstruction.isSound_toNodeJson (levels : Nat) (i : PastInstruction) :
    i.toNodeJson.isSound (levels + 2) = true := by
  have haccounts := isSound_list (fun a : Address => isSound_str levels a.text) i.accounts
  simp [toNodeJson, isSound_record, haccounts]

theorem InnerInstruction.isPlain_toNodeJson (i : InnerInstruction) :
    i.toNodeJson.isPlain = true := by
  cases i with
  | transfer source destination amount =>
      simp [toNodeJson, isPlain_record, isPlain_ofUInt64]
  | other program => exact PastInstruction.isPlain_toNodeJson ⟨program, [], []⟩

theorem InnerInstruction.isSound_toNodeJson (levels : Nat) (i : InnerInstruction) :
    i.toNodeJson.isSound (levels + 3) = true := by
  cases i with
  | transfer source destination amount => simp [toNodeJson, isSound_record]
  | other program => exact PastInstruction.isSound_toNodeJson (levels + 1) ⟨program, [], []⟩

theorem InnerGroup.isPlain_toNodeJson (g : InnerGroup) : g.toNodeJson.isPlain = true := by
  have hinstructions := isPlain_list InnerInstruction.isPlain_toNodeJson g.instructions
  simp [toNodeJson, isPlain_record, isPlain_ofUInt64, hinstructions]

theorem InnerGroup.isSound_toNodeJson (levels : Nat) (g : InnerGroup) :
    g.toNodeJson.isSound (levels + 5) = true := by
  have hinstructions := isSound_list (InnerInstruction.isSound_toNodeJson levels) g.instructions
  simp [toNodeJson, isSound_record, hinstructions]

namespace PastTransaction

theorem isPlain_toNodeJson (tx : PastTransaction) : tx.toNodeJson.isPlain = true := by
  have hinstructions := arePlain_map PastInstruction.isPlain_toNodeJson tx.instructions
  have hinner := arePlain_map InnerGroup.isPlain_toNodeJson tx.inner
  simp [toNodeJson, isPlain_record, Json.isPlain, Json.arePlain, isPlain_timeToJson,
    hinstructions, hinner]

/-- No more than nine containers are inside one another. -/
theorem isSound_toNodeJson (levels : Nat) (tx : PastTransaction) :
    tx.toNodeJson.isSound (levels + 8) = true := by
  have htime : (timeToJson tx.blockTime).isSound (levels + 7) = true := by
    cases tx.blockTime <;> rfl
  have hinstructions := areSound_map (PastInstruction.isSound_toNodeJson (levels + 2))
    tx.instructions
  have hinner := areSound_map (InnerGroup.isSound_toNodeJson levels) tx.inner
  simp [toNodeJson, isSound_record, Json.isSound, Json.areSound, htime, hinstructions, hinner]

end PastTransaction

end AssetMarket
