/-
**Which transactions of a node are taken over.**

All that a node shows is read, whatever the transaction is, with one exception.  The data of an
instruction are written in base 58, and the reader of base 58 has room for 132 bytes.  A transaction
with an instruction of more than that is passed over as a whole, although it is well formed and
whatever program the instruction belongs to.  It is worse if the bytes after the leading zeros of the
first such instruction would find room by themselves: then the reader breaks down, and none of the
transactions of the report are taken over.

Main definitions:

* `PastTransaction.isBrief` — whether all data have at most 132 bytes;
* `PastTransaction.breaksReader` — whether the reader of base 58 breaks down on a transaction;
* `NodeReport.Answers` — what a report of some transactions is answered by.

Main results:

* `RawForm.ofJson`, `TransferForm.exists_ofJson` — the two forms of an instruction are told apart;
* `PastTransaction.Form.convert_eq` — what becomes of a transaction depends on its first data that
  are too long;
* `NodeReport.brief_transactions` — **of a report the transactions with brief data are taken over**,
  unless the reader breaks down.
-/

import AssetMarket.Proofs.Address.Text
import AssetMarket.Proofs.PastTransaction.NodeForm

set_option relaxedAutoImplicit false
set_option autoImplicit false

namespace AssetMarket

open Json (Shape required optional asText asU64 asIndex asI64 asList asOption
  required_of_lookup optional_of_lookup required_of_lookup_none)

/-! ### Plain parts -/

/-- Of two steps that are each taken for all items the outcome is that of both for each. -/
theorem exists_mapM_of_forall₂ {α β γ ε ε' : Type} {f : α → Except ε β} {g : β → Except ε' γ}
    {as : List α} {cs : List γ}
    (h : List.Forall₂ (fun a c => ∃ b, f a = .ok b ∧ g b = .ok c) as cs) :
    ∃ bs, as.mapM f = .ok bs ∧ bs.mapM g = .ok cs := by
  induction h with
  | nil => exact ⟨[], rfl, rfl⟩
  | cons ha _ ih =>
      obtain ⟨b, hf, hg⟩ := ha
      obtain ⟨bs, hfs, hgs⟩ := ih
      refine ⟨b :: bs, ?_, ?_⟩
      · rw [List.mapM_cons, hf, hfs]
        rfl
      · rw [List.mapM_cons, hg, hgs]
        rfl

theorem asList_strs (texts : List String) :
    asList asText (.array (texts.map .str)) = .ok texts := mapM_map_eq_ok fun _ _ => rfl

theorem mapM_ofText (accounts : List Address) :
    (accounts.map (·.text)).mapM Address.ofText = .ok accounts :=
  mapM_map_eq_ok fun a _ => Address.ofText_text a

theorem asI64_timeToJson (t : Option Int64) :
    asOption asI64 (PastTransaction.timeToJson t) = .ok t := by
  cases t with
  | none => rfl
  | some t =>
      have hin : -(2 ^ 63 : Nat) ≤ t.toInt ∧ t.toInt < (2 ^ 63 : Nat) :=
        ⟨t.le_toInt, t.toInt_lt⟩
      have hread : Json.asInteger "i64" (2 ^ 63) (.int t.toInt) = .ok t.toInt := by
        rw [Json.asInteger, if_pos hin]
      show (asI64 (.int t.toInt)).map some = .ok (some t)
      rw [asI64, hread]
      exact congrArg (Except.ok ∘ some) (Int64.ofInt_toInt t)

/-! ### Instructions -/

section

variable {j : Json} {program : Address} {accounts : List Address} {data : Bytes}

/-- Without a content there is no form of the node. -/
theorem RawForm.exists_shownOfJson_error (h : RawForm j program accounts data) :
    ∃ e, NodeInstruction.shownOfJson j = .error e := by
  obtain ⟨ms, hms, hlookup⟩ := h.record.fields "an instruction" ["programId", "program", "parsed"]
  have hparsed : required ms "parsed" (Except.ok : Json → Shape Json)
      = .error (ms.absent "parsed") :=
    required_of_lookup_none ((hlookup "parsed" (by decide)).trans h.notShown)
  cases hprogram : required ms "programId" asText with
  | error e => exact ⟨e, by simp [NodeInstruction.shownOfJson, hms, hprogram, bind, Except.bind]⟩
  | ok text =>
      cases hfamily : optional ms "program" none (asOption asText) with
      | error e =>
          exact ⟨e, by
            simp [NodeInstruction.shownOfJson, hms, hprogram, hfamily, bind, Except.bind]⟩
      | ok family =>
          exact ⟨_, by
            simp [NodeInstruction.shownOfJson, hms, hprogram, hfamily, hparsed, bind, Except.bind]
            rfl⟩

theorem RawForm.rawOfJson (h : RawForm j program accounts data) :
    NodeInstruction.rawOfJson j
      = .ok (.raw program.text (accounts.map (·.text)) (Base58.encode data)) := by
  obtain ⟨ms, hms, hlookup⟩ := h.record.fields "an instruction" ["programId", "accounts", "data"]
  have hprogram : required ms "programId" asText = .ok program.text :=
    required_of_lookup ((hlookup "programId" (by decide)).trans h.program)
  have haccounts : optional ms "accounts" [] (asList asText) = .ok (accounts.map (·.text)) := by
    rw [optional_of_lookup ((hlookup "accounts" (by decide)).trans h.accounts), ← asList_strs,
      List.map_map]
    rfl
  have hdata : optional ms "data" "" asText = .ok (Base58.encode data) :=
    optional_of_lookup ((hlookup "data" (by decide)).trans h.data)
  rw [NodeInstruction.rawOfJson, hms]
  simp only [bind, Except.bind, hprogram, haccounts, hdata]
  rfl

/-- The raw form is read as such. -/
theorem RawForm.ofJson (h : RawForm j program accounts data) :
    NodeInstruction.ofJson j
      = .ok (.raw program.text (accounts.map (·.text)) (Base58.encode data)) := by
  obtain ⟨e, hshown⟩ := h.exists_shownOfJson_error
  have hraw := h.rawOfJson
  obtain ⟨members, rfl, -⟩ := h.record
  simp only [NodeInstruction.ofJson, hshown, hraw]

end

namespace PastInstruction

variable (i : PastInstruction)

/-- An instruction as a node shows it in the raw form. -/
def toRaw : NodeInstruction :=
  .raw i.program.text (i.accounts.map (·.text)) (Base58.encode i.data)

/-- Whether the data have at most 132 bytes. -/
def isBrief : Bool := i.data.length ≤ Base58.room

/-- Whether the reader breaks down on data that are too long: they would not be without the zeros in
front. -/
def breaksReader : Bool := (Base58.significant i.data).length ≤ Base58.room

/-- The failure in which data end that are too long. -/
def failure : MarketError :=
  if i.breaksReader then .breakdown
  else NodeInstruction.badData Base58.Error.invalidLength.message

theorem isBreakdown_failure : i.failure.isBreakdown = i.breaksReader := by
  rw [failure]
  cases i.breaksReader with
  | true => rfl
  | false =>
      refine Bool.eq_false_iff.2 fun h => ?_
      obtain ⟨hkind, -⟩ := MarketError.undecodable.inj (MarketError.isBreakdown_iff.1 h)
      exact absurd hkind (by decide)

/-- An instruction in the raw form is taken over if its data are brief. -/
theorem toPast_toRaw : i.toRaw.toPast = if i.isBrief then .ok i else .error i.failure := by
  rw [toRaw, NodeInstruction.toPast, Address.ofText_text, mapM_ofText, Base58.decode_encode,
    failure]
  simp only [isBrief, breaksReader, decide_eq_true_eq]
  split
  · rfl
  · split <;> rfl

end PastInstruction

/-- A move of coins is read in the form of the node. -/
theorem TransferForm.exists_ofJson {j : Json} {source destination : Address} {amount : UInt64}
    (h : TransferForm j source destination amount) :
    ∃ content, NodeInstruction.ofJson j
        = .ok (.shown Address.systemProgram.text (some "system") content) ∧
      NodeInstruction.isTransfer content = true ∧
      NodeInstruction.toTransfer content = .ok (.transfer source destination amount) := by
  obtain ⟨content, info, hcontent, -, htype, hinfo, -, hsource, hdestination, hamount⟩ := h.content
  obtain ⟨ms, hms, hlookup⟩ := h.record.fields "an instruction" ["programId", "program", "parsed"]
  have hprogram : required ms "programId" asText = .ok Address.systemProgram.text :=
    required_of_lookup ((hlookup "programId" (by decide)).trans h.program)
  have hfamily : optional ms "program" none (asOption asText) = .ok (some "system") :=
    optional_of_lookup ((hlookup "program" (by decide)).trans h.family)
  have hparsed : required ms "parsed" (Except.ok : Json → Shape Json) = .ok content :=
    required_of_lookup ((hlookup "parsed" (by decide)).trans hcontent)
  have hshown : NodeInstruction.shownOfJson j
      = .ok (.shown Address.systemProgram.text (some "system") content) := by
    rw [NodeInstruction.shownOfJson, hms]
    simp only [bind, Except.bind, hprogram, hfamily, hparsed]
    rfl
  obtain ⟨members, rfl, -⟩ := h.record
  refine ⟨content, by simp only [NodeInstruction.ofJson, hshown], ?_, ?_⟩
  · rw [NodeInstruction.isTransfer, htype]
    rfl
  · have hlamports : NodeInstruction.transferField info "lamports" asU64 = .ok amount := by
      rw [NodeInstruction.transferField, hamount, Option.map_some, asU64_int]
    have hfrom : NodeInstruction.transferField info "source" asText = .ok source.text := by
      rw [NodeInstruction.transferField, hsource]
      rfl
    have hto : NodeInstruction.transferField info "destination" asText = .ok destination.text := by
      rw [NodeInstruction.transferField, hdestination]
      rfl
    rw [NodeInstruction.toTransfer, hinfo, Option.getD_some, hlamports, hfrom, hto]
    simp only [bind, Except.bind, Address.ofText_text]
    rfl

/-- An inner instruction is taken over, whatever its data are. -/
theorem InnerForm.exists_ofJson {j : Json} {i : InnerInstruction} (h : InnerForm j i) :
    ∃ n, NodeInstruction.ofJson j = .ok n ∧ n.toInner = .ok i := by
  cases h with
  | transfer h =>
      obtain ⟨content, hread, htransfer, hmove⟩ := h.exists_ofJson
      refine ⟨_, hread, ?_⟩
      rw [NodeInstruction.toInner, Address.ofText_text]
      simp only [bind, Except.bind, htransfer, and_self, if_true, hmove]
  | other h =>
      refine ⟨_, h.ofJson, ?_⟩
      rw [NodeInstruction.toInner, Address.ofText_text]
      rfl

/-! ### Transactions -/

theorem GroupForm.exists_ofJson {j : Json} {g : InnerGroup} (h : GroupForm j g) :
    ∃ n, NodeGroup.ofJson j = .ok n ∧ NodeTransaction.groupToPast n = .ok g := by
  obtain ⟨items, hitems, hforms⟩ := h.instructions
  obtain ⟨ns, hread, hinner⟩ := exists_mapM_of_forall₂ (hforms.imp fun _ _ h => h.exists_ofJson)
  obtain ⟨ms, hms, hexcess, hlookup⟩ := h.record.members "struct RpcInnerGroup"
    ["index", "instructions"]
  have hindex : required ms "index" asIndex = .ok g.index := by
    rw [required_of_lookup ((hlookup "index" (by decide)).trans h.index), asIndex_int]
  have hinstructions : required ms "instructions" (asList NodeInstruction.ofJson) = .ok ns := by
    rw [required_of_lookup ((hlookup "instructions" (by decide)).trans hitems)]
    exact hread
  refine ⟨⟨g.index, ns⟩, ?_, ?_⟩
  · rw [NodeGroup.ofJson, hms]
    simp only [bind, Except.bind, hindex, hinstructions]
    rw [Json.Members.settle_eq_ok (by simp [Shape.fault?]) hexcess]
    rfl
  · rw [NodeTransaction.groupToPast, hinner]
    rfl

theorem asList_rawForm {items : List Json} {is : List PastInstruction}
    (h : List.Forall₂ (fun j i => RawForm j i.program i.accounts i.data) items is) :
    asList NodeInstruction.ofJson (.array items) = .ok (is.map PastInstruction.toRaw) := by
  refine mapM_eq_ok_of_forall₂ ?_
  rw [List.forall₂_map_right_iff]
  exact h.imp fun _ _ h => h.ofJson

namespace PastTransaction

variable {j : Json} {tx : PastTransaction}

theorem Form.exists_bodyOfJson (h : Form j tx) :
    ∃ body, j.member? "transaction" = some body ∧
      NodeTransaction.bodyOfJson body
        = .ok ([tx.signature], tx.instructions.map PastInstruction.toRaw) := by
  obtain ⟨body, message, items, hbody, hrecord, hsignatures, hmessage, hinner, hitems, hforms⟩ :=
    h.body
  obtain ⟨ms, hms, hexcess, hlookup⟩ := hinner.members "struct RpcMessage" ["instructions"]
  have hinstructions : required ms "instructions" (asList NodeInstruction.ofJson)
      = .ok (tx.instructions.map PastInstruction.toRaw) := by
    rw [required_of_lookup ((hlookup "instructions" (by decide)).trans hitems)]
    exact asList_rawForm hforms
  have hread : NodeTransaction.messageOfJson message
      = .ok (tx.instructions.map PastInstruction.toRaw) := by
    rw [NodeTransaction.messageOfJson, hms]
    simp only [bind, Except.bind, hinstructions]
    rw [Json.Members.settle_eq_ok (by simp [Shape.fault?]) hexcess]
  obtain ⟨list, hlist, hsurplus, hfind⟩ := hrecord.members "struct RpcTransactionBody"
    ["signatures", "message"]
  have hfirst : required list "signatures" (asList asText) = .ok [tx.signature] := by
    rw [required_of_lookup ((hfind "signatures" (by decide)).trans hsignatures)]
    exact asList_strs [tx.signature]
  have hsecond : required list "message" NodeTransaction.messageOfJson
      = .ok (tx.instructions.map PastInstruction.toRaw) := by
    rw [required_of_lookup ((hfind "message" (by decide)).trans hmessage), hread]
  refine ⟨body, hbody, ?_⟩
  rw [NodeTransaction.bodyOfJson, hlist]
  simp only [bind, Except.bind, hfirst, hsecond]
  rw [Json.Members.settle_eq_ok (by simp [Shape.fault?]) hsurplus]
  rfl

theorem Form.exists_outcomeOfJson (h : Form j tx) :
    ∃ outcome groups, j.member? "meta" = some outcome ∧ outcome ≠ .null ∧
      NodeOutcome.ofJson outcome = .ok ⟨false, groups⟩ ∧
      groups.mapM NodeTransaction.groupToPast = .ok tx.inner := by
  obtain ⟨outcome, items, houtcome, hrecord, herror, hitems, hforms⟩ := h.outcome
  obtain ⟨groups, hread, hinner⟩ := exists_mapM_of_forall₂ (hforms.imp fun _ _ h => h.exists_ofJson)
  obtain ⟨ms, hms, hexcess, hlookup⟩ := hrecord.members "struct RpcMeta" ["err", "innerInstructions"]
  have hfirst : optional ms "err" none (asOption (Except.ok : Json → Shape Json)) = .ok none :=
    optional_of_lookup ((hlookup "err" (by decide)).trans herror)
  have hsecond : optional ms "innerInstructions" none (asOption (asList NodeGroup.ofJson))
      = .ok (some groups) := by
    rw [optional_of_lookup ((hlookup "innerInstructions" (by decide)).trans hitems)]
    show (items.mapM NodeGroup.ofJson).map some = _
    rw [hread]
    rfl
  refine ⟨outcome, groups, houtcome, ?_, ?_, hinner⟩
  · obtain ⟨members, rfl, -⟩ := hrecord
    nofun
  · rw [NodeOutcome.ofJson, hms]
    simp only [bind, Except.bind, hfirst, hsecond]
    rw [Json.Members.settle_eq_ok (by simp [Shape.fault?]) hexcess]
    rfl

/-- A transaction in the form of a node is read, whatever its data are. -/
theorem Form.exists_ofJson (h : Form j tx) :
    ∃ groups, NodeTransaction.ofJson j
        = .ok ⟨tx.blockTime, [tx.signature], tx.instructions.map PastInstruction.toRaw,
            ⟨false, groups⟩⟩ ∧
      groups.mapM NodeTransaction.groupToPast = .ok tx.inner := by
  obtain ⟨body, hbody, hreadBody⟩ := h.exists_bodyOfJson
  obtain ⟨outcome, groups, houtcome, hnull, hreadOutcome, hinner⟩ := h.exists_outcomeOfJson
  obtain ⟨ms, hms, hexcess, hlookup⟩ := h.record.members "struct RpcTransaction"
    ["blockTime", "transaction", "meta"]
  have hfirst : optional ms "blockTime" none (asOption asI64) = .ok tx.blockTime := by
    rw [optional_of_lookup ((hlookup "blockTime" (by decide)).trans h.blockTime),
      asI64_timeToJson]
  have hsecond : required ms "transaction" NodeTransaction.bodyOfJson
      = .ok ([tx.signature], tx.instructions.map PastInstruction.toRaw) := by
    rw [required_of_lookup ((hlookup "transaction" (by decide)).trans hbody), hreadBody]
  have hthird : optional ms "meta" none (asOption NodeOutcome.ofJson)
      = .ok (some ⟨false, groups⟩) := by
    rw [optional_of_lookup ((hlookup "meta" (by decide)).trans houtcome)]
    cases outcome with
    | null => exact absurd rfl hnull
    | _ => exact congrArg (Except.map some) hreadOutcome
  refine ⟨groups, ?_, hinner⟩
  rw [NodeTransaction.ofJson, hms]
  simp only [bind, Except.bind, hfirst, hsecond, hthird]
  rw [Json.Members.settle_eq_ok (by simp [Shape.fault?]) hexcess]
  rfl

variable (tx) in
/-- Whether all data of a transaction have at most 132 bytes. -/
def isBrief : Bool := tx.instructions.all (·.isBrief)

variable (tx) in
/-- The first instruction of which the data are too long. -/
def firstLong? : Option PastInstruction := tx.instructions.find? (!·.isBrief)

variable (tx) in
/-- Whether the reader breaks down on a transaction.  It does not come to the instructions after the
first one of which the data are too long. -/
def breaksReader : Bool := tx.firstLong?.any (·.breaksReader)

theorem firstLong?_eq_none_iff : tx.firstLong? = none ↔ tx.isBrief = true := by
  simp [firstLong?, isBrief]

theorem not_isBrief_of_firstLong? {i : PastInstruction} (h : tx.firstLong? = some i) :
    ¬ tx.isBrief = true := by
  rw [← firstLong?_eq_none_iff, h]
  nofun

/-- What becomes of a transaction depends on the first instruction of which the data are too long. -/
theorem Form.convert_eq (h : Form j tx) :
    NodeReport.convert j = (tx.firstLong?).elim (.ok (some tx)) (fun i => .error i.failure) := by
  obtain ⟨groups, hread, hinner⟩ := h.exists_ofJson
  have hconvert : NodeReport.convert j
      = NodeTransaction.toPast ⟨tx.blockTime, [tx.signature],
          tx.instructions.map PastInstruction.toRaw, ⟨false, groups⟩⟩ := by
    rw [NodeReport.convert, hread]
    rfl
  have hinstructions := mapM_map_eq_find? PastInstruction.toPast_toRaw tx.instructions
  rw [hconvert, NodeTransaction.toPast]
  rw [← firstLong?] at hinstructions
  cases hlong : tx.firstLong? with
  | none =>
      rw [hlong] at hinstructions
      simp only [bind, Except.bind, NodeTransaction.signature, hinstructions, hinner]
      rfl
  | some i =>
      rw [hlong] at hinstructions
      simp only [bind, Except.bind, NodeTransaction.signature, hinstructions]
      rfl

/-- A transaction is taken over if its data are brief, and otherwise it is passed over as a whole. -/
theorem Form.transaction?_eq (h : Form j tx) :
    NodeReport.transaction? j = if tx.isBrief then some tx else none := by
  rw [NodeReport.transaction?, h.convert_eq]
  cases hlong : tx.firstLong? with
  | none =>
      rw [if_pos (firstLong?_eq_none_iff.1 hlong)]
      rfl
  | some i =>
      rw [if_neg (not_isBrief_of_firstLong? hlong)]
      rfl

theorem Form.breaksDown_eq (h : Form j tx) : NodeReport.breaksDown j = tx.breaksReader := by
  rw [NodeReport.breaksDown, h.convert_eq, breaksReader]
  cases tx.firstLong? with
  | none => rfl
  | some i => exact i.isBreakdown_failure

end PastTransaction

/-! ### Reports -/

namespace NodeReport

open PastTransaction (Form)

theorem ofText_of_sound {text : String} {j : Json} (hread : Json.ofText? text = some j)
    (hsound : j.isSound PastTransaction.maxLevels = true) :
    ofText text = ofJson j.lastOfEach := by
  refine ofText_of_value? ?_
  rw [value?, hread]
  simp [hsound]

/-- Of the items of a report those with brief data are taken over. -/
theorem filterMap_transaction? {js : List Json} {txs : List PastTransaction}
    (hforms : List.Forall₂ Form js txs) :
    js.filterMap transaction? = txs.filter (·.isBrief) := by
  induction hforms with
  | nil => rfl
  | @cons j tx js txs hform _ ih =>
      rw [List.filterMap_cons, hform.transaction?_eq, ih, List.filter_cons]
      by_cases hbrief : tx.isBrief = true
      · rw [if_pos hbrief, if_pos hbrief]
      · rw [if_neg hbrief, if_neg hbrief]

theorem any_breaksDown {js : List Json} {txs : List PastTransaction}
    (hforms : List.Forall₂ Form js txs) :
    js.any breaksDown = txs.any (·.breaksReader) := by
  induction hforms with
  | nil => rfl
  | cons hform _ ih => rw [List.any_cons, List.any_cons, hform.breaksDown_eq, ih]

/-- What a report of some transactions is answered by. -/
structure Answers (txs : List PastTransaction) (answer : Except MarketError NodeReport) : Prop where
  /-- The transactions with brief data are taken over, in order and unchanged. -/
  taken : (∀ tx ∈ txs, tx.breaksReader = false) →
    ∃ r, answer = .ok r ∧ r.transactions = txs.filter (·.isBrief)
  /-- If the reader breaks down on one of them, there is no answer. -/
  broken : (∃ tx ∈ txs, tx.breaksReader = true) → answer = .error .breakdown

theorem answers_ofJson {j : Json} {txs : List PastTransaction}
    (hforms : List.Forall₂ Form (items j) txs) : Answers txs (ofJson j) := by
  have hany := any_breaksDown hforms
  constructor
  · intro hends
    rw [List.any_eq_false.2 fun tx htx => Bool.eq_false_iff.1 (hends tx htx)] at hany
    exact ⟨_, if_neg (Bool.eq_false_iff.1 hany), filterMap_transaction? hforms⟩
  · intro hbreaks
    rw [List.any_eq_true.2 hbreaks] at hany
    exact if_pos hany

/-- What is made of one record. -/
theorem answers_record {text : String} {j : Json} {tx : PastTransaction}
    (hread : Json.ofText? text = some j)
    (hsound : j.isSound PastTransaction.maxLevels = true) (hform : Form j tx) :
    Answers [tx] (ofText text) := by
  rw [ofText_of_sound hread hsound]
  have hlast := hform.lastOfEach
  -- a record is no array, so it is the only item
  have hitems : items j.lastOfEach = [j.lastOfEach] := by
    obtain ⟨members, heq, -⟩ := hlast.record
    rw [heq]
    rfl
  refine answers_ofJson ?_
  rw [hitems]
  exact .cons hlast .nil

/-- What is made of a list. -/
theorem answers_records {text : String} {js : List Json} {txs : List PastTransaction}
    (hread : Json.ofText? text = some (.array js))
    (hsound : (Json.array js).isSound PastTransaction.maxLevels = true)
    (hforms : List.Forall₂ Form js txs) : Answers txs (ofText text) := by
  rw [ofText_of_sound hread hsound]
  exact answers_ofJson (forall₂_lastOfEach (fun _ _ h => h.lastOfEach) hforms)

/-- All transactions can be shown, and the text of what is shown reads back. -/
theorem exists_shown (txs : List PastTransaction) :
    ∃ js, List.Forall₂ Form js txs ∧
      (∀ j ∈ js, j.isSound PastTransaction.maxLevels = true ∧
        Json.ofText? j.compact = some j) ∧
      (Json.array js).isSound PastTransaction.maxLevels = true ∧
      Json.ofText? (Json.array js).compact = some (.array js) := by
  refine ⟨txs.map PastTransaction.toNodeJson, forall₂_form PastTransaction.form_toNodeJson txs,
    ?_, ?_, ?_⟩
  · intro j hj
    obtain ⟨tx, -, rfl⟩ := List.mem_map.1 hj
    exact ⟨tx.isSound_toNodeJson 119, Json.ofText?_compact tx.isPlain_toNodeJson⟩
  · exact areSound_map (PastTransaction.isSound_toNodeJson 118) txs
  · exact Json.ofText?_compact (arePlain_map PastTransaction.isPlain_toNodeJson txs)

/-- **Of a report the transactions with brief data are taken over**, in order and unchanged, and no
others, whether one is shown alone or many are shown in a list; but if the reader breaks down on one
of them, there is no answer.  All transactions can be shown, and the text of what is shown reads back
as such a value. -/
theorem brief_transactions (tx : PastTransaction) (txs : List PastTransaction) :
    (∀ (text : String) (j : Json), Json.ofText? text = some j →
      j.isSound PastTransaction.maxLevels = true → Form j tx → Answers [tx] (ofText text)) ∧
    (∀ (text : String) (js : List Json), Json.ofText? text = some (.array js) →
      (Json.array js).isSound PastTransaction.maxLevels = true → List.Forall₂ Form js txs →
      Answers txs (ofText text)) ∧
    ∃ js, List.Forall₂ Form js txs ∧
      (∀ j ∈ js, j.isSound PastTransaction.maxLevels = true ∧
        Json.ofText? j.compact = some j) ∧
      (Json.array js).isSound PastTransaction.maxLevels = true ∧
      Json.ofText? (Json.array js).compact = some (.array js) :=
  ⟨fun _ _ hread hsound hform => answers_record hread hsound hform,
    fun _ _ hread hsound hforms => answers_records hread hsound hforms, exists_shown txs⟩

/-- A transaction of one instruction with these data. -/
def singleTransaction (signature : String) (data : Bytes) : PastTransaction :=
  ⟨signature, none, [⟨Address.tokenProgram, [], data⟩], []⟩

/-- A transaction with 133 bytes that are not zero. -/
def longTransaction : PastTransaction := singleTransaction "long" (List.replicate 133 255)

theorem isBrief_longTransaction : longTransaction.isBrief = false := by decide +kernel

/-- Of a list of two transactions the one with 133 bytes is passed over.  If the bytes are zeros, the
other one is lost with it. -/
theorem brief_transactions_two :
    (∃ text js r, Json.ofText? text = some (.array js) ∧
      List.Forall₂ Form js [longTransaction, ⟨"short", some 5, [], []⟩] ∧
      ofText text = .ok r ∧ r.transactions = [⟨"short", some 5, [], []⟩]) ∧
    ∃ text js, Json.ofText? text = some (.array js) ∧
      List.Forall₂ Form js
        [⟨"short", some 5, [], []⟩, singleTransaction "zeros" (List.replicate 133 0)] ∧
      ofText text = .error .breakdown := by
  constructor
  · obtain ⟨-, htaken, js, hforms, -, hsound, hread⟩ :=
      brief_transactions longTransaction [longTransaction, ⟨"short", some 5, [], []⟩]
    obtain ⟨r, hr, htransactions⟩ :=
      (htaken _ js hread hsound hforms).taken (by decide +kernel)
    refine ⟨_, js, r, hread, hforms, hr, ?_⟩
    rw [htransactions, List.filter_cons, isBrief_longTransaction]
    rfl
  · obtain ⟨-, htaken, js, hforms, -, hsound, hread⟩ :=
      brief_transactions longTransaction
        [⟨"short", some 5, [], []⟩, singleTransaction "zeros" (List.replicate 133 0)]
    exact ⟨_, js, hread, hforms,
      (htaken _ js hread hsound hforms).broken (by decide +kernel)⟩

/-- **Not all transactions are taken over**: one that a node shows as it should is lost. -/
theorem long_transaction_lost : ∃ text j r, Json.ofText? text = some j ∧ Form j longTransaction ∧
    ofText text = .ok r ∧ r.transactions = [] := by
  have hread := Json.ofText?_compact longTransaction.isPlain_toNodeJson
  have hanswers := answers_record hread (longTransaction.isSound_toNodeJson 119)
    longTransaction.form_toNodeJson
  obtain ⟨r, hr, htransactions⟩ := hanswers.taken (by decide +kernel)
  refine ⟨_, _, r, hread, longTransaction.form_toNodeJson, hr, ?_⟩
  rw [htransactions, List.filter_cons, isBrief_longTransaction]
  rfl

end NodeReport

end AssetMarket
