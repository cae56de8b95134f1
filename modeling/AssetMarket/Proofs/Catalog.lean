/-
**Catalogs that are written are read back.**

A catalog leaves out what a reader would assume anyway: its records and its errors where there are
none, and the mark of a method that takes no further accounts.  What is left out is what counts as
there by default, so the catalog that is read is the one that was written, and it is written again
in the same way.

Main results:

* `Catalog.optional_unlessEmpty` — a list that is left out where it is empty is read all the same;
* `Catalog.ofJson_toJson` — a catalog is what its value is read as;
* `Catalog.catalog_round_trip` — **and so are its texts**.
-/

import AssetMarket.Catalog
import AssetMarket.Proofs.Json.Shape

set_option relaxedAutoImplicit false
set_option autoImplicit false

namespace AssetMarket

namespace Catalog

open Json (Shape Members asList asIndex asNatural asList_map isPlain_list isPlain_record
  read_record)

/-! ### What is left out -/

section

variable {α : Type} {item : α → Json} {xs : List α} {name : String}

theorem lookup_unlessEmpty :
    (unlessEmpty name item xs).lookup name
      = if xs.isEmpty then none else some (.array (xs.map item)) := by
  cases xs <;> simp [unlessEmpty]

theorem lookup_unlessEmpty_of_ne {other : String} (h : (other == name) = false) :
    (unlessEmpty name item xs).lookup other = none := by
  cases xs <;> simp [unlessEmpty, List.lookup_cons, h]

/-- A list that is left out where it is empty is read all the same. -/
theorem optional_unlessEmpty {ms : Members} {shape : Json → Shape α}
    (hlookup : ms.entries.lookup name = (unlessEmpty name item xs).lookup name)
    (hread : asList shape (.array (xs.map item)) = .ok xs) :
    Json.optional ms name [] (asList shape) = .ok xs := by
  rw [lookup_unlessEmpty] at hlookup
  cases xs with
  | nil => rw [Json.optional, hlookup]; rfl
  | cons x xs => exact (Json.optional_of_lookup hlookup).trans hread

theorem isPlain_unlessEmpty (h : ∀ x, (item x).isPlain = true) :
    (unlessEmpty name item xs).all (·.2.isPlain) = true := by
  cases xs with
  | nil => rfl
  | cons x xs => simpa [unlessEmpty] using isPlain_list h (x :: xs)

end

/-! ### Methods -/

theorem Account.ofJson_toJson (a : Account) : ofJson a.toJson = .ok a := by
  refine read_record (by simp) fun ms hms => ?_
  simp [Json.required, Json.optional, hms, List.lookup_cons]
  rfl

theorem Account.isPlain_toJson (a : Account) : a.toJson.isPlain = true := by
  simp [toJson, isPlain_record]

theorem Argument.ofJson_toJson (a : Argument) : ofJson a.toJson = .ok a := by
  refine read_record (by simp) fun ms hms => ?_
  simp [Json.required, hms, List.lookup_cons]
  rfl

theorem Argument.isPlain_toJson (a : Argument) : a.toJson.isPlain = true := by
  simp [toJson, isPlain_record]

namespace Entry

variable (e : Entry)

/-- The mark of further accounts is there, or its default takes its place. -/
theorem ofJson_toJson : ofJson e.toJson = .ok e := by
  obtain ⟨name, discriminator, accounts, args, remaining⟩ := e
  have haccounts := asList_map fun a (_ : a ∈ accounts) => a.ofJson_toJson
  have hargs := asList_map fun a (_ : a ∈ args) => a.ofJson_toJson
  cases remaining
  all_goals
    refine read_record (by simp) fun ms hms => ?_
    simp [Json.required, Json.optional, hms, haccounts, hargs, List.lookup_cons]
    rfl

theorem isPlain_toJson : e.toJson.isPlain = true := by
  have haccounts := isPlain_list Account.isPlain_toJson e.accounts
  have hargs := isPlain_list Argument.isPlain_toJson e.args
  cases hremaining : e.remainingAccounts <;>
    simp [toJson, isPlain_record, haccounts, hargs, hremaining]

theorem member?_remainingAccounts :
    e.toJson.member? "remaining_accounts" = none ↔ e.remainingAccounts = false := by
  cases hremaining : e.remainingAccounts <;>
    simp [toJson, Json.member?_record, List.lookup_cons, hremaining]

end Entry

/-! ### Records and errors -/

theorem RecordField.ofJson_toJson (f : RecordField) : ofJson f.toJson = .ok f := by
  refine read_record (by simp) fun ms hms => ?_
  simp [Json.required, hms, List.lookup_cons, asIndex_int]
  rfl

theorem RecordField.isPlain_toJson (f : RecordField) : f.toJson.isPlain = true := by
  simp [toJson, isPlain_record, isPlain_ofUInt64]

theorem byteOfJson_int (b : UInt8) : byteOfJson (.int b.toNat) = .ok b := by
  rw [byteOfJson, asNatural_int b.toNat_lt]
  exact congrArg Except.ok UInt8.ofNat_toNat

theorem RecordType.ofJson_toJson (r : RecordType) : ofJson r.toJson = .ok r := by
  have hdiscriminator := asList_map fun b (_ : b ∈ r.discriminator) => byteOfJson_int b
  have hfields := asList_map fun f (_ : f ∈ r.fields) => f.ofJson_toJson
  refine read_record (by simp) fun ms hms => ?_
  simp [Json.required, hms, List.lookup_cons, asIndex_int, hdiscriminator, hfields]
  rfl

theorem RecordType.isPlain_toJson (r : RecordType) : r.toJson.isPlain = true := by
  have hbyte (b : UInt8) : (Json.int b.toNat).isPlain = true :=
    isPlain_ofNat (b.toNat_lt.trans (by decide))
  have hdiscriminator := isPlain_list hbyte r.discriminator
  have hfields := isPlain_list RecordField.isPlain_toJson r.fields
  simp [toJson, isPlain_record, isPlain_ofUInt64, hdiscriminator, hfields]

theorem ErrorCode.ofJson_toJson (e : ErrorCode) : ofJson e.toJson = .ok e := by
  have hcode : asNatural "u32" (2 ^ 32) (.int e.code.toNat) = .ok e.code.toNat :=
    asNatural_int e.code.toNat_lt
  refine read_record (by simp) fun ms hms => ?_
  simp [Json.required, hms, List.lookup_cons, hcode]
  show Except.ok (ErrorCode.mk (.ofNat e.code.toNat) e.name e.message) = .ok e
  rw [UInt32.ofNat_toNat]

theorem ErrorCode.isPlain_toJson (e : ErrorCode) : e.toJson.isPlain = true := by
  have hcode := isPlain_ofNat (e.code.toNat_lt.trans (by decide))
  simp [toJson, isPlain_record, hcode]

/-! ### Catalogs -/

variable (c : Catalog)

theorem nodup_names : (["version", "name", "instructions"]
    ++ (unlessEmpty "accounts" RecordType.toJson c.accounts).map (·.1)
    ++ (unlessEmpty "errors" ErrorCode.toJson c.errors).map (·.1)).Nodup := by
  unfold unlessEmpty
  split <;> split <;> simp

/-- A catalog is what its value is read as. -/
theorem ofJson_toJson : ofJson c.toJson = .ok c := by
  have hinstructions := asList_map fun e (_ : e ∈ c.instructions) => e.ofJson_toJson
  have haccounts := asList_map fun r (_ : r ∈ c.accounts) => r.ofJson_toJson
  have herrors := asList_map fun e (_ : e ∈ c.errors) => e.ofJson_toJson
  refine read_record (by simpa using c.nodup_names) fun ms hms => ?_
  have hreadAccounts : Json.optional ms "accounts" [] (asList RecordType.ofJson) = .ok c.accounts :=
    optional_unlessEmpty
      (by simp [hms, List.lookup_append, List.lookup_cons, lookup_unlessEmpty_of_ne]) haccounts
  have hreadErrors : Json.optional ms "errors" [] (asList ErrorCode.ofJson) = .ok c.errors :=
    optional_unlessEmpty
      (by simp [hms, List.lookup_append, List.lookup_cons, lookup_unlessEmpty_of_ne]) herrors
  simp [Json.required, hms, List.lookup_cons, hinstructions, hreadAccounts, hreadErrors]
  rfl

theorem isPlain_toJson : c.toJson.isPlain = true := by
  have hinstructions := isPlain_list Entry.isPlain_toJson c.instructions
  simp [toJson, isPlain_record, hinstructions, isPlain_unlessEmpty RecordType.isPlain_toJson,
    isPlain_unlessEmpty ErrorCode.isPlain_toJson]

theorem member?_accounts : c.toJson.member? "accounts" = none ↔ c.accounts = [] := by
  simp [toJson, Json.member?_record, List.lookup_append, List.lookup_cons, lookup_unlessEmpty,
    lookup_unlessEmpty_of_ne]

theorem member?_errors : c.toJson.member? "errors" = none ↔ c.errors = [] := by
  simp [toJson, Json.member?_record, List.lookup_append, List.lookup_cons, lookup_unlessEmpty,
    lookup_unlessEmpty_of_ne]

/-- **Catalogs are read back from their texts**, and what is read is written in the same way.  What
is left out in writing are the lists without items and the marks that are not set, and no others. -/
theorem catalog_round_trip :
    (∀ text ∈ c.toJson.forms, ofText? text = some c ∧
      ∀ c', ofText? text = some c' → c'.toJson.forms = c.toJson.forms) ∧
    (c.toJson.member? "accounts" = none ↔ c.accounts = []) ∧
    (c.toJson.member? "errors" = none ↔ c.errors = []) ∧
    ∀ e ∈ c.instructions,
      (e.toJson.member? "remaining_accounts" = none ↔ e.remainingAccounts = false) := by
  refine ⟨fun text htext => ?_, c.member?_accounts, c.member?_errors,
    fun e _ => e.member?_remainingAccounts⟩
  have hread : ofText? text = some c := by
    rw [ofText?, Json.ofText?_forms c.isPlain_toJson text htext]
    exact congrArg Except.toOption c.ofJson_toJson
  refine ⟨hread, fun c' hc' => ?_⟩
  rw [Option.some.inj (hc'.symm.trans hread)]

/-- A catalog of two methods, with and without the mark, and nothing else. -/
def twoMethods : Catalog :=
  ⟨"1\n", "a \"b\"",
    [⟨"é", "00", [⟨"x", true, false⟩], [], false⟩, ⟨"", "", [], [⟨"y", "u8"⟩], true⟩], [], []⟩

/-- Of two methods one is written without a mark, and both are read back. -/
theorem catalog_round_trip_two :
    ofText? twoMethods.toJson.compact = some twoMethods ∧
    ofText? twoMethods.toJson.spread = some twoMethods ∧
    twoMethods.toJson.member? "accounts" = none ∧ twoMethods.toJson.member? "errors" = none ∧
    twoMethods.instructions.map (·.toJson.member? "remaining_accounts")
      = [none, some (.bool true)] := by
  obtain ⟨htexts, haccounts, herrors, -⟩ := catalog_round_trip twoMethods
  exact ⟨(htexts _ (Json.compact_mem_forms _)).1, (htexts _ (Json.spread_mem_forms _)).1,
    haccounts.2 rfl, herrors.2 rfl, rfl⟩

end Catalog

end AssetMarket
