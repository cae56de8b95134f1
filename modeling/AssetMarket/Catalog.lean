/-
**The catalog.**

The catalog describes the marketplace program to others: its methods with their accounts and
arguments, the records with their fields, and the errors.  It is published as JSON, in which a
list of records or errors is left out if it is empty, and so is the mark of a method that takes no
further accounts.

Main definitions:

* `Catalog` — a catalog of any program;
* `Catalog.ofMethod`, `Catalog.ofKind` — the entry of a method and of a record kind;
* `Catalog.current` — the catalog of the marketplace program;
* `Catalog.toJson`, `Catalog.ofJson` — catalogs as JSON values.
-/

import AssetMarket.Catalog.Layout
import AssetMarket.Json.Document
import AssetMarket.Json.Shape
import AssetMarket.Json.Writer
import AssetMarket.Text.Hex

set_option relaxedAutoImplicit false
set_option autoImplicit false

namespace AssetMarket

/-- An account of a method. -/
@[ext]
structure Catalog.Account where
  name : String
  writable : Bool
  signer : Bool
  deriving DecidableEq

/-- An argument of a method. -/
@[ext]
structure Catalog.Argument where
  name : String
  type : String
  deriving DecidableEq

/-- A method. -/
@[ext]
structure Catalog.Entry where
  name : String
  /-- The opcode in hexadecimal. -/
  discriminator : String
  accounts : List Catalog.Account
  args : List Catalog.Argument
  /-- Whether further accounts may follow the named ones. -/
  remainingAccounts : Bool
  deriving DecidableEq

/-- A field of a record. -/
@[ext]
structure Catalog.RecordField where
  name : String
  type : String
  offset : UInt64
  deriving DecidableEq

/-- A record kind. -/
@[ext]
structure Catalog.RecordType where
  name : String
  size : UInt64
  discriminator : Bytes
  fields : List Catalog.RecordField
  deriving DecidableEq

/-- An error. -/
@[ext]
structure Catalog.ErrorCode where
  code : UInt32
  name : String
  message : String
  deriving DecidableEq

/-- The description of a program. -/
@[ext]
structure Catalog where
  version : String
  name : String
  instructions : List Catalog.Entry
  accounts : List Catalog.RecordType
  errors : List Catalog.ErrorCode
  deriving DecidableEq

namespace Catalog

/-! ### The marketplace program -/

/-- The entry of a method. -/
def ofMethod (m : Method) : Entry :=
  { name := m.name
    discriminator := Hex.encode m.opcode
    accounts := m.accounts.map fun slot => ⟨slot.name, slot.isWritable, slot.isSigner⟩
    args := m.args.map fun (name, type) => ⟨name, type.name⟩
    remainingAccounts := m.takesRemaining }

/-- The entry of a record kind. -/
def ofKind (k : RecordKind) : RecordType :=
  { name := k.name
    size := UInt64.ofNat k.size
    discriminator := k.header
    fields := k.offsets.map fun field =>
      ⟨field.name, field.type.name, UInt64.ofNat field.offset⟩ }

/-- The catalog of the marketplace program. -/
def current : Catalog :=
  { version := "0.1.0"
    name := "mugs_marketplace"
    instructions := Method.all.map ofMethod
    accounts := RecordKind.all.map ofKind
    errors := ProgramError.table.map fun e => ⟨e.code, e.name, e.message⟩ }

/-! ### Writing -/

/-- An account as JSON. -/
def Account.toJson (a : Account) : Json :=
  .record [("name", .str a.name), ("writable", .bool a.writable), ("signer", .bool a.signer)]

/-- An argument as JSON. -/
def Argument.toJson (a : Argument) : Json :=
  .record [("name", .str a.name), ("type", .str a.type)]

/-- A method as JSON. -/
def Entry.toJson (e : Entry) : Json :=
  .record
    ([("name", .str e.name), ("discriminator", .str e.discriminator),
      ("accounts", .array (e.accounts.map Account.toJson)),
      ("args", .array (e.args.map Argument.toJson))]
      ++ if e.remainingAccounts then [("remaining_accounts", .bool true)] else [])

/-- A field as JSON. -/
def RecordField.toJson (f : RecordField) : Json :=
  .record [("name", .str f.name), ("type", .str f.type), ("offset", .int f.offset.toNat)]

/-- A record kind as JSON. -/
def RecordType.toJson (r : RecordType) : Json :=
  .record
    [("name", .str r.name), ("size", .int r.size.toNat),
     ("discriminator", .array (r.discriminator.map fun b => .int b.toNat)),
     ("fields", .array (r.fields.map RecordField.toJson))]

/-- An error as JSON. -/
def ErrorCode.toJson (e : ErrorCode) : Json :=
  .record [("code", .int e.code.toNat), ("name", .str e.name), ("msg", .str e.message)]

/-- A member that is left out where its list is empty. -/
def unlessEmpty {α : Type} (name : String) (item : α → Json) (xs : List α) :
    List (String × Json) :=
  if xs.isEmpty then [] else [(name, .array (xs.map item))]

/-- A catalog as JSON. -/
def toJson (c : Catalog) : Json :=
  .record
    ([("version", .str c.version), ("name", .str c.name),
      ("instructions", .array (c.instructions.map Entry.toJson))]
      ++ unlessEmpty "accounts" RecordType.toJson c.accounts
      ++ unlessEmpty "errors" ErrorCode.toJson c.errors)

/-! ### Reading -/

open Json (Shape required optional asText asBool asIndex asList asNatural)

/-- Read an account. -/
def Account.ofJson (j : Json) : Shape Account := do
  let ms ← j.fields "an account" ["name", "writable", "signer"]
  return {
    name := ← required ms "name" asText
    writable := ← optional ms "writable" false asBool
    signer := ← optional ms "signer" false asBool }

/-- Read an argument. -/
def Argument.ofJson (j : Json) : Shape Argument := do
  let ms ← j.fields "an argument" ["name", "type"]
  return { name := ← required ms "name" asText, type := ← required ms "type" asText }

/-- Read a method. -/
def Entry.ofJson (j : Json) : Shape Entry := do
  let ms ←
    j.fields "an instruction" ["name", "discriminator", "accounts", "args", "remaining_accounts"]
  return {
    name := ← required ms "name" asText
    discriminator := ← required ms "discriminator" asText
    accounts := ← required ms "accounts" (asList Account.ofJson)
    args := ← required ms "args" (asList Argument.ofJson)
    remainingAccounts := ← optional ms "remaining_accounts" false asBool }

/-- Read a field. -/
def RecordField.ofJson (j : Json) : Shape RecordField := do
  let ms ← j.fields "a field" ["name", "type", "offset"]
  return {
    name := ← required ms "name" asText
    type := ← required ms "type" asText
    offset := ← required ms "offset" asIndex }

/-- Read a byte. -/
def byteOfJson (j : Json) : Shape UInt8 := (asNatural "u8" (2 ^ 8) j).map UInt8.ofNat

/-- Read a record kind. -/
def RecordType.ofJson (j : Json) : Shape RecordType := do
  let ms ← j.fields "an account type" ["name", "size", "discriminator", "fields"]
  return {
    name := ← required ms "name" asText
    size := ← required ms "size" asIndex
    discriminator := ← required ms "discriminator" (asList byteOfJson)
    fields := ← required ms "fields" (asList RecordField.ofJson) }

/-- Read an error. -/
def ErrorCode.ofJson (j : Json) : Shape ErrorCode := do
  let ms ← j.fields "an error" ["code", "name", "msg"]
  return {
    code := UInt32.ofNat (← required ms "code" (asNatural "u32" (2 ^ 32)))
    name := ← required ms "name" asText
    message := ← required ms "msg" asText }

/-- Read a catalog. -/
def ofJson (j : Json) : Shape Catalog := do
  let ms ← j.fields "a catalog" ["version", "name", "instructions", "accounts", "errors"]
  return {
    version := ← required ms "version" asText
    name := ← required ms "name" asText
    instructions := ← required ms "instructions" (asList Entry.ofJson)
    accounts := ← optional ms "accounts" [] (asList RecordType.ofJson)
    errors := ← optional ms "errors" [] (asList ErrorCode.ofJson) }

/-- The catalog of a JSON text. -/
def ofText? (s : String) : Option Catalog := do
  let j ← Json.ofText? s
  (ofJson j).toOption

end Catalog

end AssetMarket
