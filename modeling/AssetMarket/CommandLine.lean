/-
**The command line.**

Settings come from variables, the first argument is a command, and the rest are its flags and
operands.  Nothing is ever sent anywhere: operations are prepared and submitted against a
snapshot.

Main definitions:

* `CommandLine.run` — what a command line does;
* `CommandLine.help`, `CommandLine.catalog`, `CommandLine.place`, `CommandLine.decode`,
  `CommandLine.events`, `CommandLine.scan`, `CommandLine.build`, `CommandLine.error` — the
  commands;
* `CommandLine.transactionLines` — a transaction as a person reads it.
-/

import AssetMarket.Client.History
import AssetMarket.Client.Scan
import AssetMarket.Client.Submission
import AssetMarket.CommandLine.Help
import AssetMarket.CommandLine.Shell
import AssetMarket.Ledger.Snapshot
import AssetMarket.Operation.Arguments
import AssetMarket.PastTransaction.Node

set_option relaxedAutoImplicit false
set_option autoImplicit false

namespace AssetMarket

namespace CommandLine

/-! ### Operands -/

/-- The address that a flag gives. -/
def address (flags : Flags) (flag : String) : Shell Address :=
  .ofArguments (flags.address flag)

/-- The file that a flag names. -/
def path (flags : Flags) (flag : String) : Shell String :=
  .orRefuse (ArgumentError.missing flag).message (flags.value? flag)

/-- The kind of record that an operand names. -/
def recordKind (name : String) : Shell RecordKind :=
  .orRefuse s!"Unknown record kind '{name}'" (RecordKind.ofName? name)

/-- The ledger of the snapshot that a flag names. -/
def ledger (ctx : Context) (flags : Flags) : Shell MemoryLedger := do
  let text ← Shell.readFile (← path flags "snapshot")
  .ofMarket (MemoryLedger.ofText ctx.market text)

/-! ### Help and catalog -/

/-- Say how the command line is used. -/
def help (binary : String) : Shell Unit := .outAll (Help.overview Catalog.current binary)

/-- Print the catalog, or describe one method of it. -/
def catalog (name : Option String) : Shell Unit :=
  match name with
  | none => .out Catalog.current.toJson.spread
  | some name =>
      match Method.ofName? name with
      | some m => .outAll (Help.ofMethod m)
      | none => .refuse s!"Unknown instruction '{name}'"

/-! ### Addresses -/

/-- The place that a word names, with the keys that flags give. -/
def placeOfName (ctx : Context) (name : String) (flags : Flags) : Shell Place := do
  match name with
  | "global" => return .global
  | "escrow" => return .escrow
  | "listing" => return .listing (← address flags "mint")
  | "sell" => return .listing (← address flags "mint")
  | "offer" => return .offer (← address flags "mint") (← address flags "user")
  | "auction" => return .auction (← address flags "mint")
  | "user" => return .user (← address flags "user")
  | "ata" => return .tokenAccount (← address flags "user") (← address flags "mint")
  | "vault" =>
      let global ← Shell.ofMarket (Place.global.address ctx.market)
      return .tokenAccount global (← address flags "mint")
  | "metadata" => return .metadata (← address flags "mint")
  | _ => .refuse s!"Unknown PDA kind '{name}'"

/-- Derive the address of a place. -/
def place (ctx : Context) (name : Option String) (flags : Flags) : Shell Unit := do
  let name ← Shell.orRefuse "Usage: pda <KIND> [--mint ADDR] [--user ADDR]" name
  let place ← placeOfName ctx name flags
  let derived ← Shell.ofMarket (place.find ctx.market)
  Shell.outAll
    [s!"📦 {name}", s!"   address: {derived.address}", s!"   bump:    {derived.bump}"]

/-! ### Records -/

/-- Print the record that some bytes are. -/
def decode (operands : List String) : Shell Unit := do
  match operands with
  | name :: hex :: _ =>
      let kind ← recordKind name
      let bytes ← Shell.ofExcept Hex.Error.message (Hex.decode hex)
      let record ← Shell.ofMarket (Record.decode kind bytes)
      Shell.out record.toJson.spread
      if !record.isLive then Shell.warn s!"ℹ️  {kind.name} record is not live"
  | _ => .refuse "Usage: decode <KIND> <HEX>"

/-- A record with its address as JSON. -/
def entryToJson (entry : Address × Record) : Json :=
  .record [("address", .str entry.1.text), ("record", entry.2.toJson)]

/-- Print the coins in escrow. -/
def scanEscrow (ctx : Context) (flags : Flags) : Shell Unit := do
  let l ← ledger ctx flags
  let (balance, _) ← Shell.client (Client.escrowBalance MemoryLedger.requests ctx) l
  Shell.out s!"💾 Escrow vault holds {balance} lamports"

/-- The mint that a scan is limited to, if a flag gives one. -/
def mintOf (flags : Flags) : Shell (Option Address) :=
  if flags.has "mint" then some <$> address flags "mint" else pure none

/-- Print the live records of a kind, with all members in alphabetical order. -/
def scanKind (ctx : Context) (kind : RecordKind) (flags : Flags) : Shell Unit := do
  let l ← ledger ctx flags
  let mint ← mintOf flags
  let (records, _) ← Shell.client (Client.scan MemoryLedger.requests ctx kind mint) l
  Shell.out (Json.array (records.map entryToJson)).sorted.spread

/-- Print what a scan finds. -/
def scan (ctx : Context) (name : Option String) (flags : Flags) : Shell Unit := do
  let name ← Shell.orRefuse "Usage: scan <KIND> --snapshot <JSON> [--mint ADDR]" name
  if name = "escrow" then scanEscrow ctx flags
  else scanKind ctx (← recordKind name) flags

/-! ### Events -/

/-- Print the events of the transactions in a file. -/
def events (ctx : Context) (flags : Flags) : Shell Unit := do
  let text ← Shell.readFile (← path flags "file")
  let report ← Shell.ofMarket (NodeReport.ofText text)
  Shell.tell (report.warnings.map fun line => (.err, line))
  let remarks := report.transactions.flatMap (·.remarks ctx.market ctx.verbose)
  Shell.tell (remarks.map fun line => (.err, line))
  let events := eventsOf ctx.market report.transactions
  if flags.has "json" then Shell.out (Json.array (events.map Event.toJson)).spread
  else
    Shell.out s!"🔎 {events.length} event(s) in {report.transactions.length} transaction(s)"
    Shell.outAll (events.map fun e => s!"  {e.describe}")

/-! ### Operations -/

/-- The line on an account of an instruction. -/
def accountLine (a : AccountRef) : String :=
  s!"      {a.address} " ++ Help.bracketed (Help.accountFlags a.isWritable a.isSigner)

/-- The lines on the instruction at a position. -/
def instructionLines (entry : Instruction × Nat) : List String :=
  let (i, index) := entry
  let name := ((Method.ofData? i.data).map (·.name)).getD "external"
  [s!"  [{index}] {name} → program {i.program}"]
    ++ i.accounts.map accountLine
    ++ [s!"      data: {Hex.encode i.data}"]

/-- A transaction as a person reads it. -/
def transactionLines (tx : Transaction) : List String :=
  s!"🔧 Transaction for {tx.payer} ({tx.instructions.length} instruction(s))"
    :: tx.instructions.zipIdx.flatMap instructionLines

/-- The creators that a list names, blank pieces of it left out. -/
def creatorsOfText (s : String) : Shell CreatorSource := do
  let pieces := (s.splitOn ",").filter fun piece => !(Text.trim piece.toList).isEmpty
  let creators ← pieces.mapM fun piece =>
    Shell.ofReading (· = .breakdown) (fun e => s!"--creators: {Address.KeyError.message e}")
      (Address.ofKeyText piece)
  return .fixed creators

/-- Where the creators of an asset are found. -/
def creatorSource (flags : Flags) : Shell CreatorSource :=
  match flags.value? "creators" with
  | some s => creatorsOfText s
  | none => return .recorded

/-- Prepare an operation and show it. -/
def dryRun (ctx : Context) (source : CreatorSource) (payer : Address) (op : Operation)
    (l : MemoryLedger) : Shell Unit := do
  let (tx, _) ← Shell.client ((op.prepare ctx source payer).run MemoryLedger.requests) l
  Shell.outAll (transactionLines tx)
  Shell.outAll ["", "⚠️  Dry run: pass --submit to apply it to the snapshot."]

/-- Write a ledger into a file if one is named. -/
def keep (flags : Flags) (l : MemoryLedger) : Shell Unit :=
  match flags.value? "out" with
  | some path => do
      Shell.writeFile path l.snapshot.toJson.spread
      Shell.out s!"💾 Snapshot written to {path}"
  | none => return ()

/-- Submit an operation, and write the ledger into a file if one is named. -/
def submit (ctx : Context) (source : CreatorSource) (payer : Address) (op : Operation)
    (flags : Flags) (l : MemoryLedger) : Shell Unit := do
  let (result, l) ←
    Shell.client (Client.submit MemoryLedger.requests ctx source payer op) l
  Shell.outAll (transactionLines result.transaction)
  Shell.outAll ["", s!"✅ Signature: {result.signature}"]
  if result.retried then Shell.out "   (rebuilt once after a concurrent initialization)"
  keep flags l

/-- Prepare an operation against a snapshot, and submit it if wanted. -/
def build (ctx : Context) (name : Option String) (flags : Flags) : Shell Unit := do
  let name ←
    Shell.orRefuse "Usage: build <OP> --snapshot <JSON> --payer <ADDR> [FLAGS]" name
  let l ← ledger ctx flags
  let source ← creatorSource flags
  let payer ← address flags "payer"
  let op ← Shell.ofArguments (Operation.ofFlags name flags)
  if flags.has "submit" then submit ctx source payer op flags l
  else dryRun ctx source payer op l

/-! ### Errors of the program -/

/-- Read a code, in hexadecimal after the mark `0x` and in decimal otherwise. -/
def readCode (s : String) : Except NumeralError UInt32 :=
  (match s.toList with
    | '0' :: 'x' :: digits => Text.natural 16 (2 ^ 32) digits
    | digits => Text.natural 10 (2 ^ 32) digits).map UInt32.ofNat

/-- Describe the error of a code. -/
def error (code : Option String) : Shell Unit := do
  let s ← Shell.orRefuse "Usage: error <CODE>" code
  let code ← Shell.ofExcept (fun e => s!"Invalid code '{s}': {NumeralError.message e}") (readCode s)
  let e ← Shell.orRefuse s!"No program error with code {code}" (ProgramError.ofCode? code)
  Shell.out s!"{e.code} {e.name}: {e.message}"

/-! ### Commands -/

/-- A command that is not known. -/
def unknown (binary command : String) : Shell Unit := do
  Shell.warn s!"❌ Unknown command '{command}'"
  Shell.warn s!"Run '{binary} help' for usage."
  .failed 1

/-- Carry out a command, given its operands and flags. -/
def runCommand (ctx : Context) (binary command : String) (operands : List String) (flags : Flags) :
    Shell Unit :=
  match command with
  | "help" => help binary
  | "--help" => help binary
  | "-h" => help binary
  | "idl" => catalog operands[0]?
  | "pda" => place ctx operands[0]? flags
  | "decode" => decode operands
  | "events" => events ctx flags
  | "scan" => scan ctx operands[0]? flags
  | "build" => build ctx operands[0]? flags
  | "error" => error operands[0]?
  | _ => unknown binary command

/-- What a command line does; without a command it says how it is used. -/
def run (valueOf? : String → Option String) (binary : String) (args : List String) :
    Shell Unit := do
  let ctx ← Shell.ofMarket (Context.ofVariables valueOf?)
  match args with
  | [] => help binary
  | command :: rest => runCommand ctx binary command (positionals rest) (Flags.ofArguments rest)

end CommandLine

end AssetMarket
