/-
**Commands.**

A command prints lines, reads and writes files, and ends well or not.  A `Shell` is such a course
of actions, set apart from the machine that carries them out: what a command prints, and when, is
decided here and not there.

Main definitions:

* `Shell` — a course of actions;
* `Shell.refuse` — the end of a command that cannot do what is wanted;
* `Shell.breakDown` — the end of a command in which a reader of base 58 breaks down;
* `Shell.client` — the work of a client at a ledger in memory.

Main results:

* `Shell.bind_assoc` — grouping does not matter when actions follow one another.
-/

import AssetMarket.Client
import AssetMarket.Operation.Arguments

set_option relaxedAutoImplicit false
set_option autoImplicit false

namespace AssetMarket

/-- A course of actions.  What the machine says when a file cannot be used is handed on as it is. -/
inductive Shell (α : Type) where
  /-- The end, with a result. -/
  | done (a : α)
  /-- The end of a command that could not do what was wanted, with the code that tells so. -/
  | failed (code : UInt8)
  /-- Print a line. -/
  | print (stream : Stream) (line : String) (next : Shell α)
  /-- Read a file as text. -/
  | read (path : String) (next : Except String String → Shell α)
  /-- Write a text into a file. -/
  | write (path text : String) (next : Except String Unit → Shell α)

namespace Shell

/-- A course of actions, and after it one that depends on its result. -/
def bind {α β : Type} (x : Shell α) (f : α → Shell β) : Shell β :=
  match x with
  | .done a => f a
  | .failed code => .failed code
  | .print stream line next => .print stream line (next.bind f)
  | .read path next => .read path fun result => (next result).bind f
  | .write path text next => .write path text fun result => (next result).bind f

instance : Monad Shell where
  pure := .done
  bind := bind

theorem bind_assoc {α β γ : Type} (x : Shell α) (f : α → Shell β) (g : β → Shell γ) :
    (x.bind f).bind g = x.bind fun a => (f a).bind g := by
  induction x with
  | done a => rfl
  | failed code => rfl
  | print stream line next ih => simp only [bind, ih]
  | read path next ih => simp only [bind, ih]
  | write path text next ih => simp only [bind, ih]

theorem bind_done {α : Type} (x : Shell α) : x.bind .done = x := by
  induction x with
  | done a => rfl
  | failed code => rfl
  | print stream line next ih => simp only [bind, ih]
  | read path next ih => simp only [bind, ih]
  | write path text next ih => simp only [bind, ih]

instance : LawfulMonad Shell := LawfulMonad.mk' Shell bind_done (fun _ _ => rfl) bind_assoc

/-! ### Printing -/

/-- Print a line on what is done. -/
def out (line : String) : Shell Unit := .print .out line (.done ())

/-- Print a warning. -/
def warn (line : String) : Shell Unit := .print .err line (.done ())

/-- Print several lines. -/
def tell : Console → Shell Unit
  | [] => .done ()
  | (stream, line) :: rest => .print stream line (tell rest)

/-- Print several lines on what is done. -/
def outAll (lines : List String) : Shell Unit := tell (lines.map fun line => (.out, line))

/-- End a command, saying why. -/
def refuse {α : Type} (reason : String) : Shell α := .print .err s!"❌ {reason}" (.failed 1)

/-- End a command in which a reader breaks down. -/
def breakDown {α : Type} : Shell α := .print .err Base58.Error.breakdown.message (.failed 101)

/-- Go on with a value, or end the command where there is none. -/
def orRefuse {α : Type} (reason : String) : Option α → Shell α
  | some a => .done a
  | none => refuse reason

/-- Go on with the result of a computation, or end the command where it failed. -/
def ofExcept {α ε : Type} (message : ε → String) : Except ε α → Shell α
  | .ok a => .done a
  | .error e => refuse (message e)

/-- Go on with the result of a computation that reads base 58, or end the command where it failed or
broke down. -/
def ofReading {α ε : Type} (isBreakdown : ε → Bool) (message : ε → String) : Except ε α → Shell α
  | .ok a => .done a
  | .error e => if isBreakdown e then breakDown else refuse (message e)

/-- Go on with a result of the market. -/
def ofMarket {α : Type} : Except MarketError α → Shell α :=
  ofReading MarketError.isBreakdown MarketError.message

/-- Go on with a result from arguments. -/
def ofArguments {α : Type} : Except ArgumentError α → Shell α :=
  ofReading ArgumentError.isBreakdown ArgumentError.message

/-! ### Files and ledgers -/

/-- The text of a file. -/
def readFile (path : String) : Shell String :=
  .read path (ofExcept fun e => s!"Failed to read '{path}': {e}")

/-- Write a text into a file. -/
def writeFile (path text : String) : Shell Unit :=
  .write path text (ofExcept fun e => s!"Failed to write '{path}': {e}")

/-- Let a client work at a ledger in memory, and print what it says. -/
def client {α : Type} (work : Client MemoryLedger α) (l : MemoryLedger) :
    Shell (α × MemoryLedger) := do
  let (result, desk) := work { ledger := l }
  tell desk.console
  let a ← ofMarket result
  return (a, desk.ledger)

end Shell

end AssetMarket
