/-
**Rehearsing commands.**

A command can be carried out without a machine, in a directory that exists only on paper.

Main definitions:

* `Outcome` — what is left of a command;
* `Shell.rehearse` — what a command prints, and the files after it.
-/

import AssetMarket.CommandLine.Directory
import AssetMarket.CommandLine.Shell

set_option relaxedAutoImplicit false
set_option autoImplicit false

namespace AssetMarket

/-- How a command ended, what it printed, and the files after it. -/
structure Outcome (α : Type) where
  result : Except UInt8 α
  console : Console
  files : Directory

namespace Shell

/-- Carry out a command on paper. -/
def rehearse {α : Type} (d : Directory) : Shell α → Outcome α
  | .done a => ⟨.ok a, [], d⟩
  | .failed code => ⟨.error code, [], d⟩
  | .print stream line next =>
      let rest := next.rehearse d
      { rest with console := (stream, line) :: rest.console }
  | .read path next => (next ((d.read path).mapError PathFault.message)).rehearse d
  | .write path text next =>
      match d.write path text with
      | .ok after => (next (.ok ())).rehearse after
      | .error fault => (next (.error fault.message)).rehearse d

end Shell

/-- The code with which a machine ends a command. -/
def Outcome.exitCode {α : Type} (o : Outcome α) : UInt8 :=
  match o.result with
  | .ok _ => 0
  | .error code => code

end AssetMarket
