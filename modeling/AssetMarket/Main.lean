/-
**The program.**

What a command line does is decided in `CommandLine`; here it is carried out.
-/

import AssetMarket.CommandLine
import AssetMarket.CommandLine.Rehearsal

set_option relaxedAutoImplicit false
set_option autoImplicit false

namespace AssetMarket

/-- What the machine says about a file that cannot be used. -/
def machineMessage : IO.Error → String
  | .noFileOrDirectory _ _ _ => PathFault.missing.message
  | .inappropriateType _ 20 _ => PathFault.notDirectory.message
  | .inappropriateType _ _ _ => PathFault.isDirectory.message
  | .invalidArgument _ 36 _ => PathFault.nameTooLong.message
  | e => toString e

/-- Carry out a command on this machine; the result is the code with which the program ends. -/
def perform : Shell Unit → IO UInt32
  | .done () => return 0
  | .failed code => return code.toUInt32
  | .print .out line next => do
      IO.println line
      perform next
  | .print .err line next => do
      IO.eprintln line
      perform next
  | .read path next => do
      let result ← (IO.FS.readFile path).toBaseIO
      perform (next (result.mapError machineMessage))
  | .write path text next => do
      let result ← (IO.FS.writeFile path text).toBaseIO
      perform (next (result.mapError machineMessage))

/-- Carry out the command line that the program was started with. -/
def start (args : List String) : IO UInt32 := do
  let names :=
    [Context.marketVariable, Context.commitmentVariable, Context.timeoutVariable,
     Context.verboseVariable]
  let settings ← names.filterMapM fun name => do
    return (← IO.getEnv name).map fun value => (name, value)
  perform (CommandLine.run (fun name => settings.lookup name) "mugs-cli" args)

end AssetMarket

/-- The entry of the program. -/
def main (args : List String) : IO UInt32 := AssetMarket.start args
