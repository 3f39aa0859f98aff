/-
**The program.**

The command line is carried out with the files at hand and without a network, so that selections
can be compiled, paths resolved and scalars listed; a call finds nobody at its address.

Main definitions:

* `localWorld` — the files at hand and no network;
* `main` — the program.
-/

import FieldQuery.CommandLine.Run

set_option autoImplicit false

namespace FieldQuery

/-- The text of a file, if there is such a file. -/
def readFile? (path : String) : IO (Option String) := do
  try return some (← IO.FS.readFile path) catch _ => return none

/-- The files at hand and no network. -/
def localWorld : World IO where
  read := readFile?
  web _ := throw .unsent
  connect _ := return .error .unreachable
  send _ := return

/-- Output where it belongs: lines for the reader, and the log beside them. -/
def Output.print : Output → IO Unit
  | line text => IO.println text
  | log level text => IO.eprintln (level.name ++ " " ++ text)

/-- A command line carried out, with its outcome shown. -/
def runProgram (args : List String) : IO UInt32 := do
  let outcome ← Program.run localWorld args
  outcome.outputs.forM Output.print
  outcome.report?.forM IO.eprintln
  return outcome.code.toUInt32

end FieldQuery

/-- The program. -/
def main (args : List String) : IO UInt32 := FieldQuery.runProgram args
