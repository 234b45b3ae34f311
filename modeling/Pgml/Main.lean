import Pgml.CommandLine

/-! The program as it is run: it reads the files that its arguments mention and prints what
the command line reports. -/
namespace Pgml.Main

/-- Everything in the arguments that may be the name of a file. -/
def mentioned (args : List String) : List String :=
  args ++ args.filterMap fun arg => (CommandLine.splitOption arg).2

/-- The content of a file, if there is one that can be read. -/
def content? (name : String) : IO (Option ByteArray) := do
  try
    let bytes ← IO.FS.readBinFile name
    return some bytes
  catch _ => return none

/-- A block of 64 gibibytes is too large. -/
def memory : Nat := 68719476735

def contents (names : List String) : IO (Table ByteArray) := do
  let found ← names.filterMapM fun name => do
    return (← content? name).map fun bytes => (name, bytes)
  return Table.ofList found

end Pgml.Main

open Pgml in
/-- Log lines are stamped with the milliseconds of a running clock. -/
def main (args : List String) : IO UInt32 := do
  let files ← Main.contents (Main.mentioned args)
  let stamp := toString (← IO.monoMsNow)
  let report := CommandLine.run files.get? Main.memory stamp args
  IO.print report.out
  IO.eprint report.err
  match report.ending with
  | .exit code => return code.toUInt32
  | .escaped e => do
    IO.eprintln e.message
    return 1
