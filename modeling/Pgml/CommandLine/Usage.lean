import Pgml.CommandLine.Arguments
import Pgml.Text.Quoted

/-! The texts that explain how the program is used. -/
namespace Pgml.CommandLine

def programName : String := "pgmlgraph"

def versionText : String := "0.3.0"

/-- The words that begin a call of the program or of one of its commands. -/
def callText : Option Command → String
  | none => programName
  | some c => programName ++ " " ++ c.name

def usageLine (c : Option Command) : String :=
  let arguments := match c with
    | none => "COMMAND [ARGS]..."
    | some c => if c.takesMany then "[PATHS]..." else "[PATH]"
  "Usage: " ++ callText c ++ " [OPTIONS] " ++ arguments ++ "\n"

namespace UsageFault

def message : UsageFault → String
  | unknownOption name => "No such option " ++ Text.quoted name ++ "."
  | missingValue option => "Option " ++ Text.quoted option ++ " requires an argument."
  | needlessValue option => "Option " ++ Text.quoted option ++ " does not take a value."
  | extraPaths [path] => "Got unexpected extra argument (" ++ path ++ ")"
  | extraPaths paths => "Got unexpected extra arguments (" ++ " ".intercalate paths ++ ")"
  | missingPath => "Missing argument 'PATH'."
  | unknownCommand name => "No such command " ++ Text.quoted name ++ "."
  | missingCommand => "Missing command."

/-- Whether the usage of the command is shown together with the message. -/
def showsUsage : UsageFault → Bool
  | missingValue _ | needlessValue _ => false
  | _ => true

end UsageFault

def errorLine (message : String) : String := "Error: " ++ message ++ "\n"

def Misused.text (m : Misused) : String :=
  let usage := usageLine m.command ++ "Try '" ++ callText m.command ++ " --help' for help.\n\n"
  (if m.fault.showsUsage then usage else "") ++ errorLine m.fault.message

def Command.summary : Command → String
  | .show => "Print shape tree of a PGML diagram."
  | .names => "List shapes registered under a name."
  | .check => "Check that PGML diagrams can be read."

/-- Lines of two columns, the first as wide as its widest entry. -/
def columns (rows : List (String × String)) : String :=
  let width := (rows.map (·.1.length)).foldl max 0
  "".intercalate (rows.map fun row =>
    "  " ++ row.1 ++ String.ofList (List.replicate (width - row.1.length + 2) ' ') ++ row.2 ++ "\n")

def helpRow : String × String := ("--help", "Show this message and exit.")

def optionRows : List (String × String) := [
  ("--config TEXT", "Configuration file."),
  ("--debug", "Enable debug."),
  ("--owners TEXT", "YAML or JSON file mapping owner ids to model elements."),
  ("--version", "Show the application's version."),
  helpRow]

def helpText : String :=
  usageLine none ++ "\nOptions:\n" ++ columns [helpRow] ++ "\nCommands:\n" ++
    columns (Command.all.map fun c => (c.name, c.summary))

def commandHelpText (c : Command) : String :=
  usageLine (some c) ++ "\n  " ++ c.summary ++ "\n\nOptions:\n" ++ columns optionRows

end Pgml.CommandLine
