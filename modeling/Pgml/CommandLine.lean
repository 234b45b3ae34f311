import Pgml.CommandLine.Log
import Pgml.CommandLine.Usage
import Pgml.Markup.Delivery
import Pgml.Outline
import Pgml.Reader
import Pgml.Settings
import Pgml.Value.Json.Printer

/-! What the program does with its arguments: `show` prints the outline of a diagram, `names`
lists its named shapes and `check` tells which documents can be read. Everything is a
function of the arguments, the contents of files and the size of the blocks that there is memory for. -/
namespace Pgml.CommandLine

/-- What the program lets through to its caller. -/
inductive Escape where
  | load (f : LoadFault)
  | badColor (e : Palette.BadColor)
  | fault (f : Fault)
  deriving DecidableEq, Repr

def Escape.message : Escape → String
  | load f => f.message
  | badColor e => e.message
  | fault f => f.message

inductive Ending where
  | exit (code : Nat)
  | escaped (e : Escape)
  deriving DecidableEq, Repr

/-- What the program prints, and how it ends. -/
structure Report where
  out : String
  err : String
  ending : Ending
  deriving DecidableEq, Repr

/-- The same report with something printed before. -/
def Report.behind (out err : String) (r : Report) : Report :=
  { r with out := out ++ r.out, err := err ++ r.err }

def printed (out : String) : Report := ⟨out, "", .exit 0⟩

def refused (err : String) (code : Nat) : Report := ⟨"", err, .exit code⟩

def escaped (e : Escape) : Report := ⟨"", "", .escaped e⟩

/-- What commands work with. -/
structure Context where
  files : Files
  /-- The size of the largest block of a file that there is memory for. -/
  memory : Nat
  stamp : String
  debug : Bool
  reader : Reader

namespace Context

def logs (c : Context) (r : Reader) : String := logLines c.debug c.stamp r.notices

/-- The document in a file, with what reading it logs, and the reader afterwards. -/
def read (c : Context) (path : String) : Except Fault Diagram × String × Reader :=
  let feed := Feed.ofFile path ((c.files path).map (·.toList)) c.memory c.reader.setup.config.blockSize
  let (result, reader) := Reader.parse .root feed c.reader.forgetNotices
  (result, c.logs reader, reader.forgetNotices)

end Context

/-- Whether a fault is told to the user; all others are let through. -/
def isTold : Fault → Bool
  | .noFile _ => true
  | f => f.isReported

/-- A command on a single document. -/
def onDocument (c : Context) (path : String) (work : Reader → Diagram → Report) : Report :=
  let (result, logged, reader) := c.read path
  Report.behind "" logged <| match result with
    | .ok g => work reader g
    | .error f =>
      if isTold f then refused (errorLine (path ++ ": " ++ f.message)) 1 else escaped (.fault f)

def showDiagram (r : Reader) (g : Diagram) : Report :=
  match Outline.text r.desk.items g "  " with
  | .ok text => printed (text ++ "\n")
  | .error f => escaped (.fault f)

/-- The named shapes in the order of their names. -/
def namedShapes (r : Reader) : List (String × ItemId) :=
  r.desk.names.entries.mergeSort fun a b => decide (a.1 ≤ b.1)

def listNames (r : Reader) (_ : Diagram) : Report :=
  printed ("".intercalate ((namedShapes r).map fun e => e.1 ++ "\t" ++ r.desk.kindOf e.2 ++ "\n"))

/-! ## Checking documents -/

/-- What is printed about a document that was read. -/
def goodLine (path : String) (count : Nat) : String :=
  "\u2713 " ++ path ++ ": " ++ Number.decimal count ++ " shapes\n"

def badLine (path : String) (f : Fault) : String := "\u2717 " ++ path ++ ": " ++ f.message ++ "\n"

/-- The end of a check of some documents. -/
def checkEnding (failed total : Nat) : Report :=
  if failed = 0 then printed ""
  else refused (errorLine (Number.decimal failed ++ " of " ++ Number.decimal total ++ " diagrams failed")) 1

/-- Checks documents one after the other with one reader. -/
def checkFrom (c : Context) (failed total : Nat) : List String → Report
  | [] => checkEnding failed total
  | path :: rest =>
    let (result, logged, reader) := c.read path
    let next := { c with reader := reader }
    Report.behind "" logged <| match result with
      | .ok g =>
        (checkFrom next failed total rest).behind (goodLine path (Outline.count reader.desk.items g)) ""
      | .error f =>
        if isTold f then (checkFrom next (failed + 1) total rest).behind "" (badLine path f)
        else escaped (.fault f)

def check (c : Context) (paths : List String) : Report := checkFrom c 0 paths.length paths

/-! ## Commands -/

def missingPath (c : Command) : Report := refused (Misused.mk (some c) .missingPath).text 2

def perform (c : Context) (paths : List String) : Command → Report
  | .check => check c paths
  | .show =>
    match paths with
    | [] => missingPath .show
    | path :: _ => onDocument c path showDiagram
  | .names =>
    match paths with
    | [] => missingPath .names
    | path :: _ => onDocument c path listNames

def configurationNotice (config : Configuration) : Notice := .configuration (Json.indented config.value)

/-- Loads the settings, builds a reader and performs a command with it. -/
def runCommand (files : Files) (memory : Nat) (stamp : String) (command : Command) (o : Options)
    (paths : List String) : Report :=
  match Settings.loadConfiguration files o.config with
  | .error f => escaped (.load f)
  | .ok config =>
    if o.debug && !config.value.isWritable then escaped (.load .numeralTooLong)
    else Report.behind "" (logLines o.debug stamp [configurationNotice config]) <|
      match Settings.loadOwners files o.owners with
      | .error f => escaped (.load f)
      | .ok owners =>
        match Reader.build config owners .builtin with
        | .error e => escaped (.badColor e)
        | .ok reader =>
          let context := ⟨files, memory, stamp, o.debug, reader⟩
          (perform context paths command).behind "" (context.logs reader)

/-- The program. -/
def run (files : Files) (memory : Nat) (stamp : String) (args : List String) : Report :=
  match parse args with
  | .error m => refused m.text 2
  | .ok (.help true) => printed helpText
  | .ok (.help false) => refused helpText 2
  | .ok (.commandHelp c) => printed (commandHelpText c)
  | .ok .version => printed (versionText ++ "\n")
  | .ok (.run c o paths) => runCommand files memory stamp c o paths

end Pgml.CommandLine
