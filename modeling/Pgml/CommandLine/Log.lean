import Pgml.Notice

/-! The lines that the program logs: a stamp, the part of the program that has something to
say, how serious it is, and the message, all in colours. -/
namespace Pgml.CommandLine

/-- A part of the program and a place in it, as log lines name them. -/
structure Origin where
  part : String
  place : String
  deriving DecidableEq, Repr

def ruleOrigin : RuleName → String
  | .group => "group"
  | .text => "text"
  | .path => "path"
  | .ellipse => "ellipse"

def Origin.ofNotice : Notice → Origin
  | .unknownColor .. => ⟨"colors", "resolve"⟩
  | .opening _ => ⟨"events", "read_events"⟩
  | .readingDiagram .. | .unrecognizedInLine _ | .unrecognizedInPath _ => ⟨"handlers", "start_element"⟩
  | .readDiagram .. => ⟨"parser", "_parse"⟩
  | .emptyHint .. | .unrecognized _ => ⟨"factory", "get_handler"⟩
  | .unavailableType _ => ⟨"factory", "create_instance"⟩
  | .cannotAdd .. => ⟨"factory", "attach"⟩
  | .unsuitable rule _ => ⟨"factory", ruleOrigin rule⟩
  | .privateInstance _ | .privateContainer _ => ⟨"factory", "private"⟩
  | .edgeCannotTake .. => ⟨"handlers", "add_object"⟩
  | .edgeUnknown .. => ⟨"handlers", "set_private_data"⟩
  | .droppedData _ => ⟨"handlers", "end_element"⟩
  | .replacedType _ => ⟨"registry", "register"⟩
  | .configuration _ => ⟨"cli", "wrapper"⟩

/-- What switches a terminal to a look. -/
def look (codes : String) : String := "\x1b[" ++ codes ++ "m"

def plainLook : String := look "0"

/-- A text in a look, which is switched off behind it. -/
def inLook (codes text : String) : String := look codes ++ text ++ plainLook

def greyCodes : String := "38;21"

def severityCodes : Severity → String
  | .debug => greyCodes
  | .info => "37"
  | .warning => "33"
  | .error => "31;21"

def logLine (stamp : String) (n : Notice) : String :=
  let origin := Origin.ofNotice n
  inLook "32" (stamp ++ "  ") ++ inLook "34" ("pgmlgraph." ++ origin.part ++ " ") ++
    inLook "37" (origin.place ++ " ") ++ look "1" ++ inLook greyCodes (n.severity.name ++ " ") ++
    inLook (severityCodes n.severity) n.message ++ "\n"

/-- The lines of some notices. Without debugging only serious ones are logged. -/
def logLines (debug : Bool) (stamp : String) (ns : List Notice) : String :=
  "".intercalate ((ns.filter fun n => debug || n.severity.isSerious).map (logLine stamp))

end Pgml.CommandLine
