import Pgml.Color
import Pgml.Fault
import Pgml.Table

/-! What a reader reports while it works, apart from its result. -/
namespace Pgml

inductive Severity where
  | debug
  | info
  | warning
  | error
  deriving DecidableEq, Repr

def Severity.name : Severity → String
  | debug => "DEBUG"
  | info => "INFO"
  | warning => "WARNING"
  | error => "ERROR"

def Severity.isSerious : Severity → Bool
  | debug | info => false
  | warning | error => true

/-- The element rules that decline an object which does not suit their element. -/
inductive RuleName where
  | group
  | text
  | path
  | ellipse
  deriving DecidableEq, Repr

inductive Notice where
  | unknownColor (value : String) (used : Color)
  | opening (file : String)
  | readingDiagram (name : String) (kind : Option String)
  | readDiagram (name : String) (shapes : Nat)
  | emptyHint (hint element : String)
  | unavailableType (hint : String)
  | unrecognized (element : String)
  | unrecognizedInLine (element : String)
  | unrecognizedInPath (element : String)
  | cannotAdd (kind container : String)
  | unsuitable (rule : RuleName) (kind : String)
  | privateInstance (kind : String)
  | privateContainer (container : String)
  | edgeCannotTake (edge : Option String) (kind : String)
  | edgeUnknown (edge : Option String) (key value : String)
  | droppedData (data : Table String)
  | replacedType (id : String)
  /-- The configuration in use, as text. -/
  | configuration (text : String)
  deriving DecidableEq, Repr

namespace Notice

def severity : Notice → Severity
  | unknownColor .. | opening _ | readingDiagram .. | readDiagram .. | droppedData _
  | replacedType _ | configuration _ => .debug
  | unrecognized _ | unrecognizedInLine _ | unrecognizedInPath _ => .info
  | emptyHint .. | cannotAdd .. | unsuitable .. | privateInstance _ | privateContainer _
  | edgeCannotTake .. | edgeUnknown .. => .warning
  | unavailableType _ => .error

/-- Private data in braces, names and values quoted. -/
def dataText (data : Table String) : String :=
  let parts := data.entries.map fun e => Text.quoted e.1 ++ ": " ++ Text.quoted e.2
  "\x7b" ++ ", ".intercalate parts ++ "\x7d"

def ruleText : RuleName → String
  | .group => "Group"
  | .text => "Text"
  | .path => "Path"
  | .ellipse => "Ellipse"

def message : Notice → String
  | unknownColor value used => "Unknown colour " ++ value ++ ", using " ++ used.hex
  | opening file => "Reading " ++ file
  | readingDiagram name kind => "Reading diagram " ++ name ++ " (" ++ nameText kind ++ ")"
  | readDiagram name shapes => "Read diagram " ++ name ++ " with " ++ Number.decimal shapes ++ " shapes"
  | emptyHint hint element => "Empty type hint " ++ Text.quoted hint ++ " on " ++ element
  | unavailableType hint => "Type hint " ++ hint ++ " does not specify an available type"
  | unrecognized element => "Unrecognized element " ++ element
  | unrecognizedInLine element => "Unrecognized element " ++ element ++ " in line"
  | unrecognizedInPath element => "Unrecognized element " ++ element ++ " in path"
  | cannotAdd kind container => "Cannot add " ++ kind ++ " to " ++ container
  | unsuitable rule kind => ruleText rule ++ " element with inappropriate instance " ++ kind
  | privateInstance kind => "Private element unexpectedly generated instance " ++ kind
  | privateContainer container => "Private element with inappropriate container " ++ container
  | edgeCannotTake edge kind => "Edge " ++ nameText edge ++ " cannot take " ++ kind
  | edgeUnknown edge key value =>
    "Edge " ++ nameText edge ++ " refers to unknown " ++ key ++ " " ++ value
  | droppedData data => "Dropping private data " ++ dataText data
  | replacedType id => "Replacing constructor for type " ++ id
  | configuration text => text

end Notice

end Pgml
