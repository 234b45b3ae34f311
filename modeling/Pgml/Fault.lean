import Pgml.Number.Numeral
import Pgml.Text.Quoted

/-! Why reading a document, or a step on its way, fails. Each cause has its message. -/
namespace Pgml

/-- A document is not well formed, or one of its attributes makes no sense. -/
inductive Malformed where
  | notInteger (key value : String)
  | shortGeometry (tokens : List String)
  | incompletePoint (element : String)
  | wrongRoot (expected got : String)
  | badScale (value : String)
  /-- The text is not XML, or not in a known encoding. -/
  | unreadable
  | empty
  | openElements (count : Int)
  | afterEnd (element : String)
  | unexpectedEnd (element : String)
  /-- An element is closed under another name; the innermost frame may have none. -/
  | crossed (opened : Option String) (closed : String)
  deriving DecidableEq, Repr

/-- A reader is used in a way that its handlers do not support. -/
inductive Misuse where
  | alreadyReading
  | noDiagram
  | noHandler
  | diagramSet
  deriving DecidableEq, Repr

/-- What ends a program, or means to, wherever it stands. It says nothing of what is being done. -/
inductive Interrupt where
  /-- The program is to end. -/
  | exit
  /-- The user breaks the program off. -/
  | keyboard
  /-- A source of events is closed while it is asked for one. -/
  | closing
  | other (kind : String)
  deriving DecidableEq, Repr

inductive Fault where
  | malformed (cause : Malformed)
  | unknownType (id : String)
  | construction (id reason : String)
  | noOwner (id : String)
  | misuse (cause : Misuse)
  /-- A decimal numeral has more digits than numerals may have. -/
  | numeralTooLong
  /-- The extent of nothing at all is asked for. -/
  | noPoints
  /-- An item of a document is no event. -/
  | noEvent
  /-- An object lacks the ability that is asked of it. -/
  | unable
  /-- A file that is to be read does not exist. -/
  | noFile (name : String)
  /-- The table of owners is asked to change. -/
  | readOnly
  /-- A document is to be read in blocks whose size is out of range. -/
  | badBlockSize (size : Int)
  /-- A file is to be read in blocks of a negative size. -/
  | negativeBlockSize (size : Int)
  /-- There is no memory for a block of some size. -/
  | noMemory (size : Int)
  | interrupt (cause : Interrupt)
  deriving DecidableEq, Repr

/-- The text of a name that may be missing. -/
def nameText : Option String → String
  | some name => name
  | none => "None"

def Malformed.message : Malformed → String
  | notInteger key value => "Attribute " ++ key ++ "=" ++ Text.quoted value ++ " is not an integer"
  | shortGeometry tokens => "Group geometry " ++ " ".intercalate tokens ++ " needs four values"
  | incompletePoint element => "Element " ++ element ++ " needs both x and y"
  | wrongRoot expected got => "Expected " ++ expected ++ " root element, got " ++ got
  | badScale value => "Attribute scale=" ++ Text.quoted value ++ " is not a number"
  | unreadable => "Cannot read document"
  | empty => "Document is empty"
  | openElements count => "Document ended with " ++ Number.decimal count ++ " open elements"
  | afterEnd element => "Element " ++ element ++ " after end of document"
  | unexpectedEnd element => "Unexpected end of element " ++ element
  | crossed opened closed => "Element " ++ nameText opened ++ " closed by " ++ closed

def Misuse.message : Misuse → String
  | alreadyReading => "Parser is already reading a document"
  | noDiagram => "Initial handler did not set a diagram"
  | noHandler => "Handler stack is empty"
  | diagramSet => "Diagram was already set for this document"

def Fault.message : Fault → String
  | malformed cause => cause.message
  | unknownType id => "Type " ++ id ++ " is not registered"
  | construction id reason => "Cannot construct " ++ id ++ ": " ++ reason
  | noOwner id => "Found href of " ++ id ++ " with no matching element in model"
  | misuse cause => cause.message
  | numeralTooLong =>
    "Exceeds the limit (" ++ Number.decimal Number.maxDecimalDigits ++ " digits) for integer string conversion"
  | noPoints => "There are no points"
  | noEvent => "Unknown event"
  | unable => "The object lacks this ability"
  | noFile name => "[Errno 2] No such file or directory: " ++ Text.quoted name
  | readOnly => "The table of owners is read only"
  | badBlockSize size => "Blocks cannot have the size " ++ Number.decimal size
  | negativeBlockSize size => "Blocks cannot have the negative size " ++ Number.decimal size
  | noMemory size => "There is no memory for a block of " ++ Number.decimal size ++ " bytes"
  | interrupt _ => ""

/-- Whether the fault belongs to the reading of documents and is reported as such. -/
def Fault.isReported : Fault → Bool
  | malformed _ | unknownType _ | construction .. | noOwner _ | misuse _ => true
  | _ => false

/-- Whether a reading is ended from outside. All other faults are what it comes to by itself. -/
def Fault.isInterrupt : Fault → Bool
  | interrupt _ => true
  | _ => false

theorem Fault.isInterrupt_cases (e : Fault) : e.isInterrupt = false ∨ ∃ cause, e = .interrupt cause := by
  cases e with
  | interrupt cause => exact .inr ⟨cause, rfl⟩
  | _ => exact .inl rfl

end Pgml
