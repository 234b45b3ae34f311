import Pgml.Fault

/-! Attributes of an element. An empty value counts as none. Numbers have to be integers in
ASCII digits; one that is not makes the document malformed. -/
namespace Pgml

abbrev Attributes := List (String × String)

namespace Attributes

/-- The value of an attribute, as written. -/
def raw? (as : Attributes) (key : String) : Option String :=
  (as.find? fun a => a.1 == key).map (·.2)

/-- The value of an attribute, if it is not empty. -/
def value? (as : Attributes) (key : String) : Option String :=
  match as.raw? key with
  | some value => if value == "" then none else some value
  | none => none

/-- The attributes without the ones of a name. -/
def without (as : Attributes) (key : String) : Attributes := as.filter fun a => a.1 != key

/-- Whether a text is a sign, if any, and one or more ASCII digits. -/
def isInteger (cs : List Char) : Bool :=
  let (_, body) := Number.splitSign cs
  !body.isEmpty && body.all Char.isDigit

def toInt (value key : String) : Except Fault Int :=
  if isInteger value.toList then
    match Number.readDecimal? value.toList with
    | some n => .ok n
    | none => .error .numeralTooLong
  else .error (.malformed (.notInteger key value))

/-- The integer of an attribute, none if it is missing or empty. -/
def int? (as : Attributes) (key : String) : Except Fault (Option Int) :=
  match as.value? key with
  | some value => (toInt value key).map some
  | none => .ok none

/-- The integer of an attribute, or a default if it is missing or empty. -/
def int (as : Attributes) (key : String) (default : Int) : Except Fault Int :=
  (as.int? key).map (·.getD default)

/-- The marks and the space that separate the tokens of a type hint. -/
def isHintSeparator (c : Char) : Bool :=
  c == ',' || c == ';' || c == '[' || c == ']' || c == ' '

/-- The pieces between the characters of a class, empty ones dropped; `current` is the
piece being read, in reverse. -/
def splitAt (separates : Char → Bool) (current : List Char) : List Char → List (List Char)
  | [] => if current.isEmpty then [] else [current.reverse]
  | c :: rest =>
    if separates c then
      if current.isEmpty then splitAt separates [] rest
      else current.reverse :: splitAt separates [] rest
    else splitAt separates (c :: current) rest

/-- The tokens of a type hint. -/
def hintTokens (hint : String) : List String :=
  (splitAt isHintSeparator [] hint.toList).map String.ofList

end Attributes

end Pgml
