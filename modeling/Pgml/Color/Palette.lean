import Pgml.Color.Notation
import Pgml.Table
import Pgml.Text.Lower

/-! Names of colours. A palette has the built-in names and the extra ones of a
configuration, all in lower case; `describe?` is what a text means under a palette. -/
namespace Pgml

structure Palette where
  names : Table Color
  deriving DecidableEq, Repr

namespace Palette

def builtinNames : List (String × Color) := [
  ("black", .black),
  ("blue", .pureBlue),
  ("cyan", ⟨0, 255, 255⟩),
  ("darkgray", ⟨64, 64, 64⟩),
  ("darkgrey", ⟨64, 64, 64⟩),
  ("gray", ⟨128, 128, 128⟩),
  ("grey", ⟨128, 128, 128⟩),
  ("green", ⟨0, 255, 0⟩),
  ("lightgray", ⟨192, 192, 192⟩),
  ("lightgrey", ⟨192, 192, 192⟩),
  ("magenta", ⟨255, 0, 255⟩),
  ("orange", ⟨255, 200, 0⟩),
  ("pink", ⟨255, 175, 175⟩),
  ("red", ⟨255, 0, 0⟩),
  ("white", .white),
  ("yellow", ⟨255, 255, 0⟩)]

def builtin : Palette := ⟨Table.ofList builtinNames⟩

/-- An extra name whose colour is not understood. -/
structure BadColor where
  name : String
  value : String
  deriving DecidableEq, Repr

def BadColor.message (e : BadColor) : String := "Cannot parse colour " ++ e.name ++ "=" ++ e.value

/-- Extra names are added one by one; of names that are equal in lower case the last wins. -/
def addAll (p : Palette) : List (String × String) → Except BadColor Palette
  | [] => .ok p
  | (name, value) :: rest =>
    match Color.parse? value with
    | some color => addAll ⟨p.names.insert (Text.lower name) color⟩ rest
    | none => .error ⟨name, value⟩

def withExtra (extra : List (String × String)) : Except BadColor Palette := builtin.addAll extra

/-- The colour of a text: a name in any case, or one of the other notations. -/
def describe? (p : Palette) (value : String) : Option Color :=
  match p.names.get? (Text.lower value) with
  | some color => some color
  | none => Color.parse? value

end Palette

end Pgml
