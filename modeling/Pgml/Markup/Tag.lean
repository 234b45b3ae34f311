import Pgml.Markup.Assignment
import Pgml.Markup.Reference
import Pgml.Markup.Scope

/-! Start and end tags: what stands between their angle brackets. -/
namespace Pgml.Markup

structure Tag where
  name : String
  attributes : List (String × String)
  /-- Whether the element ends right here. -/
  isEmpty : Bool
  deriving DecidableEq, Repr

/-- An attribute with its value. Namespaces are plain text in which ampersands stand for
themselves. -/
def attribute? (skipsUnknown : Bool) (a : Assignment) : Option (String × String) :=
  let rules := ⟨skipsUnknown, (Scope.bound? a.name).isNone⟩
  (attributeValue? rules none a.raw).map fun value => (a.name, String.ofList value)

/-- A start tag, in which no attribute may be given twice. -/
def Tag.parse? (skipsUnknown : Bool) (body : List Char) : Option Tag := do
  let (name, afterName) ← name? body
  let (found, ending) ← assignments? afterName
  let attributes ← found.mapM (attribute? skipsUnknown)
  let counted := attributes.filter fun a => !Scope.bindsNothing a
  if (counted.map (·.1)).Nodup then
    match ending with
    | [] => some ⟨name, attributes, false⟩
    | ['/'] => some ⟨name, attributes, true⟩
    | _ => none
  else none

/-- The name in an end tag. -/
def endTagName? (body : List Char) : Option String :=
  match name? body with
  | some (name, rest) => if rest.all isSpace then some name else none
  | none => none

end Pgml.Markup
