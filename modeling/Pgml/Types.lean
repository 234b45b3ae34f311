import Pgml.Notice
import Pgml.Shape

/-! Types that a type hint can name. A type is a recipe for an object; registering a recipe
under a known name replaces the one before. -/
namespace Pgml

/-- An object and the objects it consists of, the object itself first. They refer to one
another by their places in the list. -/
structure Drawing where
  items : List Item
  deriving DecidableEq, Repr

def ItemId.shift (offset : Nat) (id : ItemId) : ItemId := ⟨id.index + offset⟩

def Connections.shift (offset : Nat) (c : Connections) : Connections :=
  ⟨c.sourcePort.map (·.shift offset), c.destPort.map (·.shift offset),
    c.sourceNode.map (·.shift offset), c.destNode.map (·.shift offset)⟩

def Variant.shift (offset : Nat) : Variant → Variant
  | .group children plan => .group (children.map (·.shift offset)) plan
  | .edge path connections => .edge (path.map (·.shift offset)) (connections.shift offset)
  | v => v

def Item.shift (offset : Nat) : Item → Item
  | .shape s => .shape { s with variant := s.variant.shift offset }
  | .thing kind => .thing kind

namespace Drawing

instance : Inhabited Drawing := ⟨⟨[]⟩⟩

def ofItem (item : Item) : Drawing := ⟨[item]⟩

def ofShape (s : Shape) : Drawing := ofItem (.shape s)

/-- The items of drawings laid one behind the other from a place on, and the place of each
drawing. -/
def layOut (place : Nat) : List Drawing → List ItemId × List Item
  | [] => ([], [])
  | d :: rest =>
    let (ids, items) := layOut (place + d.items.length) rest
    (⟨place⟩ :: ids, d.items.map (·.shift place) ++ items)

/-- An object over its parts: it is given the places at which the parts come to lie. -/
def withParts (parts : List Drawing) (make : List ItemId → Item) : Drawing :=
  let (ids, items) := layOut 1 parts
  ⟨make ids :: items⟩

end Drawing

inductive Recipe where
  | drawing (d : Drawing)
  /-- An empty group that dispatches its element itself. -/
  | widget (plan : Plan)
  /-- A recipe that fails for a reason. -/
  | failing (reason : String)
  /-- Whatever the built-in type of this name is, if there is one. -/
  | borrowed (id : String)
  deriving DecidableEq, Repr

abbrev TypeTable := Table Recipe

namespace TypeTable

/-- There is no sensible empty line, so a new one is short and diagonal. -/
def newLine : Shape := Shape.sized (.line 0 0 10 10) 10 10

def builtinShape (v : Variant) : Recipe := .drawing (.ofShape (.ofVariant v))

def builtinEntries : List (String × Recipe) := [
  ("group", builtinShape .emptyGroup),
  ("text", builtinShape .emptyText),
  ("line", .drawing (.ofShape newLine)),
  ("polygon", builtinShape .emptyPolygon),
  ("rectangle", builtinShape .rectangle),
  ("rounded_rectangle", builtinShape .emptyRounded),
  ("ellipse", builtinShape .ellipse),
  ("edge", builtinShape .emptyEdge)]

def builtin : TypeTable := Table.ofList builtinEntries

/-- The built-in types, replaced and followed by others. -/
def withExtra (extra : List (String × Recipe)) : TypeTable := builtin.insertAll extra

end TypeTable

/-- The types with one more, and what there is to report if it replaces one. -/
def TypeTable.register (types : TypeTable) (id : String) (recipe : Recipe) : TypeTable × List Notice :=
  (Table.insert types id recipe, if Table.contains types id then [.replacedType id] else [])

/-- What a recipe makes, or why it makes nothing. -/
def Recipe.build : Recipe → Except String Drawing
  | .drawing d => .ok d
  | .widget plan => .ok (.ofShape (.ofVariant (.group [] (some plan))))
  | .failing reason => .error reason
  | .borrowed id =>
    match TypeTable.builtin.get? id with
    | some (.drawing d) => .ok d
    | _ => .error (Fault.unknownType id).message

/-- What a type makes. A recipe that fails is reported as such, whatever its reason. -/
def TypeTable.create (types : TypeTable) (id : String) : Except Fault Drawing :=
  match types.get? id with
  | none => .error (.unknownType id)
  | some recipe =>
    match recipe.build with
    | .ok d => .ok d
    | .error reason => .error (.construction id reason)

end Pgml
