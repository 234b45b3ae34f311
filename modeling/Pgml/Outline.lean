import Pgml.Diagram
import Pgml.Fault

/-! The outline of a drawing: all objects from the top down, every object before its parts
and the parts from first to last. The place of an object is the path of part numbers that
leads to it. -/
namespace Pgml

/-- Where an outline meets an object. -/
structure Place where
  path : List Nat
  id : ItemId
  item : Item
  deriving DecidableEq, Repr

/-- How many objects lie around the place. -/
def Place.depth (p : Place) : Nat := p.path.length - 1

namespace Outline

/-- The places of some objects and of their parts, at most some levels deep. -/
def walk (items : Array Item) : (levels : Nat) → (path : List Nat) → List ItemId → List Place
  | 0, _, _ => []
  | levels + 1, path, ids => ids.zipIdx.flatMap fun (id, i) =>
    match items[id.index]? with
    | some item => ⟨path ++ [i], id, item⟩ :: walk items levels (path ++ [i]) item.parts
    | none => []

/-- The outline of some objects. An object comes to be before its parts, so there are no
more levels than objects. -/
def ofObjects (items : Array Item) (ids : List ItemId) : List Place :=
  walk items items.size [] ids

/-- The first place of an object. -/
def pathOf? (outline : List Place) (id : ItemId) : Option (List Nat) :=
  (outline.find? fun p => p.id == id).map (·.path)

/-! ## The outline as text -/

/-- An integer, which may have too many digits to be written. -/
def numeral (n : Int) : Except Fault String :=
  if Number.isWritable n then .ok (Number.decimal n) else .error .numeralTooLong

def tuple (ns : List Int) : Except Fault String := do
  return "(" ++ ", ".intercalate (← ns.mapM numeral) ++ ")"

def boxText (b : Bounds) : Except Fault String := tuple [b.x, b.y, b.width, b.height]

/-- What an edge is joined to: a name, which may be missing, or nothing. -/
def nodeText (items : Array Item) : Option ItemId → Except Fault String
  | none => .ok "?"
  | some id =>
    match items[id.index]? with
    | some (.shape s) => .ok (nameText s.name)
    | _ => .error .unable

/-- What the kind of a shape adds to its description. -/
def variantParts (items : Array Item) : Variant → Except Fault (List String)
  | .roundedRectangle radius => do return ["radius=" ++ (← numeral radius)]
  | .text content .. => .ok (if content == "" then [] else [Text.quoted content])
  | .line x1 y1 x2 y2 => do return [(← tuple [x1, y1]) ++ " -> " ++ (← tuple [x2, y2])]
  | .polygon points => .ok ["points=" ++ Number.decimal points.length]
  | .edge _ connections => do
    let source ← nodeText items connections.sourceNode
    let dest ← nodeText items connections.destNode
    return [source ++ " -> " ++ dest]
  | .bare | .group .. | .rectangle | .ellipse => .ok []

def nameParts (s : Shape) : List String :=
  match s.name with
  | none | some "" => []
  | some name => [name]

def ownerParts (s : Shape) : Except Fault (List String) :=
  match s.owner with
  | none | some (.scalar .null) => .ok []
  | some owner => if owner.isWritable then .ok ["owner=" ++ owner.plainText] else .error .numeralTooLong

/-- One line on an object, which has to be a shape. -/
def describe (items : Array Item) : Item → Except Fault String
  | .thing _ => .error .unable
  | .shape s => do
    let box ← boxText s.bounds
    let added ← variantParts items s.variant
    let hidden := if s.style.visible then [] else ["hidden"]
    return " ".intercalate ([s.kind] ++ nameParts s ++ [box] ++ added ++ hidden ++ (← ownerParts s))

def repeated (indent : String) (n : Nat) : String := "".intercalate (List.replicate n indent)

def lineText (items : Array Item) (indent : String) (p : Place) : Except Fault String :=
  (describe items p.item).map (repeated indent (p.depth + 1) ++ ·)

def heading (g : Diagram) : String :=
  let kind := match g.kind with
    | none | some "" => "untyped"
    | some kind => kind
  "Diagram " ++ g.name ++ " (" ++ kind ++ ")"

/-- A heading and one line for each place, indented by its depth. -/
def text (items : Array Item) (g : Diagram) (indent : String) : Except Fault String := do
  let lines ← (ofObjects items g.shapes).mapM (lineText items indent)
  return "\n".intercalate (heading g :: lines)

def count (items : Array Item) (g : Diagram) : Nat := (ofObjects items g.shapes).length

end Outline

end Pgml
