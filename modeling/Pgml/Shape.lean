import Pgml.Bounds
import Pgml.Color
import Pgml.Table
import Pgml.Value

/-! Shapes of a diagram. A shape has a box, a style, a name if it was given one, an owner in
an external model if it refers to one, private data, and what its kind adds. Shapes refer
to one another by `ItemId`, so that a shape in a group, the same shape under its name and
the same shape at the end of an edge are one object. -/
namespace Pgml

/-- The number of an object, counted in the order in which objects came to be. -/
structure ItemId where
  index : Nat
  deriving DecidableEq, Repr

structure Style where
  lineWidth : Int
  lineColor : Color
  filled : Bool
  fillColor : Color
  dashed : Bool
  visible : Bool
  context : String
  single : String
  deriving DecidableEq, Repr

def Style.initial : Style :=
  ⟨1, .black, true, .white, false, true, "", ""⟩

/-- What a self-dispatching group leaves its element to. -/
inductive Successor where
  | nothing
  | ignore
  | group
  | wrapper
  /-- The usual dispatch of the element, as if it had no type hint. -/
  | redispatch
  deriving DecidableEq, Repr

/-- How a self-dispatching group handles the element that names it: it may take the common
attributes, it may attach itself to the container, and then it names a successor. -/
structure Plan where
  attach : Bool
  style : Bool
  successor : Successor
  deriving DecidableEq, Repr

/-- What joins an edge to other shapes. -/
structure Connections where
  sourcePort : Option ItemId
  destPort : Option ItemId
  sourceNode : Option ItemId
  destNode : Option ItemId
  deriving DecidableEq, Repr

def Connections.none : Connections := ⟨.none, .none, .none, .none⟩

inductive Variant where
  /-- A shape of no particular kind. -/
  | bare
  /-- A group, which dispatches its element itself if it has a plan. -/
  | group (children : List ItemId) (plan : Option Plan)
  | text (content family : String) (size : Int)
  | rectangle
  | roundedRectangle (radius : Int)
  | ellipse
  | polygon (points : List (Int × Int))
  | line (x1 y1 x2 y2 : Int)
  | edge (path : Option ItemId) (connections : Connections)
  deriving DecidableEq, Repr

namespace Variant

def emptyGroup : Variant := .group [] none
def emptyText : Variant := .text "" "dialog" 10
def emptyRounded : Variant := .roundedRectangle 16
def emptyPolygon : Variant := .polygon []
def emptyEdge : Variant := .edge none .none

/-- The name of a kind of shape. -/
def kind : Variant → String
  | bare => "Shape"
  | group _ none => "Group"
  | group _ (some _) => "Widget"
  | text .. => "Text"
  | rectangle => "Rectangle"
  | roundedRectangle _ => "RoundedRectangle"
  | ellipse => "Ellipse"
  | polygon _ => "Polygon"
  | line .. => "Line"
  | edge .. => "Edge"

/-- The shapes drawn as parts of a shape: the children of a group, the path of an edge. -/
def parts : Variant → List ItemId
  | group children _ => children
  | edge path _ => path.toList
  | _ => []

end Variant

structure Shape where
  bounds : Bounds
  style : Style
  name : Option String
  owner : Option Value
  privateData : Table String
  variant : Variant
  deriving DecidableEq, Repr

namespace Shape

/-- A shape of a kind with nothing else set. -/
def ofVariant (v : Variant) : Shape := ⟨.zero, .initial, none, none, .empty, v⟩

/-- A shape of a kind and a size at the origin. -/
def sized (v : Variant) (width height : Int) : Shape :=
  { ofVariant v with bounds := ⟨0, 0, width, height⟩ }

def kind (s : Shape) : String := s.variant.kind

def withBounds (s : Shape) (b : Bounds) : Shape := { s with bounds := b }

/-- A polygon with one more point, its box around all points. -/
def addPoint? (s : Shape) (x y : Int) : Option Shape :=
  match s.variant with
  | .polygon points =>
    let more := points ++ [(x, y)]
    match more with
    | first :: rest => some { s with variant := .polygon more, bounds := .around first rest }
    | [] => none
  | _ => none

/-- A line that begins elsewhere, its box spanned by its ends. -/
def setStart? (s : Shape) (x y : Int) : Option Shape :=
  match s.variant with
  | .line _ _ x2 y2 => some { s with variant := .line x y x2 y2, bounds := .spanned x y x2 y2 }
  | _ => none

/-- A line that ends elsewhere, its box spanned by its ends. -/
def setEnd? (s : Shape) (x y : Int) : Option Shape :=
  match s.variant with
  | .line x1 y1 _ _ => some { s with variant := .line x1 y1 x y, bounds := .spanned x1 y1 x y }
  | _ => none

end Shape

/-- An object that a type makes: a shape, or a thing that has a kind and no abilities. -/
inductive Item where
  | shape (s : Shape)
  | thing (kind : String)
  deriving DecidableEq, Repr

namespace Item

def kind : Item → String
  | shape s => s.kind
  | thing kind => kind

def parts : Item → List ItemId
  | shape s => s.variant.parts
  | thing _ => []

/-- Whether the object can be drawn as the path of an edge. -/
def isPath : Item → Bool
  | shape s =>
    match s.variant with
    | .line .. | .polygon _ => true
    | _ => false
  | thing _ => false

def name? : Item → Option String
  | shape s => s.name
  | thing _ => none

end Item

end Pgml
