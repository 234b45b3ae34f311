import Pgml.Diagram
import Pgml.Shape.Styling
import Pgml.Types

/-! What the handlers of a document work on: all objects made so far, the names they were
given, the colours in use, the diagram once there is one, and the journal. -/
namespace Pgml

/-- What a container outside of any diagram was given. -/
structure Tray where
  objects : List ItemId
  data : List (Table String)
  deriving DecidableEq, Repr

def Tray.empty : Tray := ⟨[], []⟩

structure Desk where
  items : Array Item
  names : Table ItemId
  colors : Resolver
  diagram : Option Diagram
  tray : Tray
  /-- The newest notice comes first. -/
  journal : List Notice
  deriving DecidableEq, Repr

namespace Desk

def fresh (p : Palette) : Desk := ⟨#[], .empty, .ofPalette p, none, .empty, []⟩

/-- The desk before a document: no objects, names, diagram or colours in use. -/
def cleared (d : Desk) : Desk :=
  { d with items := #[], names := .empty, colors := d.colors.reset, diagram := none }

def notices (d : Desk) : List Notice := d.journal.reverse

def item? (d : Desk) (id : ItemId) : Option Item := d.items[id.index]?

def shape? (d : Desk) (id : ItemId) : Option Shape :=
  match d.item? id with
  | some (.shape s) => some s
  | _ => none

def kindOf (d : Desk) (id : ItemId) : String :=
  match d.item? id with
  | some item => item.kind
  | none => ""

def setShape (d : Desk) (id : ItemId) (s : Shape) : Desk :=
  { d with items := d.items.setIfInBounds id.index (.shape s) }

def addNotices (notices : List Notice) (d : Desk) : Desk :=
  { d with journal := notices.reverse ++ d.journal }

def updateDiagram (f : Diagram → Diagram) (d : Desk) : Desk :=
  { d with diagram := d.diagram.map f }

/-! ## Work at the desk -/

def note (n : Notice) : Work Desk Unit := .update (addNotices [n])

/-- The objects of a drawing put on the desk; the answer is the place of the first. -/
def place (drawing : Drawing) : Work Desk ItemId := fun d =>
  let size := d.items.size
  (.ok ⟨size⟩, { d with items := d.items ++ (drawing.items.map (·.shift size)).toArray })

def placeShape (s : Shape) : Work Desk ItemId := place (.ofShape s)

/-- The shape in a place; an object that is no shape has nothing to offer. -/
def needShape (id : ItemId) : Work Desk Shape := fun d =>
  match d.shape? id with
  | some s => (.ok s, d)
  | none => (.error .unable, d)

def updateShape (id : ItemId) (f : Shape → Shape) : Work Desk Unit := do
  let s ← needShape id
  .update (·.setShape id (f s))

/-- The shape changed by something that not all shapes can do. -/
def tryShape (id : ItemId) (f : Shape → Option Shape) : Work Desk Unit := do
  let s ← needShape id
  match f s with
  | some t => .update (·.setShape id t)
  | none => .fail .unable

def setBounds (id : ItemId) (b : Bounds) : Work Desk Unit := updateShape id (·.withBounds b)

def addPoint (id : ItemId) (x y : Int) : Work Desk Unit := tryShape id (·.addPoint? x y)
def setStart (id : ItemId) (x y : Int) : Work Desk Unit := tryShape id (·.setStart? x y)
def setEnd (id : ItemId) (x y : Int) : Work Desk Unit := tryShape id (·.setEnd? x y)

/-- A group with one more child. -/
def addChild? (child : ItemId) (s : Shape) : Option Shape :=
  match s.variant with
  | .group children plan => some { s with variant := .group (children ++ [child]) plan }
  | _ => none

def addChild (id child : ItemId) : Work Desk Unit := tryShape id (addChild? child)

/-- The boxes of some objects, all of which have to be shapes. -/
def boundsOf (ids : List ItemId) : Work Desk (List Bounds) :=
  ids.mapM fun id => do return (← needShape id).bounds

/-- The box that follows from what a shape consists of. A group without children keeps its
box; a polygon without points has none. -/
def calcBounds (id : ItemId) : Work Desk Unit := do
  let s ← needShape id
  match s.variant with
  | .group children _ =>
    match Bounds.union? (← boundsOf children) with
    | some b => setBounds id b
    | none => return ()
  | .polygon [] => .fail .noPoints
  | .polygon (first :: rest) => setBounds id (.around first rest)
  | .line x1 y1 x2 y2 => setBounds id (.spanned x1 y1 x2 y2)
  | _ => .fail .unable

def registerName (name : String) (id : ItemId) : Work Desk Unit :=
  .update fun d => { d with names := d.names.insert name id }

/-- Work on the look of a shape on the desk. -/
def style (id : ItemId) (w : Work Styling Unit) : Work Desk Unit := fun d =>
  match d.shape? id with
  | none => (.error .unable, d)
  | some s =>
    let (result, styling) := w ⟨s, d.colors, d.journal⟩
    (result, { d.setShape id styling.shape with colors := styling.colors, journal := styling.journal })

/-- The document's diagram, which can be set only once. -/
def setDiagram (diagram : Diagram) : Work Desk Unit := fun d =>
  match d.diagram with
  | some _ => (.error (.misuse .diagramSet), d)
  | none => (.ok (), { d with diagram := some diagram })

end Desk

end Pgml
