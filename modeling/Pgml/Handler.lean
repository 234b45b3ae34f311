import Pgml.Desk
import Pgml.Machine

/-! The handlers of a document's elements and the containers that objects are added to. -/
namespace Pgml

/-- Containers that belong to a caller and not to a diagram. -/
inductive TrayKind where
  | collector
  /-- A collector that also takes private data. -/
  | dataCollector
  /-- A collector that takes private data and drops it. -/
  | handler
  /-- Something that takes nothing. -/
  | inert
  deriving DecidableEq, Repr

inductive Container where
  | diagram
  | group (id : ItemId)
  | edge (id : ItemId)
  | tray (kind : TrayKind)
  deriving DecidableEq, Repr

namespace Container

def takesObjects : Container → Bool
  | tray .inert => false
  | _ => true

def takesData : Container → Bool
  | tray .inert | tray .collector => false
  | _ => true

/-- What a container that takes nothing is called. -/
def inertName : String := "object"

end Container

inductive Handler where
  /-- Expects the root element and makes the diagram. -/
  | root
  /-- Takes any root element and names the diagram after it. -/
  | anyRoot
  /-- Ignores the root element. -/
  | noRoot
  /-- Starts to read another document when the root element opens. -/
  | nestedReading
  /-- Takes all elements itself, naming the diagram after the first. -/
  | flat
  /-- Names a diagram after every root element, and pops a frame at character data. -/
  | popping
  | ignore
  | diagram
  /-- Whether the box of a group follows from its children when the element closes. -/
  | group (id : ItemId) (derive : Bool)
  | edge (id : ItemId)
  | text (id : ItemId) (buffer : String)
  | line (id : ItemId)
  | polygon (id : ItemId)
  /-- Passes nested elements on to the container around it and collects private data. -/
  | wrapper (container : Container) (buffer : String)
  deriving DecidableEq, Repr

namespace Handler

/-- The container that a handler of nested objects stands for. -/
def container? : Handler → Option Container
  | diagram => some .diagram
  | group id _ => some (.group id)
  | edge id => some (.edge id)
  | _ => none

def absorb : Handler → String → Handler
  | text id buffer, more => .text id (buffer ++ more)
  | wrapper c buffer, more => .wrapper c (buffer ++ more)
  | h, _ => h

end Handler

namespace Desk

/-- Only a line or a polygon can be the path of an edge, and only the first of them. -/
def addToEdge (edge child : ItemId) : Work Desk Unit := do
  let s ← needShape edge
  let d ← .current
  let refuse := note (.edgeCannotTake s.name (d.kindOf child))
  match s.variant with
  | .edge none connections =>
    if (d.item? child).any Item.isPath then
      updateShape edge fun s => { s with variant := .edge (some child) connections }
    else refuse
  | _ => refuse

/-- An object added to a container that takes objects. -/
def addObject : Container → ItemId → Work Desk Unit
  | .diagram, id => .update (updateDiagram fun g => { g with shapes := g.shapes ++ [id] })
  | .group group, id => addChild group id
  | .edge edge, id => addToEdge edge id
  | .tray .inert, _ => .fail .unable
  | .tray _, id => .update fun d => { d with tray := { d.tray with objects := d.tray.objects ++ [id] } }

/-- The private names that join an edge to a shape. -/
inductive Joint where
  | sourcePort
  | destPort
  | sourceNode
  | destNode
  deriving DecidableEq, Repr

def Joint.ofKey? : String → Option Joint
  | "sourcePortFig" => some .sourcePort
  | "destPortFig" => some .destPort
  | "sourceFigNode" => some .sourceNode
  | "destFigNode" => some .destNode
  | _ => none

def Joint.set (j : Joint) (target : Option ItemId) (c : Connections) : Connections :=
  match j with
  | .sourcePort => { c with sourcePort := target }
  | .destPort => { c with destPort := target }
  | .sourceNode => { c with sourceNode := target }
  | .destNode => { c with destNode := target }

def connect (joint : Joint) (target : Option ItemId) (s : Shape) : Shape :=
  match s.variant with
  | .edge path connections => { s with variant := .edge path (joint.set target connections) }
  | _ => s

def addPrivate (data : List (String × String)) (s : Shape) : Shape :=
  { s with privateData := s.privateData.insertAll data }

/-- One entry of an edge's private data: a connection, or data like any other. -/
def setEdgeEntry (edge : ItemId) (key value : String) : Work Desk Unit := do
  match Joint.ofKey? key with
  | none => updateShape edge (addPrivate [(key, value)])
  | some joint =>
    let d ← .current
    let target := d.names.get? value
    if target.isNone then
      let s ← needShape edge
      note (.edgeUnknown s.name key value)
    updateShape edge (connect joint target)

def setEdgeData (edge : ItemId) : List (String × String) → Work Desk Unit
  | [] => return ()
  | (key, value) :: rest => do
    setEdgeEntry edge key value
    setEdgeData edge rest

/-- Private data given to a container that takes it. -/
def setPrivateData (data : Table String) : Container → Work Desk Unit
  | .diagram =>
    .update (updateDiagram fun g => { g with privateData := g.privateData.insertAll data.entries })
  | .group group => updateShape group (addPrivate data.entries)
  | .edge edge => setEdgeData edge data.entries
  | .tray .dataCollector =>
    .update fun d => { d with tray := { d.tray with data := d.tray.data ++ [data] } }
  | .tray .handler => return ()
  | .tray .collector | .tray .inert => .fail .unable

end Desk

end Pgml
