import Pgml.Configuration
import Pgml.Handler
import Pgml.Number.Floating
import Pgml.PrivateData

/-! What the elements of a document mean. An element's type hint may make an object, which
either dispatches the element itself or is offered to the rule of the element's name. A rule
answers with the handler of the element's content, or declines an object that does not
suit it; then, and for all other names, the element is unrecognized. -/
namespace Pgml

/-- What handlers consult and never change. -/
structure Setup where
  config : Configuration
  owners : Table Value
  types : TypeTable
  translations : Table String
  defaults : ColorDefaults
  deriving DecidableEq, Repr

namespace Setup

/-- The owner of an id; the null value owns nothing. -/
def owner? (s : Setup) (id : String) : Option Value :=
  (s.owners.get? id).filter fun v => !v.isNull

def translate (s : Setup) (name : String) : String := (s.translations.get? name).getD name

end Setup

/-- The answer of an element rule. -/
inductive Verdict where
  | handled (content : Option Handler)
  | declined
  deriving DecidableEq, Repr

/-- An object that a type hint made, as it was made. -/
structure Hinted where
  id : ItemId
  item : Item
  deriving DecidableEq, Repr

namespace Vocabulary

open Desk

def setName (id : ItemId) (as : Attributes) : Work Desk Unit := do
  match as.value? "name" with
  | none => return ()
  | some name =>
    updateShape id fun s => { s with name := some name }
    registerName name id

def setOwner (setup : Setup) (id : ItemId) (as : Attributes) : Work Desk Unit := do
  match as.value? "href" with
  | none => return ()
  | some href =>
    match setup.owner? href with
    | none => .fail (.noOwner href)
    | some owner => updateShape id fun s => { s with owner := some owner }

/-- Name, common attributes and owner of a shape. -/
def setAttributes (setup : Setup) (id : ItemId) (as : Attributes) : Work Desk Unit := do
  setName id as
  style id (Styling.setCommon setup.defaults as)
  setOwner setup id as

/-- The object that a type hint's first token names. -/
def createHinted (setup : Setup) (type hint : String) : Work Desk (Option Hinted) :=
  match setup.types.create (setup.translate type) with
  | .ok drawing => do
    let id ← place drawing
    return (← .current).item? id |>.map (⟨id, ·⟩)
  | .error (.unknownType _) => do
    note (.unavailableType hint)
    return none
  | .error fault => .fail fault

def attach (c : Container) (id : ItemId) : Work Desk Unit := do
  if c.takesObjects then addObject c id
  else
    let d ← .current
    note (.cannotAdd (d.kindOf id) Container.inertName)

/-- A hinted object that does not suit a rule. -/
def decline (rule : RuleName) (item : Item) : Work Desk Verdict := do
  note (.unsuitable rule item.kind)
  return .declined

/-- The box in the tokens of a type hint. -/
def hintBounds (geometry : List String) : Except Fault Bounds :=
  match geometry with
  | x :: y :: width :: height :: _ => do
    let x ← Attributes.toInt x "group geometry"
    let y ← Attributes.toInt y "group geometry"
    let width ← Attributes.toInt width "group geometry"
    let height ← Attributes.toInt height "group geometry"
    return ⟨x, y, width, height⟩
  | _ => .error (.malformed (.shortGeometry geometry))

/-- A group whose type hint holds a box gets that box. Without it and without an `x` the box
follows from the children. -/
def groupRule (setup : Setup) (c : Container) (as : Attributes) (hinted : Option Hinted)
    (geometry : List String) : Work Desk Verdict :=
  match hinted with
  | none => return .declined
  | some ⟨id, item⟩ =>
    match item with
    | .shape { variant := .group .., .. } => do
      attach c id
      setAttributes setup id as
      if !geometry.isEmpty then
        setBounds id (← .settle (hintBounds geometry))
      return .handled (some (.group id (geometry.isEmpty && (as.value? "x").isNone)))
    | .shape { variant := .edge .., .. } => do
      setAttributes setup id as
      attach c id
      return .handled (some (.edge id))
    | item => decline .group item

def setFont (id : ItemId) (as : Attributes) : Work Desk Unit := do
  match as.value? "font" with
  | none => return ()
  | some font =>
    updateShape id fun s =>
      match s.variant with
      | .text content _ size => { s with variant := .text content font size }
      | _ => s

def setFontSize (id : ItemId) (as : Attributes) : Work Desk Unit := do
  match ← .settle (as.int? "textsize") with
  | none => return ()
  | some size =>
    updateShape id fun s =>
      match s.variant with
      | .text content family _ => { s with variant := .text content family size }
      | _ => s

def handleText (setup : Setup) (c : Container) (as : Attributes) (id : ItemId) : Work Desk Verdict := do
  setAttributes setup id as
  attach c id
  setFont id as
  setFontSize id as
  return .handled (some (.text id ""))

def textRule (setup : Setup) (c : Container) (as : Attributes) : Option Hinted → Work Desk Verdict
  | none => do
    handleText setup c as (← placeShape (.sized .emptyText 100 100))
  | some ⟨id, item⟩ =>
    match item with
    | .shape { variant := .text .., .. } => handleText setup c as id
    | item => decline .text item

/-- A path is a polygon unless its type hint says that it is a line. -/
def pathRule (setup : Setup) (c : Container) (as : Attributes) : Option Hinted → Work Desk Verdict
  | none => do
    let id ← placeShape (.ofVariant .emptyPolygon)
    setAttributes setup id as
    attach c id
    return .handled (some (.polygon id))
  | some ⟨id, item⟩ =>
    match item with
    | .shape { variant := .line .., .. } => do
      setAttributes setup id as
      attach c id
      return .handled (some (.line id))
    | .shape { variant := .polygon _, .. } => do
      setAttributes setup id as
      attach c id
      return .handled (some (.polygon id))
    | item => decline .path item

/-- A private element belongs to the container around it; an object made for it is lost. -/
def privateRule (c : Container) (hinted : Option Hinted) : Work Desk Verdict := do
  match hinted with
  | none => pure ()
  | some ⟨_, item⟩ => note (.privateInstance item.kind)
  if c.takesObjects then return .handled (some (.wrapper c ""))
  else
    note (.privateContainer Container.inertName)
    return .declined

def handleRectangle (setup : Setup) (c : Container) (as : Attributes) (id : ItemId) :
    Work Desk Verdict := do
  setAttributes setup id as
  attach c id
  return .handled none

def setRadius (radius : Int) (s : Shape) : Shape :=
  match s.variant with
  | .roundedRectangle _ => { s with variant := .roundedRectangle radius }
  | _ => s

/-- A rounding makes the rectangle a rounded one, or sets the radius of a hinted one. Any
hinted shape will do. -/
def rectangleRule (setup : Setup) (c : Container) (as : Attributes) (hinted : Option Hinted) :
    Work Desk Verdict := do
  let rounding ← .settle (as.int "rounding" (-1))
  match hinted with
  | none =>
    let variant := if 0 ≤ rounding then Variant.roundedRectangle rounding else .rectangle
    handleRectangle setup c as (← placeShape (.sized variant 80 80))
  | some ⟨id, item⟩ =>
    match item with
    | .shape _ =>
      if 0 ≤ rounding then updateShape id (setRadius rounding)
      handleRectangle setup c as id
    | .thing _ => return .declined

/-- The box of an ellipse lies around its centre, the place given by the attributes. -/
def handleEllipse (setup : Setup) (c : Container) (as : Attributes) (id : ItemId) :
    Work Desk Verdict := do
  setAttributes setup id as
  let rx ← .settle (as.int "rx" setup.config.ellipseRadius)
  let ry ← .settle (as.int "ry" setup.config.ellipseRadius)
  updateShape id fun s => s.withBounds ⟨s.bounds.x - rx, s.bounds.y - ry, rx * 2, ry * 2⟩
  attach c id
  return .handled none

def ellipseRule (setup : Setup) (c : Container) (as : Attributes) : Option Hinted → Work Desk Verdict
  | none => do
    handleEllipse setup c as (← placeShape (.sized .ellipse 50 50))
  | some ⟨id, item⟩ =>
    match item with
    | .shape { variant := .ellipse, .. } => handleEllipse setup c as id
    | item => decline .ellipse item

/-- The rule of an element's name. -/
def rule (setup : Setup) (c : Container) (name : String) (as : Attributes) (hinted : Option Hinted)
    (geometry : List String) : Work Desk Verdict :=
  match name with
  | "group" => groupRule setup c as hinted geometry
  | "text" => textRule setup c as hinted
  | "path" => pathRule setup c as hinted
  | "line" => pathRule setup c as hinted
  | "private" => privateRule c hinted
  | "rectangle" => rectangleRule setup c as hinted
  | "ellipse" => ellipseRule setup c as hinted
  | _ => return .declined

/-- An unrecognized element still adds the object that its type hint made. -/
def addUnrecognized (setup : Setup) (c : Container) (name : String) (as : Attributes)
    (hinted : Option Hinted) : Work Desk Unit := do
  note (.unrecognized name)
  match hinted with
  | none => return ()
  | some ⟨id, item⟩ =>
    match item with
    | .shape _ => setAttributes setup id as
    | .thing _ => pure ()
    attach c id

/-- An element without an object that dispatches it. -/
def applyRule (setup : Setup) (c : Container) (name : String) (as : Attributes)
    (hinted : Option Hinted) (geometry : List String) : Work Desk (Option Handler) := do
  match ← rule setup c name as hinted geometry with
  | .handled content => return content
  | .declined =>
    addUnrecognized setup c name as hinted
    return none

def dispatchUnhinted (setup : Setup) (c : Container) (name : String) (as : Attributes) :
    Work Desk (Option Handler) :=
  applyRule setup c name as none []

/-- An element whose object dispatches it by its own plan. -/
def takeOver (setup : Setup) (c : Container) (name : String) (as : Attributes) (id : ItemId)
    (plan : Plan) : Work Desk (Option Handler) := do
  if plan.style then setAttributes setup id as
  if plan.attach then addObject c id
  match plan.successor with
  | .nothing => return none
  | .ignore => return some .ignore
  | .group => return some (.group id true)
  | .wrapper => return some (.wrapper c "")
  | .redispatch => dispatchUnhinted setup c name (as.without setup.config.hintAttribute)

/-- The plan of an object that dispatches its element itself. -/
def Hinted.plan? (h : Hinted) : Option Plan :=
  match h.item with
  | .shape { variant := .group _ plan, .. } => plan
  | _ => none

/-- The handler of an element's content, found by its type hint and its name. -/
def dispatch (setup : Setup) (c : Container) (name : String) (as : Attributes) :
    Work Desk (Option Handler) :=
  match as.value? setup.config.hintAttribute with
  | none => dispatchUnhinted setup c name as
  | some hint =>
    match Attributes.hintTokens hint with
    | [] => do
      note (.emptyHint hint name)
      dispatchUnhinted setup c name as
    | type :: geometry => do
      let hinted ← createHinted setup type hint
      match hinted.bind fun h => (Hinted.plan? h).map (h.id, ·) with
      | some (id, plan) => takeOver setup c name as id plan
      | none => applyRule setup c name as hinted geometry

/-! ## Points of lines and polygons -/

def point (name : String) (as : Attributes) : Except Fault (Int × Int) :=
  match as.value? "x", as.value? "y" with
  | some x, some y => do
    let x ← Attributes.toInt x "x"
    let y ← Attributes.toInt y "y"
    return (x, y)
  | _, _ => .error (.malformed (.incompletePoint name))

def startInLine (id : ItemId) (name : String) (as : Attributes) : Work Desk Unit :=
  match name with
  | "moveto" => do
    let (x, y) ← .settle (point name as)
    setStart id x y
  | "lineto" => do
    let (x, y) ← .settle (point name as)
    setEnd id x y
  | _ => note (.unrecognizedInLine name)

def startInPath (id : ItemId) (name : String) (as : Attributes) : Work Desk Unit :=
  if name == "moveto" || name == "lineto" then do
    let (x, y) ← .settle (point name as)
    addPoint id x y
  else note (.unrecognizedInPath name)

/-! ## Root elements and ends -/

/-- The text before the first vertical bar. -/
def beforeBar (s : String) : String := String.ofList (s.toList.takeWhile (· != '|'))

def rootScale (value : Option String) : Except Fault Number.Binary64 :=
  match value with
  | none | some "" => .ok .one
  | some text =>
    match Number.readFloating? text.toList with
    | some x => .ok x
    | none => .error (.malformed (.badScale text))

/-- The diagram of a root element. Its name, type hint and scale have fields of their own;
where two of these are one attribute, the first of them takes it. -/
def rootDiagram (hintAttribute : String) (as : Attributes) : Except Fault Diagram := do
  let afterName := as.without "name"
  let afterHint := afterName.without hintAttribute
  let hint := (afterName.raw? hintAttribute).filter (· != "")
  let scale ← rootScale (afterHint.raw? "scale")
  return {
    name := (as.raw? "name").getD ""
    kind := hint.map beforeBar
    scale := scale
    attributes := Table.ofList (afterHint.without "scale")
    privateData := .empty
    shapes := [] }

def startRoot (setup : Setup) (name : String) (as : Attributes) : Work Desk Handler := do
  if name = setup.config.rootElement then
    let diagram ← .settle (rootDiagram setup.config.hintAttribute as)
    note (.readingDiagram diagram.name diagram.kind)
    setDiagram diagram
    return .diagram
  else .fail (.malformed (.wrongRoot setup.config.rootElement name))

/-- Line ends at both ends of a text do not belong to it. -/
def textContent (s : String) : String :=
  String.ofList (Text.trimList (fun c => c == '\r' || c == '\n') s.toList)

def setContent (content : String) (s : Shape) : Shape :=
  match s.variant with
  | .text _ family size => { s with variant := .text content family size }
  | _ => s

def endWrapper (c : Container) (buffer : String) : Work Desk Unit := do
  let data := PrivateData.parse buffer
  if data.isEmpty then return ()
  else if c.takesData then setPrivateData data c
  else note (.droppedData data)

end Vocabulary

instance : Workspace Desk where
  cleared := Desk.cleared
  diagram := Desk.diagram
  abandoned d := { d with diagram := none }
  note n := Desk.addNotices [n]
  diagram_cleared _ := rfl
  diagram_abandoned _ := rfl

namespace Handler

open Vocabulary

def startElement (setup : Setup) (reading : Step Handler Desk Unit) (h : Handler) (name : String)
    (as : Attributes) : Step Handler Desk (Option Handler) :=
  match h with
  | .root => Machine.onWork do return some (← startRoot setup name as)
  | .anyRoot => Machine.onWork do
    Desk.setDiagram (.named name)
    return some .diagram
  | .noRoot => return none
  | .nestedReading => do
    reading
    return none
  | .flat => Machine.onWork do
    if (← .current).diagram.isNone then Desk.setDiagram (.named name)
    return some .flat
  | .popping => Machine.onWork do
    Desk.setDiagram (.named name)
    return none
  | .ignore | .text .. => return none
  | .diagram => Machine.onWork (dispatch setup .diagram name as)
  | .group id _ => Machine.onWork (dispatch setup (.group id) name as)
  | .edge id => Machine.onWork (dispatch setup (.edge id) name as)
  | .line id => Machine.onWork do
    startInLine id name as
    return none
  | .polygon id => Machine.onWork do
    startInPath id name as
    return none
  | .wrapper c _ => Machine.onWork (dispatch setup c name as)

def characters (h : Handler) (_text : String) : Step Handler Desk Unit :=
  match h with
  | .popping => do
    let _ ← Machine.pop
  | _ => return ()

def endElement (h : Handler) (_name : String) : Step Handler Desk Unit :=
  match h with
  | .group id true => Machine.onWork (Desk.calcBounds id)
  | .text id buffer => Machine.onWork (Desk.updateShape id (setContent (textContent buffer)))
  | .wrapper c buffer => Machine.onWork (endWrapper c buffer)
  | _ => return ()

/-- The behaviour of all handlers; `reading` is what a handler does that starts to read
another document. -/
def behaviourWith (setup : Setup) (reading : Step Handler Desk Unit) : Behaviour Handler Desk where
  startElement := startElement setup reading
  absorb := absorb
  characters := characters
  endElement := endElement
  ignore := .ignore

/-- A document with nothing but its root element. -/
def innerDocument : Feed := .ofEvents [.start "pgml" [], .finish "pgml"]

/-- An inner reading of a document, as handlers can start it. -/
def innerReading (setup : Setup) : Step Handler Desk Unit := do
  let _ ← (behaviourWith setup (return ())).parse .root innerDocument

def behaviour (setup : Setup) : Behaviour Handler Desk := behaviourWith setup (innerReading setup)

end Handler

end Pgml
