import Pgml.Vocabulary

/-! Readers of documents. A reader has a setup, which documents never change, and a machine,
which keeps what is left of the last document: its diagram, the names of its shapes and the
colours it used. -/
namespace Pgml

structure Reader where
  setup : Setup
  machine : Machine Handler Desk
  deriving DecidableEq, Repr

namespace Reader

/-- A reader that has read nothing yet. The default colours are resolved here and stay in
use until the first document is read. -/
def build (config : Configuration) (owners : Table Value) (types : TypeTable) :
    Except Palette.BadColor Reader := do
  let palette ← Palette.withExtra config.colors.entries
  let (stroke, colors, onStroke) := (Resolver.ofPalette palette).resolve config.strokeColor .pureBlue
  let (fill, colors, onFill) := colors.resolve config.fillColor .white
  let desk := { Desk.fresh palette with colors := colors, journal := onFill ++ onStroke }
  return ⟨⟨config, owners, types, config.translations, ⟨stroke, fill⟩⟩, ⟨[], false, desk⟩⟩

def desk (r : Reader) : Desk := r.machine.work

def diagram? (r : Reader) : Option Diagram := r.desk.diagram

def depth (r : Reader) : Nat := r.machine.depth

/-- A step of the machine. -/
def onMachine {α : Type} (step : Step Handler Desk α) : Work Reader α :=
  .within (·.machine) (fun m r => { r with machine := m }) step

def onDesk {α : Type} (w : Work Desk α) : Work Reader α := onMachine (Machine.onWork w)

def updateSetup (f : Setup → Setup) : Work Reader Unit :=
  .update fun r => { r with setup := f r.setup }

/-- Reads one document. -/
def parse (initial : Handler) (feed : Feed) : Work Reader Diagram := fun r =>
  onMachine ((Handler.behaviour r.setup).parse initial feed) r

theorem parse_busy {r : Reader} (busy : r.machine.reading = true) (initial : Handler) (feed : Feed) :
    parse initial feed r = (.error (.misuse .alreadyReading), r) := by
  simp [parse, onMachine, Work.within, Behaviour.parse, busy]

/-! ## Access to the parts of a reader -/

def findShape? (r : Reader) (name : String) : Option ItemId := r.desk.names.get? name

def findOwner? (r : Reader) (id : String) : Option Value := r.setup.owners.get? id

/-- The table of owners belongs to the caller and refuses every change. -/
def setOwner (_id : String) (_owner : Value) : Work Reader Unit := .fail .readOnly

def addTranslation (name type : String) : Work Reader Unit :=
  updateSetup fun s => { s with translations := s.translations.insert name type }

def registerType (id : String) (recipe : Recipe) : Work Reader Unit := do
  let (types, notices) := (← .current).setup.types.register id recipe
  onDesk (.update (Desk.addNotices notices))
  updateSetup fun s => { s with types := types }

def registerShape (name : String) (id : ItemId) : Work Reader Unit := onDesk (Desk.registerName name id)

def setDiagram (diagram : Diagram) : Work Reader Unit := onDesk (Desk.setDiagram diagram)

def pushHandler (element : Option String) (handler : Handler) : Work Reader Unit :=
  onMachine (Machine.push element handler)

def popHandler : Work Reader Handler := onMachine Machine.pop

def setConfiguration (config : Configuration) : Work Reader Unit :=
  updateSetup fun s => { s with config := config }

/-- Objects that belong to no document, put on the desk. -/
def place (drawing : Drawing) : Work Reader ItemId := onDesk (Desk.place drawing)

def setAttributes (id : ItemId) (as : Attributes) : Work Reader Unit := do
  let setup := (← .current).setup
  onDesk (Vocabulary.setAttributes setup id as)

/-! ## Use of single handlers -/

/-- The handler of an element in a container. -/
def dispatch (c : Container) (name : String) (as : Attributes) : Work Reader (Option Handler) := do
  let setup := (← .current).setup
  onDesk (Vocabulary.dispatch setup c name as)

def startElement (h : Handler) (name : String) (as : Attributes) : Work Reader (Option Handler) := do
  let setup := (← .current).setup
  onMachine ((Handler.behaviour setup).startElement h name as)

/-- The handler after some character data. -/
def characters (h : Handler) (text : String) : Work Reader Handler := do
  let setup := (← .current).setup
  onMachine ((Handler.behaviour setup).characters h text)
  return (Handler.behaviour setup).absorb h text

def endElement (h : Handler) (name : String) : Work Reader Unit := do
  let setup := (← .current).setup
  onMachine ((Handler.behaviour setup).endElement h name)

/-- Work on the container that a handler stands for, if it stands for any. -/
def onContainer (h : Handler) (w : Container → Work Desk Unit) : Work Reader Unit :=
  match h.container? with
  | some c => onDesk (w c)
  | none => .fail .unable

def addObject (h : Handler) (id : ItemId) : Work Reader Unit :=
  onContainer h (Desk.addObject · id)

def setPrivateData (h : Handler) (data : Table String) : Work Reader Unit :=
  onContainer h (Desk.setPrivateData data)

/-- The reader with an empty tray. -/
def clearTray (r : Reader) : Reader :=
  { r with machine.work.tray := .empty }

/-! ## The journal -/

def notices (r : Reader) : List Notice := r.desk.notices

def forgetNotices (r : Reader) : Reader := { r with machine.work.journal := [] }

end Reader

end Pgml
