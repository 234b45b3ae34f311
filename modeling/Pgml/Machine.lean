import Pgml.Attributes
import Pgml.Diagram
import Pgml.Notice
import Pgml.Work

/-! The controller of a document's events. Every open element has a frame with its handler
on a stack, and only the innermost handler receives events. The controller knows nothing of
what handlers do: it is given their `Behaviour`, whose callbacks may push and pop frames
themselves. One more frame lies below the root element, that of the initial handler. -/
namespace Pgml

inductive Event where
  | start (name : String) (attributes : Attributes)
  | characters (text : String)
  | finish (name : String)
  /-- An item that is no event. -/
  | alien
  deriving DecidableEq, Repr

/-- A handler and the element it was pushed for. -/
structure Frame (H : Type) where
  element : Option String
  handler : H
  deriving DecidableEq, Repr

/-- The frames, the innermost first, whether a document is being read, and what the
handlers work on. -/
structure Machine (H S : Type) where
  frames : List (Frame H)
  reading : Bool
  work : S
  deriving DecidableEq, Repr

abbrev Step (H S : Type) := Work (Machine H S)

/-- How handlers answer events. A handler may keep character data in itself (`absorb`);
whatever else it does is work on the machine. -/
structure Behaviour (H S : Type) where
  /-- The handler of a nested element, or none if its content is of no interest. -/
  startElement : H → String → Attributes → Step H S (Option H)
  absorb : H → String → H
  characters : H → String → Step H S Unit
  endElement : H → String → Step H S Unit
  /-- The handler of elements whose content is of no interest. -/
  ignore : H

namespace Machine

variable {H S : Type}

def depth (m : Machine H S) : Nat := m.frames.length

def push (element : Option String) (handler : H) : Step H S Unit :=
  .update fun m => { m with frames := ⟨element, handler⟩ :: m.frames }

def pop : Step H S H := fun m =>
  match m.frames with
  | [] => (.error (.misuse .noHandler), m)
  | frame :: rest => (.ok frame.handler, { m with frames := rest })

/-- Work on what the handlers share. -/
def onWork {α : Type} (w : Work S α) : Step H S α :=
  .within (·.work) (fun s m => { m with work := s }) w

end Machine

namespace Behaviour

variable {H S : Type}

/-- A start event goes to the innermost handler, whose answer gets a frame of its own. -/
def handleStart (b : Behaviour H S) (name : String) (as : Attributes) : Step H S Unit := do
  match (← .current).frames with
  | [] => .fail (.malformed (.afterEnd name))
  | frame :: _ =>
    let next ← b.startElement frame.handler name as
    Machine.push (some name) (next.getD b.ignore)

/-- Character data goes to the innermost handler; without any it is dropped. -/
def handleCharacters (b : Behaviour H S) (text : String) : Step H S Unit := do
  match (← .current).frames with
  | [] => return ()
  | frame :: rest =>
    .update fun m => { m with frames := ⟨frame.element, b.absorb frame.handler text⟩ :: rest }
    b.characters frame.handler text

/-- An end event has to match the innermost element, and the frame below the root element
is not closed by it. -/
def handleFinish (b : Behaviour H S) (name : String) : Step H S Unit := do
  match (← .current).frames with
  | [] | [_] => .fail (.malformed (.unexpectedEnd name))
  | frame :: _ :: _ =>
    if frame.element = some name then
      b.endElement frame.handler name
      let _ ← Machine.pop
    else .fail (.malformed (.crossed frame.element name))

def dispatch (b : Behaviour H S) : Event → Step H S Unit
  | .start name as => b.handleStart name as
  | .characters text => b.handleCharacters text
  | .finish name => b.handleFinish name
  | .alien => .fail .noEvent

def dispatchAll (b : Behaviour H S) : List Event → Step H S Unit
  | [] => return ()
  | event :: rest => do
    b.dispatch event
    b.dispatchAll rest

end Behaviour

/-- The events of a document, what there is to report when it is opened, and the fault that
its source ends with, if any. -/
structure Feed where
  opening : List Notice
  events : List Event
  ending : Option Fault
  deriving DecidableEq, Repr

def Feed.ofEvents (events : List Event) : Feed := ⟨[], events, none⟩

/-- What reading a document needs to know about the handlers' work. -/
class Workspace (S : Type) where
  /-- The work before a document. -/
  cleared : S → S
  diagram : S → Option Diagram
  /-- The work without its diagram. -/
  abandoned : S → S
  note : Notice → S → S
  diagram_cleared : ∀ s, diagram (cleared s) = none
  diagram_abandoned : ∀ s, diagram (abandoned s) = none

/-- The machine after a reading that failed. A fault of the reading is cleaned up after, so that no frames
and no diagram are left; an interrupt leaves both as they are. -/
def Machine.stopped {H S : Type} [Workspace S] (fault : Fault) (m : Machine H S) : Machine H S :=
  if fault.isInterrupt then { m with reading := false } else ⟨[], false, Workspace.abandoned m.work⟩

namespace Machine

variable {H S : Type} [Workspace S] (m : Machine H S)

@[simp] theorem reading_stopped (fault : Fault) : (m.stopped fault).reading = false := by
  unfold stopped
  split <;> rfl

theorem stopped_interrupt (cause : Interrupt) : m.stopped (.interrupt cause) = { m with reading := false } := rfl

theorem stopped_of_fault {fault : Fault} (own : fault.isInterrupt = false) :
    m.stopped fault = ⟨[], false, Workspace.abandoned m.work⟩ := by
  simp [stopped, own]

end Machine

namespace Behaviour

variable {H S : Type} [Workspace S]

/-- After the last event only the initial handler may be left. -/
def close : Step H S Diagram := do
  let m ← .current
  if m.depth = 1 then
    let _ ← Machine.pop
    let m ← .current
    match Workspace.diagram m.work with
    | none => .fail (.misuse .noDiagram)
    | some diagram =>
      Machine.onWork (.update (Workspace.note (.readDiagram diagram.name diagram.shapes.length)))
      return diagram
  else .fail (.malformed (.openElements (m.depth - 1)))

def readAll (b : Behaviour H S) (initial : H) (feed : Feed) : Step H S Diagram := do
  .update fun m => { m with frames := [], work := Workspace.cleared m.work }
  Machine.push none initial
  Machine.onWork (.update fun s => feed.opening.foldl (fun s n => Workspace.note n s) s)
  b.dispatchAll feed.events
  match feed.ending with
  | some fault => .fail fault
  | none => close

/-- Reads one document. A machine that is already reading refuses and stays as it is. -/
def parse (b : Behaviour H S) (initial : H) (feed : Feed) : Step H S Diagram := fun m =>
  if m.reading then (.error (.misuse .alreadyReading), m)
  else
    match b.readAll initial feed { m with reading := true } with
    | (.ok diagram, after) => (.ok diagram, { after with reading := false })
    | (.error fault, after) => (.error fault, after.stopped fault)

end Behaviour

end Pgml
