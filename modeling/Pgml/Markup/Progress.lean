import Pgml.Machine
import Pgml.Markup.Piece
import Pgml.Markup.Prolog
import Pgml.Markup.Tag

/-! How far a document has been read, and the events of its pieces. Tags nest, there is one
root element, and outside of it there are only comments, instructions and a document type. -/
namespace Pgml.Markup

/-- An element that is not closed yet. -/
structure Open where
  /-- The name as written in its tags. -/
  tag : String
  name : String
  /-- The namespaces within the element. -/
  scope : Scope
  deriving DecidableEq, Repr

inductive Stage where
  | prolog (typed : Bool)
  | inside (top : Open) (below : List Open)
  | epilog
  deriving DecidableEq, Repr

namespace Stage

def cut : Stage → (searched : Nat) → List UInt8 → Cut
  | prolog _ => cutOutside true
  | inside .. => cutInside
  | epilog => cutOutside false

theorem length_of_cut {stage : Stage} {searched : Nat} {ahead rest : List UInt8} {p : Piece}
    (h : stage.cut searched ahead = .piece p rest) : rest.length < ahead.length := by
  cases stage with
  | prolog | epilog => exact length_of_cutOutside h
  | inside => exact length_of_cutInside h

/-- The stage after an element is closed. -/
def closed : List Open → Stage
  | [] => epilog
  | top :: below => inside top below

def opened : Stage → List Open
  | inside top below => top :: below
  | _ => []

end Stage

structure Progress where
  stage : Stage
  /-- The document declares that nothing outside of it matters. -/
  standalone : Bool
  /-- The document type names an external subset. -/
  external : Bool
  deriving DecidableEq, Repr

/-! ## Pieces that make sense -/

def isComment (body : List Char) : Bool :=
  body.all isChar && !occurs ['-', '-'] body && body.getLast? != some '-'

/-- Instructions have a target, which is not the name that declarations have. -/
def isInstruction (body : List Char) : Bool :=
  match name? body with
  | some (target, rest) =>
    String.ofList (target.toList.map Char.toLower) != "xml" && rest.all isChar &&
      (rest.isEmpty || rest.head?.any isSpace)
  | none => false

/-- A start tag within some elements. -/
def start (around : List Open) (tag : Tag) : Stage × List Event :=
  let outer := match around with
    | [] => Scope.initial
    | top :: _ => top.scope
  let scope := outer.extend tag.attributes
  let name := scope.elementName tag.name
  let event := Event.start name (Table.ofList (scope.attributes tag.attributes)).entries
  if tag.isEmpty then (.closed around, [event, .finish name])
  else (.inside ⟨tag.name, name, scope⟩ around, [event])

namespace Progress

/-- The beginning of a document with some declaration. -/
def initial (d : Option Declaration) : Progress := ⟨.prolog false, d.any (·.isStandalone), false⟩

/-- Whether entities may be defined outside of the document. -/
def skipsUnknown (p : Progress) : Bool := p.external && !p.standalone

def goto (p : Progress) (next : Stage × List Event) : Progress × List Event :=
  ({ p with stage := next.1 }, next.2)

def characters (cs : List Char) : Event := .characters (String.ofList cs)

/-- The progress after a piece and the events of the piece, none if it makes no sense there. -/
def step (p : Progress) (piece : Piece) : Option (Progress × List Event) :=
  let body := piece.body
  match piece.kind, p.stage with
  | .blanks, _ => some (p, [])
  | .comment, _ => if isComment body then some (p, []) else none
  | .instruction, _ => if isInstruction body then some (p, []) else none
  | .documentType, .prolog false =>
    (DocumentType.parse? body).map fun d => ({ p with stage := .prolog true, external := d.isExternal }, [])
  | .startTag, .prolog _ | .startTag, .inside .. =>
    (Tag.parse? p.skipsUnknown body).map fun tag => p.goto (start p.stage.opened tag)
  | .endTag, .inside top below =>
    if endTagName? body = some top.tag then some (p.goto (.closed below, [.finish top.name])) else none
  | .text, .inside .. => some (p, [characters body])
  | .reference, .inside .. =>
    (referenced? p.skipsUnknown body).map fun cs => (p, if cs.isEmpty then [] else [characters cs])
  | .data, .inside .. => if body.all isChar then some (p, [characters body]) else none
  | _, _ => none

/-- How far the bytes at hand lead. -/
structure Reached where
  progress : Progress
  /-- The bytes that are not read yet. -/
  ahead : List UInt8
  /-- Where the search for the end of the next piece goes on. -/
  searched : Nat
  events : List Event
  deriving DecidableEq, Repr

/-- Reads as many pieces as there are, none if one of them makes no sense. -/
def run (p : Progress) (searched : Nat) (ahead : List UInt8) : Option Reached :=
  match _ : p.stage.cut searched ahead with
  | .junk => none
  | .wait searched => some ⟨p, ahead, searched, []⟩
  | .piece piece rest =>
    match p.step piece with
    | none => none
    | some (next, events) => (next.run 0 rest).map fun r => { r with events := events ++ r.events }
termination_by ahead.length
decreasing_by exact Stage.length_of_cut ‹_›

end Progress

end Pgml.Markup
