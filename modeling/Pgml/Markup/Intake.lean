import Pgml.Markup.Encoding
import Pgml.Markup.Progress

/-! The intake of a document's bytes. Bytes are converted as they come, and a byte that stands
for no character is noticed then. Nothing is read of a document before its encoding is known,
and a declaration is read when its end has come. -/
namespace Pgml.Markup

inductive Phase where
  | head
  /-- The encoding may be declared, which does not matter if it is known already. -/
  | declaration (known : Bool)
  | body (p : Progress)
  deriving DecidableEq, Repr

structure Intake where
  phase : Phase
  encoding : Encoding
  /-- The bytes of a character that has not come whole. -/
  carry : List UInt8
  /-- The bytes that are not read yet, in UTF-8. -/
  ahead : List UInt8
  /-- Where the search for the end of the next piece goes on. -/
  searched : Nat
  deriving DecidableEq, Repr

namespace Intake

def initial : Intake := ⟨.head, .utf8, [], [], 0⟩

/-- The intake with more bytes. -/
def take? (s : Intake) (bytes : List UInt8) : Option Intake :=
  (s.encoding.convert? (s.carry ++ bytes)).map fun r =>
    { s with carry := r.carry, ahead := s.ahead ++ r.bytes }

/-- The intake with all bytes at hand taken anew in an encoding. -/
def reread? (s : Intake) (e : Encoding) (bytes : List UInt8) : Option Intake :=
  { s with encoding := e, carry := [], ahead := [] }.take? bytes

def readBody (s : Intake) (p : Progress) : Option (Intake × List Event) :=
  (p.run s.searched s.ahead).map fun r =>
    ({ s with phase := .body r.progress, ahead := r.ahead, searched := r.searched }, r.events)

/-- What stands in a declaration behind its target, if there is one. -/
def declarationBody? : List UInt8 → Option (List UInt8)
  | 0x78 :: 0x6d :: 0x6c :: b :: rest => if isBlankByte b then some (b :: rest) else none
  | _ => none

/-- Takes the bytes behind a declaration in the declared encoding. -/
def declare? (s : Intake) (known : Bool) (d : Declaration) (behind : List UInt8) : Option Intake :=
  match d.encoding with
  | some name =>
    if known then some { s with ahead := behind }
    else (Encoding.ofName? name).bind fun e => s.reread? e behind
  | none => some { s with ahead := behind }

/-- The intake that waits for the end of what may be a declaration. -/
def awaitDeclaration (s : Intake) (known : Bool) : Option (Intake × List Event) :=
  some ({ s with phase := .declaration known }, [])

def readDeclaration (s : Intake) (known : Bool) : Option (Intake × List Event) :=
  match s.ahead with
  | [] | [_] => s.awaitDeclaration known
  | Byte.less :: Byte.query :: inside =>
    match Split.at? [Byte.query, Byte.greater] inside with
    | none => s.awaitDeclaration known
    | some found =>
      match declarationBody? found.before with
      | none => s.readBody (.initial none)
      | some body => do
        let d ← Declaration.parse? (← decode? body)
        (← s.declare? known d found.behind).readBody (.initial d)
  | _ => s.readBody (.initial none)

/-- The least count of bytes that tell the encoding of a document. -/
def headSize : Nat := 4

def readHead (s : Intake) : Option (Intake × List Event) :=
  match Encoding.detect? s.ahead with
  | some (e, mark) => do (← s.reread? e (s.ahead.drop mark)).readDeclaration true
  | none => s.readDeclaration false

/-- Reads what can be read, none if there is a fault. The head of a document may be shorter
than others if no more bytes come. -/
def read (s : Intake) (isLast : Bool) : Option (Intake × List Event) :=
  match s.phase with
  | .head => if !isLast && s.ahead.length < headSize then some (s, []) else s.readHead
  | .declaration known => s.readDeclaration known
  | .body p => s.readBody p

def isComplete (s : Intake) : Bool :=
  s.carry.isEmpty && s.ahead.isEmpty &&
    match s.phase with
    | .body p => p.stage = .epilog
    | _ => false

end Intake

end Pgml.Markup
