import Pgml.Value.Yaml.Token

/-! What the place of a token means. Indentation opens and closes collections, and only a colon
behind a text tells that the text was a key, so tokens are held back until this is settled. A
key stands on one line with its colon. -/
namespace Pgml.Yaml

/-- A place in a text. Only the difference of offsets matters. -/
structure Position where
  line : Nat
  column : Nat
  offset : Nat
  deriving DecidableEq, Repr

/-- The place behind a character. A byte order mark takes no column. -/
def Position.advance (p : Position) (c : Char) : Position :=
  if isBreak c then ⟨p.line + 1, 0, p.offset + 1⟩
  else ⟨p.line, if c.toNat == 0xfeff then p.column else p.column + 1, p.offset + 1⟩

/-- A token that is a key if a colon follows. -/
structure PossibleKey where
  /-- How many tokens come before it. -/
  number : Nat
  /-- Whether nothing but a key can stand in its place. -/
  isRequired : Bool
  position : Position
  deriving DecidableEq, Repr

structure Layout where
  position : Position
  /-- How many brackets are open. -/
  depth : Nat
  /-- The column of the innermost collection, and of those around it. -/
  indent : Int
  around : List Int
  /-- Whether a key may begin here. -/
  keyAllowed : Bool
  /-- At most one for each count of open brackets. -/
  keys : List (Nat × PossibleKey)
  /-- How many tokens have been handed out. -/
  released : Nat
  queue : List Token
  deriving DecidableEq, Repr

namespace Layout

def initial : Layout := ⟨⟨0, 0, 0⟩, 0, -1, [], true, [], 0, []⟩

def inBrackets (s : Layout) : Bool := 0 < s.depth

def column (s : Layout) : Int := s.position.column

def advance (s : Layout) (c : Char) : Layout := { s with position := s.position.advance c }

def emit (s : Layout) (t : Token) : Layout := { s with queue := s.queue ++ [t] }

/-- A token put in front of one that is held back. -/
def insert (s : Layout) (number : Nat) (t : Token) : Layout :=
  let i := number - s.released
  { s with queue := s.queue.take i ++ t :: s.queue.drop i }

/-! ## Indentation -/

def closeBlocks (column : Int) (s : Layout) : List Int → Layout
  | [] => s
  | outer :: rest =>
    if column < s.indent then
      closeBlocks column { s.emit .blockEnd with indent := outer, around := rest } rest
    else s

/-- Closes the collections that lie to the right of a column. Within brackets indentation
means nothing. -/
def unwind (s : Layout) (column : Int) : Layout :=
  if s.inBrackets then s else closeBlocks column s s.around

/-- Opens a collection in a column, unless it is open already. -/
def openBlock (s : Layout) (number : Nat) (column : Int) (t : Token) : Layout :=
  if s.indent < column then { s.insert number t with indent := column, around := s.indent :: s.around }
  else s

/-- The number of the next token. -/
def next (s : Layout) : Nat := s.released + s.queue.length

/-! ## Keys -/

/-- Keys are at most this long. -/
def maxKeyLength : Nat := 1024

def isStale (s : Layout) (k : PossibleKey) : Bool :=
  k.position.line != s.position.line || k.position.offset + maxKeyLength < s.position.offset

/-- Gives up the keys whose colon would come too late, none if one of them is required. -/
def dropStale (s : Layout) : Option Layout :=
  if s.keys.any fun k => s.isStale k.2 && k.2.isRequired then none
  else some { s with keys := s.keys.filter fun k => !s.isStale k.2 }

/-- Gives up the key within the innermost brackets, none if it is required. -/
def dropKey (s : Layout) : Option Layout :=
  if s.keys.any fun k => k.1 == s.depth && k.2.isRequired then none
  else some { s with keys := s.keys.filter fun k => k.1 != s.depth }

/-- The next token may be a key, if keys are allowed. -/
def noteKey (s : Layout) : Option Layout :=
  if s.keyAllowed then do
    let s ← s.dropKey
    let key := ⟨s.next, !s.inBrackets && s.indent == s.column, s.position⟩
    return { s with keys := (s.depth, key) :: s.keys }
  else some s

def allowKey (s : Layout) (b : Bool) : Layout := { s with keyAllowed := b }

/-- Hands out the tokens in front of the first one that may be a key. -/
def release (s : Layout) : List Token × Layout :=
  let held := s.keys.foldl (fun n k => min n (k.2.number - s.released)) s.queue.length
  (s.queue.take held, { s with queue := s.queue.drop held, released := s.released + held })

/-- Hands out what can be handed out behind a token. -/
def settle (s : Layout) : Option (List Token × Layout) := s.dropStale.map release

/-! ## Tokens that depend on the layout -/

/-- A dash begins an item where a key might begin. -/
def dash (s : Layout) : Option Layout :=
  if s.inBrackets then (s.allowKey true).dropKey.map (·.emit .dash)
  else if s.keyAllowed then
    ((s.openBlock s.next s.column .listStart).allowKey true).dropKey.map (·.emit .dash)
  else none

/-- A question mark begins a key. -/
def key (s : Layout) : Option Layout :=
  if s.inBrackets then (s.allowKey false).dropKey.map (·.emit .key)
  else if s.keyAllowed then
    ((s.openBlock s.next s.column .mappingStart).allowKey true).dropKey.map (·.emit .key)
  else none

/-- A colon begins a value; it makes a key of the token that was noted. -/
def value (s : Layout) : Option Layout :=
  match s.keys.lookup s.depth with
  | some k =>
    let s := { s with keys := s.keys.filter fun k => k.1 != s.depth }
    let s := s.insert k.number .key
    let s := if s.inBrackets then s else s.openBlock k.number k.position.column .mappingStart
    some ((s.allowKey false).emit .value)
  | none =>
    if s.inBrackets then (s.allowKey false).dropKey.map (·.emit .value)
    else if s.keyAllowed then
      ((s.openBlock s.next s.column .mappingStart).allowKey true).dropKey.map (·.emit .value)
    else none

def openBracket (s : Layout) (t : Token) : Option Layout :=
  s.noteKey.map fun s => { (s.allowKey true).emit t with depth := s.depth + 1 }

def closeBracket (s : Layout) (t : Token) : Option Layout :=
  s.dropKey.map fun s => { (s.allowKey false).emit t with depth := s.depth - 1 }

def comma (s : Layout) : Option Layout := (s.allowKey true).dropKey.map (·.emit .comma)

/-- A text or a bracket may be a key; no key can follow it on its line. -/
def text (s : Layout) : Option Layout := s.noteKey.map (·.allowKey false)

/-- What stands before a mark between documents ends there. -/
def separator (s : Layout) : Option Layout := ((s.unwind (-1)).allowKey false).dropKey

end Layout

end Pgml.Yaml
