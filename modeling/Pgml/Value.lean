import Pgml.Number.Numeral
import Pgml.Number.Shortest
import Pgml.Text.Quoted

/-! Data of configuration and owner files: scalars, lists and mappings whose keys are
scalars. Owners of shapes are such values, and a shape's description shows their text. -/
namespace Pgml

open Number (Binary64)

inductive Scalar where
  | null
  | bool (b : Bool)
  | int (i : Int)
  | float (x : Binary64)
  | text (s : String)
  deriving DecidableEq, Repr

inductive Value where
  | scalar (s : Scalar)
  | list (items : List Value)
  | mapping (entries : List (Scalar × Value))
  deriving Repr

namespace Scalar

/-- A scalar inside a list or a mapping: texts are quoted. -/
def quoted : Scalar → String
  | null => "None"
  | bool true => "True"
  | bool false => "False"
  | int i => Number.decimal i
  | float x => Number.Shortest.text x
  | text s => Text.quoted s

/-- A scalar on its own: a text stands for itself. -/
def plain : Scalar → String
  | text s => s
  | s => s.quoted

/-- The integer that a number or truth value is equal to. -/
def toInt? : Scalar → Option Int
  | bool b => some (if b then 1 else 0)
  | int i => some i
  | float x => x.toInt?
  | null | text _ => none

/-- Equality in which numbers and truth values are compared by value. No number is never
equal to anything, itself included. -/
def same (a b : Scalar) : Bool :=
  match a, b with
  | float x, float y => !x.isNaN && (x == y || (x.toInt?.isSome && x.toInt? == y.toInt?))
  | a, b =>
    match a.toInt?, b.toInt? with
    | some i, some j => i == j
    | none, none => a == b
    | _, _ => false

/-- Whether the scalar counts as nothing at all. -/
def isVoid : Scalar → Bool
  | null | bool false => true
  | int i => i == 0
  | float x => x.isZero
  | text s => s.isEmpty
  | bool true => false

end Scalar

namespace Value

def null : Value := .scalar .null
def text (s : String) : Value := .scalar (.text s)
def int (i : Int) : Value := .scalar (.int i)
def bool (b : Bool) : Value := .scalar (.bool b)

mutual

/-- Lists in brackets and mappings in braces, texts quoted. -/
def quotedText : Value → String
  | .scalar s => s.quoted
  | .list items => "[" ++ quotedItems items ++ "]"
  | .mapping entries => "\x7b" ++ quotedEntries entries ++ "\x7d"

def quotedItems : List Value → String
  | [] => ""
  | [item] => quotedText item
  | item :: rest => quotedText item ++ ", " ++ quotedItems rest

def quotedEntries : List (Scalar × Value) → String
  | [] => ""
  | [(key, value)] => key.quoted ++ ": " ++ quotedText value
  | (key, value) :: rest => key.quoted ++ ": " ++ quotedText value ++ ", " ++ quotedEntries rest

end

mutual

/-- Whether no integer in a value has too many digits to be written. -/
def isWritable : Value → Bool
  | .scalar (.int i) => Number.isWritable i
  | .scalar _ => true
  | .list items => areWritable items
  | .mapping entries => entriesWritable entries

def areWritable : List Value → Bool
  | [] => true
  | item :: rest => isWritable item && areWritable rest

def entriesWritable : List (Scalar × Value) → Bool
  | [] => true
  | (key, value) :: rest => isWritable (.scalar key) && isWritable value && entriesWritable rest

end

/-- The text that stands for a value in a description. -/
def plainText : Value → String
  | .scalar s => s.plain
  | v => v.quotedText

/-- Whether the value counts as nothing at all. -/
def isVoid : Value → Bool
  | .scalar s => s.isVoid
  | .list items => items.isEmpty
  | .mapping entries => entries.isEmpty

def isNull : Value → Bool
  | .scalar .null => true
  | _ => false

/-- The value under a key, the last one if the key comes more than once. -/
def entry? (key : Scalar) (entries : List (Scalar × Value)) : Option Value :=
  (entries.find? fun e => e.1.same key).map (·.2)

/-- An entry put into a mapping: a known key keeps its place and gets the new value. -/
def putEntry (key : Scalar) (value : Value) : List (Scalar × Value) → List (Scalar × Value)
  | [] => [(key, value)]
  | (k, v) :: rest => if k.same key then (k, value) :: rest else (k, v) :: putEntry key value rest

mutual

/-- Equality by value: the order of a mapping's entries does not matter. -/
def same : Value → Value → Bool
  | .scalar a, .scalar b => a.same b
  | .list a, .list b => sameItems a b
  | .mapping a, .mapping b => a.length == b.length && sameEntries a b
  | _, _ => false

def sameItems : List Value → List Value → Bool
  | [], [] => true
  | a :: as, b :: bs => same a b && sameItems as bs
  | _, _ => false

def sameEntries : List (Scalar × Value) → List (Scalar × Value) → Bool
  | [], _ => true
  | (key, value) :: rest, other =>
    (match entry? key other with
      | some v => same value v
      | none => false) && sameEntries rest other

end

mutual

def decEq : (a b : Value) → Decidable (a = b)
  | .scalar a, .scalar b =>
    if h : a = b then isTrue (by rw [h]) else isFalse (by simpa using h)
  | .list a, .list b =>
    match decEqItems a b with
    | isTrue h => isTrue (by rw [h])
    | isFalse h => isFalse (by simpa using h)
  | .mapping a, .mapping b =>
    match decEqEntries a b with
    | isTrue h => isTrue (by rw [h])
    | isFalse h => isFalse (by simpa using h)
  | .scalar _, .list _ | .scalar _, .mapping _ | .list _, .scalar _ | .list _, .mapping _
  | .mapping _, .scalar _ | .mapping _, .list _ => isFalse nofun

def decEqItems : (a b : List Value) → Decidable (a = b)
  | [], [] => isTrue rfl
  | [], _ :: _ | _ :: _, [] => isFalse nofun
  | a :: as, b :: bs =>
    match decEq a b, decEqItems as bs with
    | isTrue h, isTrue t => isTrue (by rw [h, t])
    | isFalse h, _ => isFalse (by simp [h])
    | _, isFalse t => isFalse (by simp [t])

def decEqEntries : (a b : List (Scalar × Value)) → Decidable (a = b)
  | [], [] => isTrue rfl
  | [], _ :: _ | _ :: _, [] => isFalse nofun
  | (j, a) :: as, (k, b) :: bs =>
    if e : j = k then
      match decEq a b, decEqEntries as bs with
      | isTrue h, isTrue t => isTrue (by rw [e, h, t])
      | isFalse h, _ => isFalse (by simp [h])
      | _, isFalse t => isFalse (by simp [t])
    else isFalse (by simp [e])

end

instance : DecidableEq Value := decEq

end Value

end Pgml
