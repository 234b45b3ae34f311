import Pgml.Value.Yaml.Node
import Pgml.Value.Yaml.Resolution

/-! Values written as YAML, as far as settings need it: mappings and lists by indentation or
in brackets, texts with and without quotes, and comments. -/
namespace Pgml.Yaml

/-- Characters that a text may hold. -/
def isPrintable (c : Char) : Bool :=
  let n := c.toNat
  n == 0x9 || n == 0xa || n == 0xd || n == 0x85 || (0x20 ≤ n && n ≤ 0x7e) ||
    (0xa0 ≤ n && n ≤ 0xd7ff) || (0xe000 ≤ n && n ≤ 0xfffd) || 0x10000 ≤ n

/-- Line ends in their usual forms are read as a line feed. -/
def joinLineEnds : List Char → List Char
  | [] => []
  | '\r' :: '\n' :: rest => '\n' :: joinLineEnds rest
  | c :: rest => (if c == '\r' || c.toNat == 0x85 then '\n' else c) :: joinLineEnds rest

/-- The mark of entries that other mappings are put into. -/
def mergeMark : List Char := ['<', '<']

/-- A text that is only of use as a key. -/
def defaultMark : List Char := ['=']

def plainScalar (cs : List Char) : Except ReadError Scalar :=
  match resolve? cs with
  | some s => .ok s
  | none => .error .numeralTooLong

/-- Entries of other mappings, and those of a mapping itself. -/
structure Entries where
  merged : List (Scalar × Value)
  own : List (Scalar × Value)

/-- The entries of a mapping that is put into another one. -/
def entriesOf : Value → Except ReadError (List (Scalar × Value))
  | .mapping entries => .ok entries
  | _ => .error .noValue

/-- The entries that a value adds to a mapping; of several mappings the first counts most. -/
def mergedEntries : Value → Except ReadError (List (Scalar × Value))
  | .list items => do return (← items.mapM entriesOf).reverse.flatten
  | v => entriesOf v

mutual

def Node.value : Node → Except ReadError Value
  | .scalar true cs =>
    if cs == mergeMark || cs == defaultMark then .error .noValue else (plainScalar cs).map .scalar
  | .scalar false cs => .ok (.text (String.ofList cs))
  | .list items => (values items).map .list
  | .mapping entries => do
    let found ← valueEntries entries
    return .mapping ((found.merged ++ found.own).foldl (fun es e => Value.putEntry e.1 e.2 es) [])

def values : List Node → Except ReadError (List Value)
  | [] => .ok []
  | item :: rest => do return (← item.value) :: (← values rest)

def valueEntries : List (Node × Node) → Except ReadError Entries
  | [] => .ok ⟨[], []⟩
  | (.scalar isPlain cs, node) :: rest => do
    if isPlain && cs == mergeMark then
      let added ← mergedEntries (← node.value)
      let more ← valueEntries rest
      return { more with merged := added ++ more.merged }
    else
      let key ← if isPlain && cs != defaultMark then plainScalar cs else .ok (.text (String.ofList cs))
      let value ← node.value
      let more ← valueEntries rest
      return { more with own := (key, value) :: more.own }
  | _ => .error .noValue

end

/-- The value of a text; a text without any content is null. -/
def parse (text : String) : Except ReadError Value :=
  if text.toList.all isPrintable then
    (Node.document (tokens (joinLineEnds text.toList))).bind Node.value
  else .error .badCharacter

end Pgml.Yaml
