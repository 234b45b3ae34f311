import Pgml.Number.Floating
import Pgml.Value

/-! Values written as JSON. Reading splits the text into tokens and then lets a stack of
open lists and mappings take them one by one, so both stages are plain recursions over a
list. Numbers may also be `NaN` and the infinities; a repeated key has its last value. -/
namespace Pgml.Json

open Number (Binary64)

inductive ReadError where
  | malformed
  /-- A decimal integer has more digits than numerals may have. -/
  | numeralTooLong
  deriving DecidableEq, Repr

inductive Token where
  | openList
  | closeList
  | openMapping
  | closeMapping
  | comma
  | colon
  | scalar (s : Scalar)
  | tooLong
  | junk
  deriving DecidableEq, Repr

/-- What the characters read last belong to; the parts are in reverse. -/
inductive Mode where
  | between
  | word (before : List Char)
  | text (before : List Nat)
  | escape (before : List Nat)
  | hex (before : List Nat) (missing value : Nat)

def isSpace (c : Char) : Bool := c == ' ' || c == '\t' || c == '\n' || c == '\r'

/-- A mark that is a token by itself. -/
def mark? : Char → Option Token
  | '[' => some .openList
  | ']' => some .closeList
  | '\x7b' => some .openMapping
  | '\x7d' => some .closeMapping
  | ',' => some .comma
  | ':' => some .colon
  | _ => none

/-- The token of a character between words and texts, and what comes after it. -/
def start (c : Char) : List Token × Mode :=
  if isSpace c then ([], .between)
  else if c == '"' then ([], .text [])
  else match mark? c with
    | some token => ([token], .between)
    | none => ([], .word [c])

def spanAsciiDigits (cs : List Char) : List Char × List Char := cs.span Char.isDigit

def asciiValue (ds : List Char) : Nat := Number.ofDigits 10 (ds.map fun c => c.toNat - 48)

/-- The digits of a whole part and what follows them: a zero alone, or digits that begin with
another one. -/
def wholePart? : List Char → Option (List Char × List Char)
  | '0' :: rest => some (['0'], rest)
  | cs =>
    match spanAsciiDigits cs with
    | ([], _) => none
    | parts => some parts

/-- The digits of a fraction, if there is one. -/
def fractionPart? : List Char → Option (List Char × List Char)
  | '.' :: rest =>
    match spanAsciiDigits rest with
    | ([], _) => none
    | parts => some parts
  | _ => none

def exponentPart? : List Char → Option (Int × List Char)
  | [] => none
  | c :: rest =>
    if c == 'e' || c == 'E' then
      let (negative, body) := Number.splitSign rest
      match spanAsciiDigits body with
      | ([], _) => none
      | (ds, more) => some (Number.signed negative (asciiValue ds), more)
    else none

def integerToken (negative : Bool) (ds : List Char) : Token :=
  if ds.length ≤ Number.maxDecimalDigits then .scalar (.int (Number.signed negative (asciiValue ds)))
  else .tooLong

/-- The token of a number and what follows it. A number reaches as far as possible; it is an
integer unless it has a fraction or an exponent. -/
def number? (cs : List Char) : Option (Token × List Char) := do
  let (negative, body) := match cs with
    | '-' :: rest => (true, rest)
    | _ => (false, cs)
  let (whole, behind) ← wholePart? body
  let fraction := fractionPart? behind
  let (places, behind) := fraction.getD ([], behind)
  let exponent := exponentPart? behind
  let (e, behind) := exponent.getD (0, behind)
  if fraction.isSome || exponent.isSome then
    return (.scalar (.float
      (Binary64.ofDecimal negative (asciiValue (whole ++ places)) (e - places.length))), behind)
  else return (integerToken negative whole, behind)

/-- The tokens of a word. Behind a number it is broken off by whatever does not belong to the
number. -/
def wordTokens (cs : List Char) : List Token :=
  match String.ofList cs with
  | "null" => [.scalar .null]
  | "true" => [.scalar (.bool true)]
  | "false" => [.scalar (.bool false)]
  | "NaN" => [.scalar (.float Binary64.nan)]
  | "Infinity" => [.scalar (.float (Binary64.infinity false))]
  | "-Infinity" => [.scalar (.float (Binary64.infinity true))]
  | _ =>
    match number? cs with
    | some (token, []) => [token]
    | some (token, _ :: _) => [token, .junk]
    | none => [.junk]

/-- Code points from UTF-16 units: a high and a low surrogate in a row make one character,
a surrogate alone is replaced. -/
def joinSurrogates : List Nat → List Char
  | [] => []
  | [u] => [if 0xd800 ≤ u && u < 0xe000 then Char.ofNat 0xfffd else Char.ofNat u]
  | u :: v :: rest =>
    if 0xd800 ≤ u && u < 0xdc00 && 0xdc00 ≤ v && v < 0xe000 then
      Char.ofNat (0x10000 + (u - 0xd800) * 0x400 + (v - 0xdc00)) :: joinSurrogates rest
    else if 0xd800 ≤ u && u < 0xe000 then Char.ofNat 0xfffd :: joinSurrogates (v :: rest)
    else Char.ofNat u :: joinSurrogates (v :: rest)

def textToken (before : List Nat) : Token :=
  .scalar (.text (String.ofList (joinSurrogates before.reverse)))

def simpleEscape? : Char → Option Nat
  | '"' => some 0x22
  | '\\' => some 0x5c
  | '/' => some 0x2f
  | 'b' => some 8
  | 'f' => some 12
  | 'n' => some 10
  | 'r' => some 13
  | 't' => some 9
  | _ => none

/-- The tokens of a text; after the first character that fits nowhere there are no more. -/
def tokens : Mode → List Char → List Token
  | .between, [] => []
  | .word before, [] => wordTokens before.reverse
  | .text _, [] | .escape _, [] | .hex .., [] => [.junk]
  | .between, c :: rest =>
    let (found, mode) := start c
    found ++ tokens mode rest
  | .word before, c :: rest =>
    if isSpace c || c == '"' || (mark? c).isSome then
      let (found, mode) := start c
      wordTokens before.reverse ++ (found ++ tokens mode rest)
    else tokens (.word (c :: before)) rest
  | .text before, c :: rest =>
    if c == '"' then textToken before :: tokens .between rest
    else if c == '\\' then tokens (.escape before) rest
    else if c.toNat < 32 then [.junk]
    else tokens (.text (c.toNat :: before)) rest
  | .escape before, c :: rest =>
    if c == 'u' then tokens (.hex before 4 0) rest
    else match simpleEscape? c with
      | some n => tokens (.text (n :: before)) rest
      | none => [.junk]
  | .hex before missing value, c :: rest =>
    match Text.hexValue? c with
    | none => [.junk]
    | some d =>
      if missing ≤ 1 then tokens (.text ((value * 16 + d) :: before)) rest
      else tokens (.hex before (missing - 1) (value * 16 + d)) rest

/-- A list or mapping whose end has not been read; items are in reverse. A mapping waits
for the value of its key. -/
inductive Partial where
  | list (items : List Value)
  | mapping (entries : List (Scalar × Value)) (key : Scalar)

/-- What the next token has to be. -/
inductive State where
  | value (around : List Partial)
  | firstItem (around : List Partial)
  | afterItem (items : List Value) (around : List Partial)
  | firstKey (around : List Partial)
  | key (entries : List (Scalar × Value)) (around : List Partial)
  | colon (entries : List (Scalar × Value)) (key : Scalar) (around : List Partial)
  | afterEntry (entries : List (Scalar × Value)) (around : List Partial)
  | finished (v : Value)

/-- A whole value goes to the innermost open list or mapping. -/
def complete (v : Value) : List Partial → State
  | [] => .finished v
  | .list items :: around => .afterItem (v :: items) around
  | .mapping entries key :: around => .afterEntry (Value.putEntry key v entries) around

/-- A token where a value has to begin. -/
def beginValue (around : List Partial) : Token → Except ReadError State
  | .scalar s => .ok (complete (.scalar s) around)
  | .openList => .ok (.firstItem around)
  | .openMapping => .ok (.firstKey around)
  | .tooLong => .error .numeralTooLong
  | _ => .error .malformed

def step : State → Token → Except ReadError State
  | .value around, token => beginValue around token
  | .firstItem around, .closeList => .ok (complete (.list []) around)
  | .firstItem around, token => beginValue (.list [] :: around) token
  | .afterItem items around, .comma => .ok (.value (.list items :: around))
  | .afterItem items around, .closeList => .ok (complete (.list items.reverse) around)
  | .firstKey around, .closeMapping => .ok (complete (.mapping []) around)
  | .firstKey around, .scalar (.text k) => .ok (.colon [] (.text k) around)
  | .key entries around, .scalar (.text k) => .ok (.colon entries (.text k) around)
  | .colon entries k around, .colon => .ok (.value (.mapping entries k :: around))
  | .afterEntry entries around, .comma => .ok (.key entries around)
  | .afterEntry entries around, .closeMapping => .ok (complete (.mapping entries) around)
  | _, _ => .error .malformed

def run : State → List Token → Except ReadError Value
  | .finished v, [] => .ok v
  | _, [] => .error .malformed
  | state, token :: rest =>
    match step state token with
    | .ok next => run next rest
    | .error e => .error e

def parse (text : String) : Except ReadError Value :=
  run (.value []) (tokens .between text.toList)

end Pgml.Json
