import Pgml.Color
import Pgml.Number.Numeral

/-! Colours written without a name: a triple of decimal parts, a hexadecimal number after
`#` or `0x`, or a decimal number. Negative numbers down to `-2 ^ 31` are signed 32-bit
values whose upper eight bits, the opacity, are dropped. -/
namespace Pgml.Color

/-- What separates the parts of a triple. -/
def isSeparator (c : Char) : Bool := Text.isBlank c || c == ',' || c == ';'

/-- Up to three digits at the beginning, as a number, and what follows them. -/
def part? (cs : List Char) : Option (Nat × List Char) :=
  let ds := (cs.take 3).takeWhile Text.isDigit
  if ds.isEmpty then none
  else some (Number.ofDigits 10 (ds.filterMap Text.digitValue?), cs.drop ds.length)

/-- What follows one or more separators. -/
def afterSeparators? (cs : List Char) : Option (List Char) :=
  match cs with
  | c :: rest => if isSeparator c then some (rest.dropWhile isSeparator) else none
  | [] => none

/-- Three parts with separators between them and nothing else, however large. -/
def triple? (cs : List Char) : Option (Nat × Nat × Nat) := do
  let (r, cs) ← part? cs
  let (g, cs) ← part? (← afterSeparators? cs)
  let (b, cs) ← part? (← afterSeparators? cs)
  if cs.isEmpty then some (r, g, b) else none

/-- The integer of a colour that is no triple. -/
def number? (cs : List Char) : Option Int :=
  match cs with
  | '#' :: rest => Number.readHex? rest
  | '0' :: x :: rest =>
    if x == 'x' || x == 'X' then Number.readHex? rest else Number.readDecimal? cs
  | _ => Number.readDecimal? cs

/-- The colour of an integer: 24 bits, or a signed 32-bit value. -/
def ofNumber? (n : Int) : Option Color :=
  if -0x80000000 ≤ n ∧ n ≤ 0xffffff then some (ofInt n) else none

def parseList? (cs : List Char) : Option Color :=
  let cs := Text.strip cs
  match triple? cs with
  | some (r, g, b) => if r ≤ 255 ∧ g ≤ 255 ∧ b ≤ 255 then some ⟨r, g, b⟩ else none
  | none => number? cs >>= ofNumber?

/-- The colour that a text denotes, if it is understood. -/
def parse? (s : String) : Option Color := parseList? s.toList

end Pgml.Color
