import Pgml.Number.Binary64
import Pgml.Number.Numeral
import Pgml.Text.Digit

/-! Decimal fractions written as text: a sign, digits of any script with single underscores
between them, a point, an exponent, or one of the names of infinity and of no number. -/
namespace Pgml.Number

/-- The text without its underscores, if each stands between two digits. -/
def dropUnderscores? : List Char → Option (List Char)
  | [] => some []
  | '_' :: _ => none
  | c :: '_' :: next :: rest =>
    if Text.isDigit c && Text.isDigit next then (dropUnderscores? (next :: rest)).map (c :: ·) else none
  | c :: rest => (dropUnderscores? rest).map (c :: ·)

/-- The values of the digits at the beginning and what follows them. -/
def spanDigits : List Char → List Nat × List Char
  | [] => ([], [])
  | c :: rest =>
    match Text.digitValue? c with
    | none => ([], c :: rest)
    | some d => let (ds, more) := spanDigits rest; (d :: ds, more)

/-- An exponent, or none at the end of the text. -/
def exponent? : List Char → Option Int
  | [] => some 0
  | c :: rest =>
    if c == 'e' || c == 'E' then
      let (negative, body) := splitSign rest
      match spanDigits body with
      | ([], _) => none
      | (ds, []) => some (signed negative (ofDigits 10 ds))
      | _ => none
    else none

/-- The fraction digits behind a point and what follows them. -/
def spanFraction : List Char → List Nat × List Char
  | '.' :: rest => spanDigits rest
  | cs => ([], cs)

def asciiLower (cs : List Char) : List Char := cs.map Char.toLower

def named? (negative : Bool) (cs : List Char) : Option Binary64 :=
  let name := asciiLower cs
  if name == "inf".toList || name == "infinity".toList then some (Binary64.infinity negative)
  else if name == "nan".toList then some Binary64.nan
  else none

/-- A number without sign in positional notation, with or without an exponent. -/
def positional? (negative : Bool) (cs : List Char) : Option Binary64 := do
  let (whole, afterWhole) := spanDigits cs
  let (fraction, afterFraction) := spanFraction afterWhole
  let e ← exponent? afterFraction
  if whole.isEmpty && fraction.isEmpty then none
  else some (Binary64.ofDecimal negative (ofDigits 10 (whole ++ fraction)) (e - fraction.length))

def readFloating? (cs : List Char) : Option Binary64 := do
  let (negative, body) := splitSign (← dropUnderscores? (withoutMargin cs))
  match named? negative body with
  | some x => some x
  | none => positional? negative body

end Pgml.Number
