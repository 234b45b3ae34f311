import Pgml.Number.Numeral

/-! Integers of a configuration that are written as text. The text is cleaned first: of white
space around it, of a plus sign, of zeros at its beginning, of a fraction that consists of zeros,
and of single underscores. What is left has to be an integer in its usual form. -/
namespace Pgml.Configuration

/-- The text behind a plus sign, which is not followed by another sign. -/
def dropPlus? : List Char → Option (List Char)
  | '+' :: '-' :: _ => none
  | '+' :: rest => some rest
  | cs => some cs

/-- What follows zeros and underscores, given the last of them. It is kept if nothing else
stands before the fraction. -/
def dropZerosBehind? (last : Char) : List Char → Option (List Char)
  | [] => some [last]
  | c :: rest =>
    if c == '0' || c == '_' then dropZerosBehind? c rest
    else if c.isDigit || c == '-' then some (c :: rest)
    else if c == '.' then some (last :: c :: rest)
    else none

/-- The text behind zeros at its beginning; a sign may also stand behind them. -/
def dropZeros? : List Char → Option (List Char)
  | '0' :: rest => dropZerosBehind? '0' rest
  | c :: rest => if c.isDigit || c == '-' then some (c :: rest) else none
  | [] => none

/-- The text before a fraction of one or more zeros. -/
def dropZeroFraction (cs : List Char) : List Char :=
  match cs.span (· != '.') with
  | (whole, '.' :: zero :: zeros) => if (zero :: zeros).all (· == '0') then whole else cs
  | _ => cs

/-- The text without its underscores, which stand alone and not at its ends. -/
def dropUnderscores? : List Char → Option (List Char)
  | [] => some []
  | '_' :: _ => none
  | [c] => some [c]
  | [_, '_'] => none
  | c :: '_' :: rest => (dropUnderscores? rest).map (c :: ·)
  | c :: rest => (dropUnderscores? rest).map (c :: ·)

/-- The integer of some digits, which begin with a zero only if that is all. -/
def digitsInt? (negative : Bool) : List Char → Option Int
  | ['0'] => some 0
  | '0' :: _ | [] => none
  | ds =>
    if ds.all Char.isDigit then
      some (Number.signed negative (Number.ofDigits 10 (ds.map fun c => c.toNat - 48)))
    else none

/-- An integer in its usual form. Its sign counts among the characters that it may have. -/
def usualInt? (cs : List Char) : Option Int :=
  if cs.length ≤ Number.maxDecimalDigits then
    match cs with
    | '-' :: ds => digitsInt? true ds
    | ds => digitsInt? false ds
  else none

def textInt? (s : String) : Option Int := do
  let cs ← dropZeros? (← dropPlus? (Number.withoutMargin s.toList))
  usualInt? (← dropUnderscores? (dropZeroFraction cs))

end Pgml.Configuration
