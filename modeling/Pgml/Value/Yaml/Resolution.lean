import Pgml.Number.Numeral
import Pgml.Value

/-! What an unquoted YAML text stands for. A word for null, a truth value, an integer or a
fraction is one; every other text is itself. Integers may be binary, octal, decimal,
hexadecimal or written in base sixty, with underscores anywhere behind the first digit. -/
namespace Pgml.Yaml

open Number (Binary64)

def nullWords : List String := ["", "~", "null", "Null", "NULL"]

def trueWords : List String := ["yes", "Yes", "YES", "true", "True", "TRUE", "on", "On", "ON"]

def falseWords : List String := ["no", "No", "NO", "false", "False", "FALSE", "off", "Off", "OFF"]

def infinityWords : List String := [".inf", ".Inf", ".INF"]

def nanWords : List String := [".nan", ".NaN", ".NAN"]

def digitValue (c : Char) : Nat := c.toNat - 48

/-- The number of some digits among which there are underscores. -/
def numberOf (base : Nat) (digit? : Char → Option Nat) (cs : List Char) : Nat :=
  Number.ofDigits base (cs.filterMap digit?)

def decimalDigit? (c : Char) : Option Nat := if c.isDigit then some (digitValue c) else none

def isDecimal (c : Char) : Bool := c.isDigit || c == '_'

def isOctal (c : Char) : Bool := ('0' ≤ c && c ≤ '7') || c == '_'

def isBinary (c : Char) : Bool := c == '0' || c == '1' || c == '_'

def isHexadecimal (c : Char) : Bool := (Text.hexValue? c).isSome || c == '_'

/-- The texts between colons. -/
def parts (cs : List Char) : List (List Char) :=
  match cs with
  | [] => [[]]
  | c :: rest =>
    if c == ':' then [] :: parts rest
    else match parts rest with
      | first :: more => (c :: first) :: more
      | [] => [[c]]

/-- Minutes or seconds: one or two digits below sixty. -/
def isSixtieth : List Char → Bool
  | [d] => d.isDigit
  | [t, d] => '0' ≤ t && t ≤ '5' && d.isDigit
  | _ => false

/-- An integer without its sign; a decimal one counts its digits. A mark for the base may stand
in front of underscores alone, which make up no number. -/
inductive Magnitude where
  | plain (n : Nat)
  | decimal (digits : List Char)
  | digitless

/-- The digits behind a mark for a base. -/
def Magnitude.ofMarked (base : Nat) (digit? : Char → Option Nat) (cs : List Char) : Magnitude :=
  if cs.all (· == '_') then .digitless else .plain (numberOf base digit? cs)

def magnitude? (cs : List Char) : Option Magnitude :=
  match cs with
  | ['0'] => some (.plain 0)
  | '0' :: 'b' :: c :: ds =>
    if (c :: ds).all isBinary then some (.ofMarked 2 decimalDigit? (c :: ds)) else none
  | '0' :: 'x' :: c :: ds =>
    if (c :: ds).all isHexadecimal then some (.ofMarked 16 Text.hexValue? (c :: ds)) else none
  | '0' :: c :: ds =>
    if (c :: ds).all isOctal then some (.plain (numberOf 8 decimalDigit? (c :: ds))) else none
  | c :: ds =>
    if !('1' ≤ c && c ≤ '9') then none
    else if ds.all isDecimal then some (.decimal ((c :: ds).filter Char.isDigit))
    else match parts (c :: ds) with
      | first :: second :: more =>
        if first.all isDecimal && (second :: more).all isSixtieth then
          some (.plain (((second :: more).map (numberOf 10 decimalDigit?)).foldl (fun n m => n * 60 + m)
            (numberOf 10 decimalDigit? first)))
        else none
      | _ => none
  | [] => none

/-- The exponent of a fraction, whose sign may not be left out. -/
def exponent? : List Char → Option Int
  | [] => some 0
  | e :: s :: d :: ds =>
    if (e == 'e' || e == 'E') && (s == '+' || s == '-') && (d :: ds).all Char.isDigit then
      some (Number.signed (s == '-') (numberOf 10 decimalDigit? (d :: ds)))
    else none
  | _ => none

/-- A fraction with a point. Digits have to stand before it, or right behind it if there is
no sign. -/
def fraction? (signed negative : Bool) (cs : List Char) : Option Binary64 :=
  let whole := cs.takeWhile isDecimal
  match cs.dropWhile isDecimal with
  | '.' :: behind =>
    let digits := behind.takeWhile isDecimal
    let opens := fun (ds : List Char) => ds.head?.any Char.isDigit
    if opens whole || (whole.isEmpty && !signed && opens digits) then
      (exponent? (behind.dropWhile isDecimal)).map fun e =>
        let places := (digits.filter Char.isDigit).length
        Binary64.ofDecimal negative (numberOf 10 decimalDigit? (whole ++ digits)) (e - places)
    else none
  | _ => none

/-- A number in base sixty from its parts, the last one first and rounded step by step. -/
def sexagesimal (last : Binary64) (scale : Nat) : List (List Char) → Binary64
  | [] => last
  | part :: rest =>
    let value := (Binary64.ofDecimal false (numberOf 10 decimalDigit? part) 0).times (scale * 60)
    sexagesimal (last.plus value) (scale * 60) rest

/-- A fraction in base sixty, without its sign; only the last part has a point. -/
def sexagesimal? (cs : List Char) : Option Binary64 :=
  match (parts cs).reverse with
  | last :: next :: more =>
    let whole := last.takeWhile (· != '.')
    match (next :: more).reverse, last.dropWhile (· != '.') with
    | first :: middle, '.' :: digits =>
      if first.head?.any Char.isDigit && first.all isDecimal && middle.all isSixtieth &&
          isSixtieth whole && digits.all isDecimal then
        (fraction? false false last).map fun x => sexagesimal x 1 (next :: more)
      else none
    | _, _ => none
  | _ => none

/-- The scalar of an unquoted text, none if it is an integer with too many digits or without
any. -/
def resolve? (cs : List Char) : Option Scalar :=
  let text := String.ofList cs
  let (negative, body) := Number.splitSign cs
  let signed := body.length < cs.length
  if nullWords.contains text then some .null
  else if trueWords.contains text then some (.bool true)
  else if falseWords.contains text then some (.bool false)
  else if nanWords.contains text then some (.float .nan)
  else if infinityWords.contains (String.ofList body) then some (.float (.infinity negative))
  else match magnitude? body with
    | some (.plain n) => some (.int (Number.signed negative n))
    | some .digitless => none
    | some (.decimal ds) =>
      (Number.ofDecimalDigits? (ds.map digitValue)).map fun n => .int (Number.signed negative n)
    | none =>
      match fraction? signed negative body, sexagesimal? body with
      | some x, _ => some (.float x)
      | none, some x => some (.float (.ofMagnitude negative x.magnitude))
      | none, none => some (.text text)

end Pgml.Yaml
