import Pgml.Text.Blank
import Pgml.Text.Digit
import Pgml.Text.Hex

/-! Integers written as text. A numeral may stand between white space, carry a sign and have
single underscores between its digits. Decimal numerals may use the digits of any script
and have at most `maxDecimalDigits` digits; hexadecimal ones may begin with `0x` and have
any length. -/
namespace Pgml.Number

/-- Decimal numerals with more digits are refused, leading zeros counted. -/
def maxDecimalDigits : Nat := 4300

/-- The digits of a numeral without its underscores, if every underscore stands between
two digits and there is a digit at all. -/
def digits? (digit? : Char → Option Nat) : List Char → Option (List Nat)
  | [] => none
  | c :: rest =>
    match digit? c, rest with
    | none, _ => none
    | some d, [] => some [d]
    | some d, '_' :: more => (digits? digit? more).map (d :: ·)
    | some d, next :: more => (digits? digit? (next :: more)).map (d :: ·)

/-- The number that digits denote, most significant first. -/
def ofDigits (base : Nat) (ds : List Nat) : Nat :=
  ds.foldl (fun n d => n * base + d) 0

/-- A leading sign and what follows it. -/
def splitSign : List Char → Bool × List Char
  | '+' :: rest => (false, rest)
  | '-' :: rest => (true, rest)
  | cs => (false, cs)

def signed (negative : Bool) (n : Nat) : Int := if negative then -(n : Int) else n

/-- The natural number that decimal digits denote, if they are not too many. -/
def ofDecimalDigits? (ds : List Nat) : Option Nat :=
  if ds.length ≤ maxDecimalDigits then some (ofDigits 10 ds) else none

/-- White space that may stand around a number; the separators among the control characters
do not count here. -/
def isMargin (c : Char) : Bool := Text.isBlank c && !(0x1c ≤ c.toNat && c.toNat ≤ 0x1f)

def withoutMargin (cs : List Char) : List Char := Text.trimList isMargin cs

def readDecimal? (cs : List Char) : Option Int := do
  let (negative, body) := splitSign (withoutMargin cs)
  let ds ← digits? Text.digitValue? body
  return signed negative (← ofDecimalDigits? ds)

/-- The digits of a hexadecimal numeral after its sign: a base mark is dropped, together
with one underscore right behind it. -/
def dropBaseMark : List Char → List Char
  | z :: x :: rest =>
    if Text.digitValue? z == some 0 && (x == 'x' || x == 'X') then
      match rest with
      | '_' :: more => more
      | _ => rest
    else z :: x :: rest
  | cs => cs

/-- The value of a hexadecimal digit; digits of other scripts count as decimal ones. -/
def hexDigitValue? (c : Char) : Option Nat :=
  match Text.hexValue? c with
  | some d => some d
  | none => Text.digitValue? c

def readHex? (cs : List Char) : Option Int := do
  let (negative, body) := splitSign (withoutMargin cs)
  let ds ← digits? hexDigitValue? (dropBaseMark body)
  return signed negative (ofDigits 16 ds)

/-- Whether an integer has as few digits as decimal numerals may have. -/
def isWritable (i : Int) : Bool := i.natAbs < Nat.pow 10 maxDecimalDigits

/-- Decimal text of an integer. -/
def decimal (i : Int) : String :=
  match i with
  | .ofNat n => String.ofList (Nat.toDigits 10 n)
  | .negSucc n => String.ofList ('-' :: Nat.toDigits 10 (n + 1))

end Pgml.Number
