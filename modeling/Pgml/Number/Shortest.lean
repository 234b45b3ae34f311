import Pgml.Number.Binary64

/-! The shortest decimal digits that read back as a given double: among the decimals with
the fewest digits that round to it, the one nearest to its exact value. -/
namespace Pgml.Number.Shortest

/-- Digits and the power of ten of the last of them. -/
structure Decimal where
  digits : Nat
  exponent : Int
  deriving DecidableEq, Repr

/-- The interval of numbers that round to a double, in quarters of its last place. -/
structure Interval where
  low : Nat
  value : Nat
  high : Nat
  /-- Power of two of the quarters. -/
  exponent : Int
  /-- Whether the ends of the interval round to the double as well. -/
  closed : Bool

/-- Below a power of two the neighbour is only half as far away. -/
def Interval.ofDouble (x : Binary64) : Interval :=
  let (m, e) := x.units
  let low := if m = Binary64.leadingBit && e != Binary64.minExponent then 4 * m - 1 else 4 * m - 2
  ⟨low, 4 * m, 4 * m + 2, e - 2, m % 2 == 0⟩

/-- `n * 2 ^ two * 10 ^ (-ten)` as a fraction. -/
def onGrid (n : Nat) (two ten : Int) : Nat × Nat :=
  let (num, den) := Binary64.scaled n 1 two
  match ten with
  | .ofNat t => (num, den * Nat.pow 10 t)
  | .negSucc t => (num * Nat.pow 10 (t + 1), den)

/-- Whether the grid point `d` lies in the interval. -/
def Interval.holds (i : Interval) (ten : Int) (d : Nat) : Bool :=
  let (low, den) := onGrid i.low i.exponent ten
  let (high, _) := onGrid i.high i.exponent ten
  if i.closed then low ≤ d * den && d * den ≤ high
  else low < d * den && d * den < high

/-- The neighbour of the value on the grid of a power of ten that reads back, the nearer
one if both do. -/
def Interval.point? (i : Interval) (ten : Int) : Option Nat :=
  let (num, den) := onGrid i.value i.exponent ten
  let below := num / den
  match i.holds ten below, i.holds ten (below + 1) with
  | true, true =>
    let rest := 2 * (num % den)
    if rest < den then some below
    else if den < rest then some (below + 1)
    else some (below + below % 2)
  | true, false => some below
  | false, true => some (below + 1)
  | false, false => none

/-- The power of ten of the leading digit of a positive fraction. -/
def leadingPower (num den : Nat) : Int :=
  if den ≤ num then ((Nat.toDigits 10 (num / den)).length : Int) - 1
  else
    let guess := (Nat.toDigits 10 (den / num)).length
    if den ≤ num * Nat.pow 10 (guess - 1) then -((guess : Int) - 1) else -(guess : Int)

/-- The first of finer and finer grids with a hit. -/
def search (i : Interval) (top : Int) : List Nat → Decimal
  | [] => ⟨i.value, 0⟩
  | count :: more =>
    let ten := top - count
    match i.point? ten with
    | some d => ⟨d, ten⟩
    | none => search i top more

/-- The decimal without zeros at its end, looking at as many digits as `fuel` says. -/
def trim : Nat → Decimal → Decimal
  | 0, d => d
  | fuel + 1, d =>
    if d.digits != 0 && d.digits % 10 == 0 then trim fuel ⟨d.digits / 10, d.exponent + 1⟩ else d

/-- The shortest decimal of a finite positive double; seventeen digits always suffice. -/
def decimal (x : Binary64) : Decimal :=
  let i := Interval.ofDouble x
  let (num, den) := x.fraction
  trim 17 (search i (leadingPower num den) (List.range 17))

/-- How a decimal is written: positional while the point stands from `lowest` to `highest`
places right of the first digit's left side, with an exponent otherwise. -/
structure Layout where
  lowest : Int
  highest : Int
  /-- The least count of digits of an exponent. -/
  exponentDigits : Nat

/-- Numbers from a ten-thousandth up to below `10 ^ 16` are positional. -/
def plain : Layout := ⟨-3, 16, 2⟩

def zeros (n : Nat) : List Char := List.replicate n '0'

/-- The exponent mark with its sign and at least two digits. -/
def exponentText (least : Nat) (e : Int) : List Char :=
  let ds := Nat.toDigits 10 e.natAbs
  'e' :: (if e < 0 then '-' else '+') :: zeros (least - ds.length) ++ ds

def layOut (layout : Layout) (d : Decimal) : List Char :=
  let ds := Nat.toDigits 10 d.digits
  let point : Int := ds.length + d.exponent
  if point < layout.lowest || layout.highest < point then
    match ds with
    | [first] => first :: exponentText layout.exponentDigits (point - 1)
    | first :: rest => first :: '.' :: rest ++ exponentText layout.exponentDigits (point - 1)
    | [] => []
  else if point ≤ 0 then '0' :: '.' :: zeros (-point).toNat ++ ds
  else if ds.length ≤ point.toNat then ds ++ zeros (point.toNat - ds.length) ++ ['.', '0']
  else ds.take point.toNat ++ '.' :: ds.drop point.toNat

/-- The text of a double. -/
def text (x : Binary64) : String :=
  if x.isNaN then "nan"
  else
    let sign := if x.isNegative then ['-'] else []
    let body :=
      if x.isInfinite then ['i', 'n', 'f']
      else if x.isZero then ['0', '.', '0']
      else layOut plain (decimal x)
    String.ofList (sign ++ body)

end Pgml.Number.Shortest
