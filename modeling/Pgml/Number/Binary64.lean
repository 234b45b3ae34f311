/-! Double precision numbers of IEEE 754, kept as their bits, and the correctly rounded
double of an exact fraction. -/
namespace Pgml.Number

structure Binary64 where
  bits : UInt64
  deriving DecidableEq, Repr

namespace Binary64

/-- The smallest exponent of two that a unit in the last place can have. -/
def minExponent : Int := -1074

/-- The largest exponent of two that a unit in the last place can have. -/
def maxExponent : Int := 971

def signBit : Nat := 1 <<< 63

/-- The leading bit of a number that is not tiny; it is not written. -/
def leadingBit : Nat := 1 <<< 52

/-- A double from its sign and the rest of its bits. -/
def ofMagnitude (negative : Bool) (magnitude : Nat) : Binary64 :=
  ⟨UInt64.ofNat (if negative then signBit + magnitude else magnitude)⟩

def infinityMagnitude : Nat := 2047 * leadingBit

def infinity (negative : Bool) : Binary64 := ofMagnitude negative infinityMagnitude

def nan : Binary64 := ofMagnitude false (infinityMagnitude + leadingBit / 2)

def one : Binary64 := ofMagnitude false (1023 * leadingBit)

/-- The quotient rounded to the nearest integer, a half to the even neighbour. -/
def roundDiv (num den : Nat) : Nat :=
  let q := num / den
  let twice := 2 * (num % den)
  if twice < den then q
  else if den < twice then q + 1
  else q + q % 2

/-- The fraction multiplied by a power of two, as a fraction. -/
def scaled (num den : Nat) (exponent : Int) : Nat × Nat :=
  match exponent with
  | .ofNat e => (num <<< e, den)
  | .negSucc e => (num, den <<< (e + 1))

/-- The exponent of the last place of the double next to `num / den`: 53 significant bits
if the range of exponents allows it. -/
def lastPlace (num den : Nat) : Int :=
  let guess : Int := (num.log2 : Int) - (den.log2 : Int) - 52
  let (n, d) := scaled num den (-guess)
  max minExponent (if n < leadingBit * d then guess - 1 else guess)

/-- The magnitude bits of the double nearest to `num / den`. The exponent counts units of
the leading bit, so a carry out of the fraction moves to the next exponent by itself. -/
def magnitudeOf (num den : Nat) : Nat :=
  if num = 0 then 0
  else
    let e := lastPlace num den
    if maxExponent < e then infinityMagnitude
    else
      let (n, d) := scaled num den (-e)
      min infinityMagnitude ((e - minExponent).toNat * leadingBit + roundDiv n d)

/-- The double nearest to `mantissa * 10 ^ exponent`. Exponents far outside the range of
doubles are settled without computing the power. -/
def ofDecimal (negative : Bool) (mantissa : Nat) (exponent : Int) : Binary64 :=
  let size := Int.ofNat (Nat.toDigits 10 mantissa).length + exponent
  if mantissa = 0 || size < -400 then ofMagnitude negative 0
  else if 400 < size then infinity negative
  else
    match exponent with
    | .ofNat e => ofMagnitude negative (magnitudeOf (mantissa * Nat.pow 10 e) 1)
    | .negSucc e => ofMagnitude negative (magnitudeOf mantissa (Nat.pow 10 (e + 1)))

def isNegative (x : Binary64) : Bool := signBit ≤ x.bits.toNat

def magnitude (x : Binary64) : Nat := x.bits.toNat % signBit

def isNaN (x : Binary64) : Bool := infinityMagnitude < x.magnitude

def isInfinite (x : Binary64) : Bool := x.magnitude == infinityMagnitude

def isZero (x : Binary64) : Bool := x.magnitude == 0

/-- The value of a finite magnitude as a whole number of units of a power of two. -/
def units (x : Binary64) : Nat × Int :=
  let biased : Nat := x.magnitude / leadingBit
  let fraction : Nat := x.magnitude % leadingBit
  if biased = 0 then (fraction, minExponent)
  else (leadingBit + fraction, (biased : Int) - 1 + minExponent)

/-- The finite magnitude as a fraction. -/
def fraction (x : Binary64) : Nat × Nat :=
  let (m, e) := x.units
  scaled m 1 e

/-- The sum of two doubles that are not negative. -/
def plus (x y : Binary64) : Binary64 :=
  if x.isInfinite || y.isInfinite then infinity false
  else
    let (a, b) := x.fraction
    let (c, d) := y.fraction
    ofMagnitude false (magnitudeOf (a * d + c * b) (b * d))

/-- A double that is not negative, multiplied. -/
def times (x : Binary64) (factor : Nat) : Binary64 :=
  if x.isInfinite then x
  else
    let (a, b) := x.fraction
    ofMagnitude false (magnitudeOf (a * factor) b)

/-- The integer that the double is equal to, if there is one. -/
def toInt? (x : Binary64) : Option Int :=
  if x.isNaN || x.isInfinite then none
  else
    let (num, den) := x.fraction
    if num % den = 0 then
      let n := Int.ofNat (num / den)
      some (if x.isNegative then -n else n)
    else none

end Binary64

end Pgml.Number
