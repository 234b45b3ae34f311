/-! Hexadecimal digits, in lower case. -/
namespace Pgml.Text

def hexDigit (n : Nat) : Char :=
  if n < 10 then Char.ofNat (48 + n) else Char.ofNat (87 + n)

/-- The last `width` hexadecimal digits of a number. -/
def hexPadded : Nat → Nat → List Char
  | 0, _ => []
  | width + 1, n => hexPadded width (n / 16) ++ [hexDigit (n % 16)]

/-- All hexadecimal digits of a number, at least `width` of them. -/
def hexAtLeast (width n : Nat) : List Char :=
  (if n >>> (4 * width) = 0 then [] else Nat.toDigits 16 (n >>> (4 * width))) ++ hexPadded width n

/-- The value of a hexadecimal digit of either case. -/
def hexValue? (c : Char) : Option Nat :=
  if c.isDigit then some (c.toNat - 48)
  else if 'a' ≤ c ∧ c ≤ 'f' then some (c.toNat - 87)
  else if 'A' ≤ c ∧ c ≤ 'F' then some (c.toNat - 55)
  else none

end Pgml.Text
