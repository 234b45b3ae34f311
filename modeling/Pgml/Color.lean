import Pgml.Text.Hex

/-! Colours as red, green and blue parts. -/
namespace Pgml

structure Color where
  red : Nat
  green : Nat
  blue : Nat
  deriving DecidableEq, Repr

namespace Color

def black : Color := ⟨0, 0, 0⟩
def white : Color := ⟨255, 255, 255⟩
def pureBlue : Color := ⟨0, 0, 255⟩

/-- The last 24 bits of an integer in two's complement, eight bits to a part. -/
def ofInt (rgb : Int) : Color :=
  let n := (rgb % 0x1000000).toNat
  ⟨n / 0x10000, n / 0x100 % 0x100, n % 0x100⟩

/-- A number sign and two hexadecimal digits for each part. -/
def hex (c : Color) : String :=
  String.ofList ('#' :: Text.hexAtLeast 2 c.red ++ Text.hexAtLeast 2 c.green ++ Text.hexAtLeast 2 c.blue)

end Color

end Pgml
