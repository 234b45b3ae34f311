/-! Sets of characters given as ranges of code points. -/
namespace Pgml.Text

/-- The first and the last code point of a range. -/
abbrev Range := Nat × Nat

def inRanges (ranges : List Range) (n : Nat) : Bool :=
  ranges.any fun r => r.1 ≤ n && n ≤ r.2

end Pgml.Text
