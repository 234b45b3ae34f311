import Pgml.Text.Range

/-! White space in the wide sense: the Unicode spaces, the line and paragraph separators
and the ASCII control characters that separate. -/
namespace Pgml.Text

def blankRanges : List Range := [
  (0x9, 0xd), (0x1c, 0x20), (0x85, 0x85), (0xa0, 0xa0), (0x1680, 0x1680), (0x2000, 0x200a),
  (0x2028, 0x2029), (0x202f, 0x202f), (0x205f, 0x205f), (0x3000, 0x3000)]

def isBlank (c : Char) : Bool := inRanges blankRanges c.toNat

/-- The text without the characters of a class at both of its ends. -/
def trimList (drop : Char → Bool) (cs : List Char) : List Char :=
  ((cs.dropWhile drop).reverse.dropWhile drop).reverse

/-- The text without white space at both of its ends. -/
def strip (cs : List Char) : List Char := trimList isBlank cs

end Pgml.Text
