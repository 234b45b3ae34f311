/-! Bounding boxes: a corner and a size, which may be negative. -/
namespace Pgml

structure Bounds where
  x : Int
  y : Int
  width : Int
  height : Int
  deriving DecidableEq, Repr

namespace Bounds

def zero : Bounds := ⟨0, 0, 0, 0⟩

instance : Inhabited Bounds := ⟨zero⟩

def right (b : Bounds) : Int := b.x + b.width
def bottom (b : Bounds) : Int := b.y + b.height

/-- The box from a left upper to a right lower corner. -/
def ofCorners (left top right bottom : Int) : Bounds := ⟨left, top, right - left, bottom - top⟩

/-- The smallest box around two boxes. -/
def union (a b : Bounds) : Bounds :=
  ofCorners (min a.x b.x) (min a.y b.y) (max a.right b.right) (max a.bottom b.bottom)

/-- The smallest box around some boxes. A single box is returned as it is. -/
def union? : List Bounds → Option Bounds
  | [] => none
  | first :: rest => some (rest.foldl union first)

/-- The smallest box around a point and some more. -/
def around (first : Int × Int) (rest : List (Int × Int)) : Bounds :=
  let xs := rest.map (·.1)
  let ys := rest.map (·.2)
  ofCorners (xs.foldl min first.1) (ys.foldl min first.2) (xs.foldl max first.1) (ys.foldl max first.2)

/-- The box that two points span. -/
def spanned (x1 y1 x2 y2 : Int) : Bounds :=
  ofCorners (min x1 x2) (min y1 y2) (max x1 x2) (max y1 y2)

end Bounds

end Pgml
