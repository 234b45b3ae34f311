import Pgml.Color.Palette
import Pgml.Notice

/-! Resolving colour descriptions with a memory. A description that was understood is
remembered until the resolver is reset; one that was not is reported and gets the default
of the call. -/
namespace Pgml

structure Resolver where
  palette : Palette
  used : Table Color
  deriving DecidableEq, Repr

namespace Resolver

def ofPalette (p : Palette) : Resolver := ⟨p, .empty⟩

/-- The colour of a description, the resolver afterwards and what there is to report. -/
def resolve (r : Resolver) (value : String) (default : Color) : Color × Resolver × List Notice :=
  match r.used.get? value with
  | some color => (color, r, [])
  | none =>
    match r.palette.describe? value with
    | some color => (color, { r with used := r.used.insert value color }, [])
    | none => (default, r, [.unknownColor value default])

def reset (r : Resolver) : Resolver := { r with used := .empty }

end Resolver

end Pgml
