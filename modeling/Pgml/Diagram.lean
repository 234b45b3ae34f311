import Pgml.Number.Binary64
import Pgml.Shape

/-! The root of a document. -/
namespace Pgml

structure Diagram where
  name : String
  /-- The first part of the root's type hint, up to a vertical bar. -/
  kind : Option String
  scale : Number.Binary64
  /-- The root's attributes that have no field of their own. -/
  attributes : Table String
  privateData : Table String
  shapes : List ItemId
  deriving DecidableEq, Repr

def Diagram.named (name : String) : Diagram := ⟨name, none, .one, .empty, .empty, []⟩

end Pgml
