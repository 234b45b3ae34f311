import Pgml.Outline
import Pgml.Proofs.SketchGrowth

/-! Walks over the nodes of a sketch. A walk visits objects from the top down and tells the depth of
each; the outline of a drawing is such a walk. -/
namespace Pgml

/-- Some objects and their parts as they are visited, each with its depth. -/
inductive Visits (nodes : List Node) : Nat → List ItemId → List (Nat × ItemId) → Prop where
  | nil (depth : Nat) : Visits nodes depth [] []
  | cons {depth : Nat} {id : ItemId} {ids : List ItemId} {node : Node} {inner rest : List (Nat × ItemId)} :
      nodes[id.index]? = some node → Visits nodes (depth + 1) node.parts inner →
      Visits nodes depth ids rest → Visits nodes depth (id :: ids) ((depth, id) :: (inner ++ rest))

namespace Visits

variable {nodes : List Node} {depth : Nat} {ids others : List ItemId} {seen more : List (Nat × ItemId)}

theorem append (first : Visits nodes depth ids seen) (second : Visits nodes depth others more) :
    Visits nodes depth (ids ++ others) (seen ++ more) := by
  induction first with
  | nil => exact second
  | cons found inner _ _ ih =>
    simpa only [List.cons_append, List.append_assoc] using cons found inner (ih second)

/-! ## The outline as a walk -/

def portion (items : Array Item) (levels : Nat) (path : List Nat) (part : ItemId × Nat) : List Place :=
  match items[part.1.index]? with
  | some item => ⟨path ++ [part.2], part.1, item⟩ :: Outline.walk items levels (path ++ [part.2]) item.parts
  | none => []

theorem portions_of_visits {items : Array Item} {levels : Nat} {path : List Nat}
    (visits : Visits (items.toList.map Item.node) depth ids seen) (deep : path.length = depth)
    (enough : seen.length ≤ levels + 1) (first : Nat) :
    ((ids.zipIdx first).flatMap (portion items levels path)).map (fun p => (p.depth, p.id)) = seen := by
  -- Levels and path belong to a part, the numbers go on from part to part.
  induction visits generalizing levels path first with
  | nil => rfl
  | @cons depth id ids node inner rest found _ _ inside after =>
    simp only [List.getElem?_map, Array.getElem?_toList, Option.map_eq_some_iff] at found
    obtain ⟨item, here, rfl⟩ := found
    have lengths : inner.length + rest.length ≤ levels := by simpa using enough
    have under : (Outline.walk items levels (path ++ [first]) item.parts).map
        (fun p => (p.depth, p.id)) = inner := by
      cases levels with
      | zero =>
        have none : inner = [] := List.eq_nil_of_length_eq_zero (by omega)
        simp [none, Outline.walk]
      | succ levels => exact inside (by simp [deep]) (by omega) 0
    have few : rest.length ≤ levels + 1 := by omega
    have others := after deep few (first + 1)
    have start : portion items levels path (id, first) =
        ⟨path ++ [first], id, item⟩ :: Outline.walk items levels (path ++ [first]) item.parts := by
      simp [portion, here]
    rw [List.zipIdx_cons, List.flatMap_cons, List.map_append, others, start, List.map_cons, under]
    simp [Place.depth, deep]

/-- An outline with room enough shows what is visited. -/
theorem walk {items : Array Item} {levels : Nat} {path : List Nat}
    (visits : Visits (items.toList.map Item.node) path.length ids seen) (enough : seen.length ≤ levels) :
    (Outline.walk items levels path ids).map (fun p => (p.depth, p.id)) = seen := by
  cases levels with
  | zero =>
    have none : seen = [] := List.eq_nil_of_length_eq_zero (by omega)
    simp [none, Outline.walk]
  | succ levels => exact portions_of_visits visits rfl enough 0

end Visits

end Pgml
