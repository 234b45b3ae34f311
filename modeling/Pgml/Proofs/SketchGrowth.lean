import Pgml.Proofs.Ledger
import Pgml.Proofs.DeskViews

/-! How sketches grow. Content adds nodes behind all others, gives the container around it new parts
and reports where shapes went; what is added in steps is added at once. -/
namespace Pgml

def Node.more (tops : List ItemId) (node : Node) : Node := { node with parts := node.parts ++ tops }

theorem Node.more_nil : Node.more [] = id := by
  funext node
  simp [more]

theorem Node.more_more (tops others : List ItemId) :
    Node.more others ∘ Node.more tops = Node.more (tops ++ others) := by
  funext node
  simp [more]

namespace Sketch

/-- The nodes, that of a container with more parts. -/
def grow (tops : List ItemId) : Container → List Node → List Node
  | .group id, nodes | .edge id, nodes => nodes.modify id.index (Node.more tops)
  | .diagram, nodes | .tray _, nodes => nodes

def crown (tops : List ItemId) : Container → Option (List ItemId) → Option (List ItemId)
  | .diagram, top => top.map (· ++ tops)
  | _, top => top

/-- The sketch after content of a container: the parts for the container, the new nodes and the
reports. -/
def extend (s : Sketch) (c : Container) (tops : List ItemId) (nodes : List Node)
    (warnings : List Notice) : Sketch :=
  ⟨grow tops c s.nodes ++ nodes, crown tops c s.top, s.warnings ++ warnings⟩

def rename (s : Sketch) (id : ItemId) : Option String → Sketch
  | none => s
  | some name => { s with nodes := s.nodes.modify id.index ({ · with name := some name }) }

/-- Whether a container is one of the sketch, and what it is to shapes. -/
def Takes (s : Sketch) : Container → Surroundings → Prop
  | .diagram, .free => s.top.isSome = true
  | .group id, .free => id.index < s.nodes.length
  | .edge id, .edge name taken => ∃ node, s.nodes[id.index]? = some node ∧ node.kind = "Edge" ∧
      node.name = name ∧ node.parts.isEmpty = !taken
  | _, _ => False

variable {s : Sketch} {c : Container} {around : Surroundings}

@[simp] theorem length_grow (tops : List ItemId) (c : Container) (nodes : List Node) :
    (grow tops c nodes).length = nodes.length := by
  cases c <;> simp [grow]

theorem grow_nil (c : Container) (nodes : List Node) : grow [] c nodes = nodes := by
  cases c <;> simp [grow, Node.more_nil]

theorem crown_nil (c : Container) (top : Option (List ItemId)) : crown [] c top = top := by
  cases c <;> simp [crown]

theorem grow_grow (tops more : List ItemId) (c : Container) (nodes : List Node) :
    grow more c (grow tops c nodes) = grow (tops ++ more) c nodes := by
  cases c <;> simp [grow, List.modify_modify_eq, Node.more_more]

theorem crown_crown (tops more : List ItemId) (c : Container) (top : Option (List ItemId)) :
    crown more c (crown tops c top) = crown (tops ++ more) c top := by
  cases c with
  | diagram => cases top <;> simp [crown]
  | _ => rfl

theorem extend_nil (s : Sketch) (c : Container) : s.extend c [] [] [] = s := by
  simp [extend, grow_nil, crown_nil]

theorem modify_append {α : Type} (f : α → α) {l : List α} (m : List α) {i : Nat} (bound : i < l.length) :
    (l ++ m).modify i f = l.modify i f ++ m := by
  induction l generalizing i with
  | nil => simp at bound
  | cons a l ih =>
    cases i with
    | zero => simp
    | succ i => simp [ih (Nat.lt_of_succ_lt_succ bound)]

theorem modify_append_length {α : Type} (f : α → α) (l : List α) (a : α) (m : List α) :
    (l ++ a :: m).modify l.length f = l ++ f a :: m := by
  induction l with
  | nil => simp
  | cons b l ih => simp [ih]

/-- A container of the sketch lies before all new nodes. -/
theorem grow_append (takes : s.Takes c around) (tops : List ItemId) {nodes : List Node}
    (length : nodes.length = s.nodes.length) (more : List Node) :
    grow tops c (nodes ++ more) = grow tops c nodes ++ more := by
  cases c with
  | diagram | tray => rfl
  | group id =>
    cases around with
    | free => exact modify_append _ more (length ▸ takes)
    | edge name taken => exact takes.elim
  | edge id =>
    cases around with
    | free => exact takes.elim
    | edge name taken =>
      obtain ⟨node, found, _⟩ := takes
      obtain ⟨bound, _⟩ := List.getElem?_eq_some_iff.mp found
      exact modify_append _ more (length ▸ bound)

theorem extend_extend (takes : s.Takes c around) (tops more : List ItemId) (nodes others : List Node)
    (warnings notices : List Notice) :
    (s.extend c tops nodes warnings).extend c more others notices =
      s.extend c (tops ++ more) (nodes ++ others) (warnings ++ notices) := by
  simp only [extend, crown_crown, List.append_assoc, Sketch.mk.injEq, and_true]
  rw [grow_append takes more (by simp) nodes, grow_grow, List.append_assoc]

/-- What is added inside the newest group is a part of the group. -/
theorem extend_group (s : Sketch) (c : Container) (tops more : List ItemId) (node : Node)
    (others : List Node) (warnings notices : List Notice) :
    (s.extend c tops [node] warnings).extend (.group ⟨s.nodes.length⟩) more others notices =
      s.extend c tops (node.more more :: others) (warnings ++ notices) := by
  have last := modify_append_length (Node.more more) (grow tops c s.nodes) node []
  rw [length_grow] at last
  have grown : grow more (.group ⟨s.nodes.length⟩) (grow tops c s.nodes ++ [node]) =
      grow tops c s.nodes ++ [node.more more] := last
  have crowned : crown more (.group ⟨s.nodes.length⟩) (crown tops c s.top) = crown tops c s.top := rfl
  simp [extend, grown, crowned]

theorem extend_edge (s : Sketch) (id : ItemId) (tops : List ItemId) (nodes : List Node)
    (warnings : List Notice) :
    s.extend (.edge id) tops nodes warnings = s.extend (.group id) tops nodes warnings := rfl

theorem rename_newest (s : Sketch) (c : Container) (tops : List ItemId) (node : Node)
    (warnings : List Notice) (name : Option String) :
    (s.extend c tops [node] warnings).rename ⟨s.nodes.length⟩ name =
      s.extend c tops [{ node with name := name.or node.name }] warnings := by
  cases name with
  | none => rfl
  | some name =>
    have last := modify_append_length ({ · with name := some name }) (grow tops c s.nodes) node []
    rw [length_grow] at last
    simp [extend, rename, last]

/-! ## Containers -/

theorem takes_free (takes : s.Takes c .free) (tops : List ItemId) (nodes : List Node)
    (warnings : List Notice) : (s.extend c tops nodes warnings).Takes c .free := by
  cases c with
  | diagram => simpa [Takes, extend, crown] using takes
  | group id =>
    have bound : id.index < s.nodes.length := takes
    simp only [Takes, extend, List.length_append, length_grow]
    omega
  | edge | tray => exact takes.elim

/-- An edge is taken if it was or if it got a part. -/
theorem takes_edge {name : Option String} {taken : Bool} (takes : s.Takes c (.edge name taken))
    (tops : List ItemId) (nodes : List Node) (warnings : List Notice) :
    (s.extend c tops nodes warnings).Takes c (.edge name (taken || !tops.isEmpty)) := by
  cases c with
  | diagram | group | tray => exact takes.elim
  | edge id =>
    obtain ⟨node, found, kind, named, parts⟩ := takes
    obtain ⟨bound, _⟩ := List.getElem?_eq_some_iff.mp found
    refine ⟨node.more tops, ?_, kind, named, ?_⟩
    · have within : id.index < (grow tops (.edge id) s.nodes).length := by simpa using bound
      simp only [extend, List.getElem?_append_left within]
      simp [grow, found]
    · cases tops <;> simp_all [Node.more]

theorem takes_extend (takes : s.Takes c around) (nodes : List Node) (warnings : List Notice) :
    (s.extend c [] nodes warnings).Takes c around := by
  cases around with
  | free => exact takes_free takes [] nodes warnings
  | edge name taken => simpa using takes_edge takes [] nodes warnings

theorem takes_offer (takes : s.Takes c around) (shape : Shape) (id : ItemId) (nodes : List Node)
    (warnings : List Notice) :
    (s.extend c ((around.offer shape).1.tops id) nodes warnings).Takes c (around.offer shape).2 := by
  cases around with
  | free => exact takes_free takes [id] nodes warnings
  | edge name taken =>
    simp only [Surroundings.offer]
    split
    · simpa [Fate.tops] using takes_edge takes [id] nodes warnings
    · simpa [Fate.tops] using takes_edge takes [] nodes warnings

theorem takes_newest_group (s : Sketch) (c : Container) (tops : List ItemId) (node : Node)
    (warnings : List Notice) :
    (s.extend c tops [node] warnings).Takes (.group ⟨s.nodes.length⟩) .free := by
  simp [Takes, extend]

theorem takes_newest_edge (s : Sketch) (c : Container) (tops : List ItemId) {node : Node}
    (edge : node.kind = "Edge") (empty : node.parts = []) (warnings : List Notice) :
    (s.extend c tops [node] warnings).Takes (.edge ⟨s.nodes.length⟩) (.edge node.name false) := by
  have last : (grow tops c s.nodes ++ [node])[s.nodes.length]? = some node := by simp
  exact ⟨node, last, edge, rfl, by simp [empty]⟩

end Sketch

end Pgml
