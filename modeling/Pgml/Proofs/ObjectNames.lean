import Pgml.Proofs.DeskStock

/-! The roll of a desk: the kind and the name of every object, in the order in which objects came to be, and
which object is called by which name. Of all that handlers do, only the making of an object and its naming
change the roll. -/
namespace Pgml

structure Roll where
  entries : List (String × Option String)
  names : Table ItemId
  deriving DecidableEq, Repr

/-- One more object, called by its name if it has one. -/
def Roll.enter (r : Roll) (kind : String) (name : Option String) : Roll :=
  ⟨r.entries ++ [(kind, name)], (name.map fun n => r.names.insert n ⟨r.entries.length⟩).getD r.names⟩

def Desk.roll (d : Desk) : Roll := ⟨d.items.toList.map fun item => (item.kind, item.name?), d.names⟩

namespace Stock

variable {k : Stock} {s : Shape}

def roll (k : Stock) : Roll := ⟨k.shapes.map fun s => (s.kind, s.name), k.names⟩

theorem roll_make (nameless : s.name = none) : (k.make s).roll = k.roll.enter s.kind none := by
  simp [roll, make, Roll.enter, nameless]

theorem roll_make_congr {l : Stock} (same : l.roll = k.roll) : (l.make s).roll = (k.make s).roll := by
  obtain ⟨entries, names⟩ := Roll.mk.inj same
  simp [roll, make, entries, names]

/-- A shape that is called by its name. -/
theorem roll_call : ((k.call s.name k.next).make s).roll = k.roll.enter s.kind s.name := by
  simp [roll, make, call, next, Roll.enter]

/-- The roll follows from what shows. -/
theorem roll_of_skeleton {l : Stock} (same : l.skeleton = k.skeleton) (names : l.names = k.names) :
    l.roll = k.roll := by
  have entry := congrArg (List.map fun e => (e.1.kind, e.1.name)) same
  have entries : l.shapes.map (fun s => (s.kind, s.name)) = k.shapes.map fun s => (s.kind, s.name) := by
    simpa [skeleton, Item.node, Item.kind, Item.name?, Function.comp_def] using entry
  simp [roll, entries, names]

/-- Whatever does not depend on the parts of shapes stays when an object is offered. -/
theorem map_offer {α : Type} {view : Shape → α} (c : Container) (child : ItemId) (isPath : Bool)
    (kept : ∀ s : Shape, view (s.adopt child isPath) = view s) :
    (k.offer c child isPath).shapes.map view = k.shapes.map view := by
  have adopted (id : ItemId) : (k.modify id (Shape.adopt child isPath)).shapes.map view = k.shapes.map view := by
    refine List.ext_getElem? fun i => ?_
    simp only [modify, List.getElem?_map, List.getElem?_modify]
    cases k.shapes[i]? with
    | none => rfl
    | some s => by_cases here : id.index = i <;> simp [here, kept]
  cases c with
  | diagram | tray => rfl
  | group id | edge id => exact adopted id

theorem roll_offer (c : Container) (child : ItemId) (isPath : Bool) :
    (k.offer c child isPath).roll = k.roll := by
  have names : (k.offer c child isPath).names = k.names := by cases c <;> rfl
  have entries : (k.offer c child isPath).shapes.map (fun s => (s.kind, s.name)) =
      k.shapes.map fun s => (s.kind, s.name) :=
    map_offer c child isPath fun s => Prod.ext (kind_adopt child isPath s) rfl
  simp [roll, names, entries]

end Stock

end Pgml
