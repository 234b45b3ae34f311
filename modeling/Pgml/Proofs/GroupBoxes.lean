import Pgml.Proofs.AttributeChanges
import Pgml.Proofs.ShapeOrigins

/-! The boxes of groups. A group's element says the box in its type hint or in its attributes, or leaves it
to what is drawn inside; the finished drawing has that box, at whatever depth the group lies. -/
namespace Pgml

open Desk Vocabulary

theorem Attributes.isNone_box? {as : Attributes} {box : Option Bounds} (said : as.box? = .ok box) :
    box.isNone = (as.value? "x").isNone := by
  obtain ⟨x, read, said⟩ := except_bind_eq_ok said
  have same : x.isNone = (as.value? "x").isNone := by
    unfold Attributes.int? at read
    cases value : as.value? "x" with
    | none =>
      obtain rfl : none = x := by simpa [value] using read
      rfl
    | some text =>
      rw [value] at read
      cases number : Attributes.toInt text "x" with
      | error e => simp [number, Except.map] at read
      | ok n =>
        obtain rfl : some n = x := by simpa [number, Except.map] using read
        rfl
  rw [← same]
  cases x with
  | none =>
    obtain rfl : none = box := by simpa using said
    rfl
  | some x =>
    obtain ⟨y, _, said⟩ := except_bind_eq_ok said
    obtain ⟨width, _, said⟩ := except_bind_eq_ok said
    obtain ⟨height, _, said⟩ := except_bind_eq_ok said
    obtain rfl := Except.ok.inj said
    rfl

/-- The box of a group by its element and by the boxes of its children: four tokens of the type hint come
before an `x`, and that before the children. -/
def Setup.groupBox (setup : Setup) (as : Attributes) (boxes : List Bounds) : Except Fault Bounds :=
  match setup.geometry as with
  | x :: y :: width :: height :: _ => do
    return ⟨← Attributes.toInt x "group geometry", ← Attributes.toInt y "group geometry",
      ← Attributes.toInt width "group geometry", ← Attributes.toInt height "group geometry"⟩
  | _ => do
    match ← as.box? with
    | some box => return box
    | none => return (Bounds.union? boxes).getD .zero

/-! ## What attributes do to a box -/

namespace Shape

variable {setup : Setup} {p : Palette} {as : Attributes} {s t : Shape}

theorem attributed_box (attributed : s.attributed setup p as = .ok t) :
    ∃ box, as.box? = .ok box ∧ t.bounds = box.getD s.bounds := by
  obtain ⟨u, styled, owned⟩ := except_bind_eq_ok attributed
  have same : t.bounds = u.bounds := by
    unfold Shape.owned at owned
    split at owned
    · obtain rfl := Except.ok.inj owned
      rfl
    · split at owned
      · contradiction
      · obtain rfl := Except.ok.inj owned
        rfl
  obtain ⟨c, told, rfl⟩ := Shape.change_of_styled styled
  obtain ⟨box, _, _, said, _, _, rfl⟩ := Attributes.change_eq_ok_iff.mp told
  exact ⟨box, said, same⟩

theorem bounds_supply (data : List (String × String)) (s : Shape) : (s.supply data).bounds = s.bounds := by
  obtain ⟨bounds, style, name, owner, given, variant⟩ := s
  cases variant <;> rfl

theorem kind_around (boxes : List Bounds) (s : Shape) : (s.around boxes).kind = s.kind := by
  unfold Shape.around
  split <;> rfl

theorem bounds_around (boxes : List Bounds) (s : Shape) :
    (s.around boxes).bounds = (Bounds.union? boxes).getD s.bounds := by
  unfold Shape.around
  split
  next box union => simp [union, withBounds]
  next none => simp [none]

end Shape

/-! ## Groups -/

section

variable {setup : Setup} {p : Palette} {as : Attributes} {name : String} {within : Content}
  {inner : Except Fault Figures} {s t u : Shape} {parts : Forest} {interior : Interior}

/-- An element's shape is finished at its start tag and closed at its end. -/
theorem finished_of_portrayed (role : setup.role name as = .shape s interior)
    (drawn : setup.portray p name as within inner = .ok ⟨.cons u parts .nil, []⟩) :
    ∃ t, s.finish setup p as name = .ok t ∧
      t.close (s.content? setup as name ⟨0⟩) within inner = .ok (.cons u parts .nil) := by
  simp only [Setup.portray, role] at drawn
  obtain ⟨t, finished, drawn⟩ := except_bind_eq_ok drawn
  obtain ⟨forest, closed, drawn⟩ := except_bind_eq_ok drawn
  obtain rfl : forest = .cons u parts .nil := by simpa using drawn
  exact ⟨t, finished, closed⟩

/-- What an element draws is of the kind that was made for it. -/
theorem kind_of_portrayed (role : setup.role name as = .shape s interior)
    (drawn : setup.portray p name as within inner = .ok ⟨.cons u parts .nil, []⟩) : u.kind = s.kind := by
  obtain ⟨t, finished, closed⟩ := finished_of_portrayed role drawn
  have kind : t.kind = s.kind := (Shape.finish_kin finished).1.variant.kind
  unfold Shape.close at closed
  split at closed
  next derive =>
    obtain ⟨figures, _, closed⟩ := except_bind_eq_ok closed
    obtain ⟨rfl, _⟩ := Forest.cons.inj (Except.ok.inj closed)
    split
    · rw [Shape.kind_around, Shape.kind_supply, kind]
    · rw [Shape.kind_supply, kind]
  next =>
    obtain ⟨figures, _, closed⟩ := except_bind_eq_ok closed
    obtain ⟨rfl, _⟩ := Forest.cons.inj (Except.ok.inj closed)
    rw [Shape.kind_supply, kind]
  next =>
    obtain ⟨v, filled, closed⟩ := except_bind_eq_ok closed
    obtain ⟨rfl, _⟩ := Forest.cons.inj (Except.ok.inj closed)
    exact (Shape.fill_tuned filled).kin.variant.kind.trans kind

/-- Groups are made at the origin, without a size. -/
theorem bounds_of_group (types : setup.types = .builtin) (role : setup.role "group" as = .shape s .group) :
    s.bounds = .zero := by
  have kind := kind_of_group types role
  rcases hinted_or_usual (by rw [role]; rfl) with hinted | ⟨_, usual⟩
  · obtain ⟨key, member⟩ := mem_of_hinted types hinted
    simp only [TypeTable.builtinEntries, List.mem_cons, List.not_mem_nil, or_false] at member
    rcases member with same | same | same | same | same | same | same | same <;> cases same <;>
      first | rfl | contradiction
  · contradiction

/-- The box of a group is the one that its element says, or follows from what is drawn inside. -/
theorem box_of_portrayed (types : setup.types = .builtin) (role : setup.role "group" as = .shape s .group)
    (drawn : setup.portray p "group" as within inner = .ok ⟨.cons u parts .nil, []⟩) :
    setup.groupBox as parts.boxes = .ok u.bounds := by
  obtain ⟨children, variant⟩ := kind_group (kind_of_group types role)
  obtain ⟨t, finished, closed⟩ := finished_of_portrayed role drawn
  simp only [Shape.content?, variant, Shape.close] at closed
  obtain ⟨figures, _, closed⟩ := except_bind_eq_ok closed
  obtain ⟨rfl, rfl, _⟩ := Forest.cons.inj (Except.ok.inj closed)
  simp only [Shape.finish, variant] at finished
  obtain ⟨v, attributed, finished⟩ := except_bind_eq_ok finished
  obtain ⟨box, said, bounds⟩ := Shape.attributed_box attributed
  rw [bounds_of_group types role] at bounds
  cases geometry : setup.geometry as with
  | nil =>
    obtain rfl : v = t := by simpa [geometry] using finished
    rw [← Attributes.isNone_box? said]
    unfold Setup.groupBox
    rw [geometry]
    simp only [said, except_ok_bind]
    cases box with
    | none => simp [Shape.bounds_around, Shape.bounds_supply, bounds]
    | some box => simp [Shape.bounds_supply, bounds]
  | cons token more =>
    simp only [geometry, List.isEmpty_cons, Bool.false_eq_true, if_false] at finished
    obtain ⟨b, read, finished⟩ := except_bind_eq_ok finished
    obtain rfl := Except.ok.inj finished
    simp only [List.isEmpty_cons, Bool.false_and, Bool.false_eq_true, if_false, Shape.bounds_supply]
    unfold hintBounds at read
    split at read
    next x y width height rest same =>
      rw [Setup.groupBox, geometry, same]
      exact read
    · contradiction

end

namespace Reader

/-- The boxes of the finished drawing. Every object in the diagram was made for an element of the document,
and every group that was made for a group element has the box that its type hint says, else the one that its
attributes say, else the smallest box around the boxes that its children have in the end. -/
theorem parse_group_boxes {feed : Feed} {r after : Reader} {diagram : Diagram}
    (types : r.setup.types = .builtin) (read : parse .root feed r = (.ok diagram, after)) :
    ∃ before root as inner rest, feed.events = document before root as inner rest ∧
      (∀ p ∈ Outline.ofObjects after.desk.items diagram.shapes, ∃ name as within s g,
        Occurs r.setup name as within inner 0 p.id.index ∧ (r.setup.role name as).made? = some s ∧
        p.item = .shape g ∧ after.desk.shape? p.id = some g) ∧
      ∀ as within s place g, Occurs r.setup "group" as within inner 0 place →
        (r.setup.role "group" as).made? = some s → after.desk.shape? ⟨place⟩ = some g → g.kind = "Group" →
        ∃ boxes : List Bounds,
          g.variant.parts.map (fun id => (after.desk.shape? id).map (·.bounds)) = boxes.map some ∧
          r.setup.groupBox as boxes = .ok g.bounds := by
  obtain ⟨before, root, as, inner, rest, word, stems⟩ := stems_of_parse types read
  refine ⟨before, root, as, inner, rest, word, fun p member => stems.maker_of_place member, ?_⟩
  · intro as within s place g occurs made found kind
    have role := role_of_made made (by decide)
    obtain ⟨u, parts, v, drawn, there, rfl, boxes⟩ := stems.drawn "group" as within s _ place occurs role
    obtain rfl : v = g := Option.some.inj (there.symm.trans found)
    have same : v.kind = s.kind := by rw [← Shape.kind_loose, kind_of_portrayed role drawn]
    obtain ⟨children, variant⟩ := kind_group (same.symm.trans kind)
    rw [variant] at role
    have box : r.setup.groupBox as parts.boxes = .ok v.loose.bounds := box_of_portrayed types role drawn
    exact ⟨parts.boxes, boxes, box⟩

/-- A group around three others: one with a box in its type hint, one with an `x` inside a private element
and an empty one. -/
def nest : Content :=
  .element "group" [("description", "group"), ("y", "7")]
    (.element "group" [("description", "group[1,2,3,4]"), ("x", "50")] (.element "text" [] .empty .empty)
      (.element "private" []
        (.element "group" [("description", "group"), ("x", "10"), ("width", "5")]
          (.element "ellipse" [] .empty .empty) .empty)
        (.element "group" [("description", "group")] .empty .empty))) .empty

theorem parse_group_boxes_of_nest :
    let r : Reader := ⟨.plain, ⟨[], false, Desk.fresh .builtin⟩⟩
    let feed : Feed := .ofEvents (document [] "pgml" [] nest [])
    ∃ diagram after, parse .root feed r = (.ok diagram, after) ∧
      ((after.desk.shape? ⟨0⟩).map (·.bounds), (after.desk.shape? ⟨1⟩).map (·.bounds),
        (after.desk.shape? ⟨3⟩).map (·.bounds), (after.desk.shape? ⟨5⟩).map (·.bounds)) =
        (some ⟨0, 0, 15, 20⟩, some ⟨1, 2, 3, 4⟩, some ⟨10, 0, 5, 20⟩, some .zero) ∧
      ∃ g boxes, after.desk.shape? ⟨0⟩ = some g ∧
        g.variant.parts.map (fun id => (after.desk.shape? id).map (·.bounds)) = boxes.map some ∧
        r.setup.groupBox [("description", "group"), ("y", "7")] boxes = .ok g.bounds := by
  intro r feed
  have shown : (parse .root feed r).1.isOk = true ∧
      (((parse .root feed r).2.desk.shape? ⟨0⟩).map (·.bounds), ((parse .root feed r).2.desk.shape? ⟨1⟩).map (·.bounds),
        ((parse .root feed r).2.desk.shape? ⟨3⟩).map (·.bounds),
        ((parse .root feed r).2.desk.shape? ⟨5⟩).map (·.bounds)) =
        (some ⟨0, 0, 15, 20⟩, some ⟨1, 2, 3, 4⟩, some ⟨10, 0, 5, 20⟩, some .zero) ∧
      ((parse .root feed r).2.desk.shape? ⟨0⟩).map (·.kind) = some "Group" := by
    decide +kernel
  obtain ⟨fine, boxes, kind⟩ := shown
  rcases ran : parse .root feed r with ⟨_ | diagram, after⟩
  · simp [ran, Except.isOk, Except.toBool] at fine
  obtain ⟨_, _, _, inner, _, word, _, groups⟩ := parse_group_boxes rfl ran
  obtain rfl := document_inj word
  rw [ran] at boxes kind
  obtain ⟨g, found, kind⟩ := Option.map_eq_some_iff.mp kind
  obtain ⟨around, parts, box⟩ := groups _ _ (.ofVariant .emptyGroup) 0 g (.here _ _) rfl found kind
  exact ⟨diagram, after, rfl, boxes, g, around, found, parts, box⟩

end Reader

end Pgml
