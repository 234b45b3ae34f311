import Pgml.Proofs.LinkedStyling
import Pgml.Vocabulary

/-! Two views of a desk. Its sketch is how objects are put together: the kind, the name and the parts
of each, the diagram's shapes and the reports on where shapes went. Its dress is what attributes
give: the looks of objects, their names and the colours. Most of what handlers do is quiet: it shows
in neither view. -/
namespace Pgml

structure Node where
  kind : String
  name : Option String
  isPath : Bool
  parts : List ItemId
  deriving DecidableEq, Repr

structure Look where
  name : Option String
  style : Style
  owner : Option Value
  deriving DecidableEq, Repr

def Item.node (item : Item) : Node := ⟨item.kind, item.name?, item.isPath, item.parts⟩

def Item.look : Item → Option Look
  | shape s => some ⟨s.name, s.style, s.owner⟩
  | thing _ => none

/-- Two shapes that differ in nothing that shows. -/
structure Shape.Same (s t : Shape) : Prop where
  node : (Item.shape s).node = (Item.shape t).node
  look : (Item.shape s).look = (Item.shape t).look

namespace Shape.Same

variable {s t : Shape}

theorem kind (same : t.Same s) : t.kind = s.kind := congrArg Node.kind same.node

theorem name (same : t.Same s) : t.name = s.name := congrArg Node.name same.node

theorem owner (same : t.Same s) : t.owner = s.owner := congrArg Look.owner (Option.some.inj same.look)

end Shape.Same

namespace Notice

/-- Reports on shapes that did not go where they were to go. -/
def isPlacing : Notice → Bool
  | cannotAdd .. | privateInstance _ | privateContainer _ | edgeCannotTake .. => true
  | _ => false

def isColor : Notice → Bool
  | unknownColor .. => true
  | _ => false

end Notice

@[ext]
structure Sketch where
  nodes : List Node
  top : Option (List ItemId)
  warnings : List Notice
  deriving DecidableEq, Repr

structure Dress where
  looks : List (Option Look)
  names : Table ItemId
  colors : Resolver
  notices : List Notice
  deriving DecidableEq, Repr

namespace Desk

open Work (Any)

def sketch (d : Desk) : Sketch :=
  ⟨d.items.toList.map Item.node, d.diagram.map (·.shapes), d.notices.filter Notice.isPlacing⟩

def dress (d : Desk) : Dress :=
  ⟨d.items.toList.map Item.look, d.names, d.colors, d.notices.filter Notice.isColor⟩

/-- A desk as it looks from both sides. -/
structure Shows (s : Sketch) (o : Dress) (d : Desk) : Prop where
  sketch : d.sketch = s
  dress : d.dress = o

/-- Work that shows nowhere when it succeeds. -/
abbrev Quiet {α : Type} (answer : α → Prop) (w : Work Desk α) : Prop :=
  ∀ s o, Work.Keeps (Shows s o) answer w

theorem set_of_getElem? {α : Type} {l : List α} {i : Nat} {a : α} (found : l[i]? = some a) :
    l.set i a = l := by
  obtain ⟨bound, rfl⟩ := List.getElem?_eq_some_iff.mp found
  exact List.set_getElem_self bound

theorem modify_of_getElem? {α : Type} {l : List α} {i : Nat} {a : α} (f : α → α)
    (found : l[i]? = some a) : l.modify i f = l.set i (f a) := by
  induction l generalizing i with
  | nil => simp at found
  | cons b l ih =>
    cases i with
    | zero =>
      obtain rfl : b = a := by simpa using found
      simp
    | succ i => simp [ih (by simpa using found)]

theorem sketch_setShape (d : Desk) (id : ItemId) (s : Shape) :
    (d.setShape id s).sketch =
      { d.sketch with nodes := d.sketch.nodes.set id.index (Item.shape s).node } := by
  simp [sketch, setShape, notices, List.map_set]

theorem dress_setShape (d : Desk) (id : ItemId) (s : Shape) :
    (d.setShape id s).dress =
      { d.dress with looks := d.dress.looks.set id.index (Item.shape s).look } := by
  simp [dress, setShape, notices, List.map_set]

theorem shape?_eq_some {d : Desk} {id : ItemId} {s : Shape} :
    d.shape? id = some s ↔ d.items[id.index]? = some (.shape s) := by
  unfold shape? item?
  split
  next t found => simp [found]
  next other =>
    constructor
    · intro absurd
      contradiction
    · intro found
      exact absurd found (other s)

theorem node_of_shape? {d : Desk} {id : ItemId} {s : Shape} (found : d.shape? id = some s) :
    d.sketch.nodes[id.index]? = some (Item.shape s).node := by
  have item := shape?_eq_some.mp found
  simp [sketch, item]

theorem look_of_shape? {d : Desk} {id : ItemId} {s : Shape} (found : d.shape? id = some s) :
    d.dress.looks[id.index]? = some (Item.shape s).look := by
  have item := shape?_eq_some.mp found
  simp [dress, item]

theorem notices_addNotices (ns : List Notice) (d : Desk) :
    (d.addNotices ns).notices = d.notices ++ ns := by
  simp [notices, addNotices]

/-! ## Work on one shape -/

theorem needShape_ok {id : ItemId} {s : Shape} {d after : Desk}
    (ran : needShape id d = (.ok s, after)) : d.shape? id = some s ∧ d = after := by
  unfold needShape at ran
  cases found : d.shape? id with
  | none => simp [found] at ran
  | some t => simpa [found] using ran

theorem tryShape_ok {id : ItemId} {f : Shape → Option Shape} {d after : Desk}
    (ran : tryShape id f d = (.ok (), after)) :
    ∃ s t, d.shape? id = some s ∧ f s = some t ∧ after = d.setShape id t := by
  obtain ⟨s, u, needed, rest⟩ := Work.bind_eq_ok ran
  obtain ⟨found, rfl⟩ := needShape_ok needed
  cases made : f s with
  | none => simp [made] at rest
  | some t =>
    simp only [made, Work.update_apply, Prod.mk.injEq, true_and] at rest
    exact ⟨s, t, found, made, rest.symm⟩

theorem updateShape_ok {id : ItemId} {f : Shape → Shape} {d after : Desk}
    (ran : updateShape id f d = (.ok (), after)) :
    ∃ s, d.shape? id = some s ∧ after = d.setShape id (f s) := by
  obtain ⟨s, u, needed, rest⟩ := Work.bind_eq_ok ran
  obtain ⟨found, rfl⟩ := needShape_ok needed
  exact ⟨s, found, (congrArg Prod.snd rest).symm⟩

theorem shows_setShape {sk : Sketch} {o : Dress} {d : Desk} {id : ItemId} {s t : Shape}
    (shows : Shows sk o d) (found : d.shape? id = some s) (same : t.Same s) :
    Shows sk o (d.setShape id t) := by
  constructor
  · rw [sketch_setShape, same.node, set_of_getElem? (node_of_shape? found)]
    exact shows.sketch
  · rw [dress_setShape, same.look, set_of_getElem? (look_of_shape? found)]
    exact shows.dress

/-- A change of what a variant holds shows nowhere if kind and parts stay. -/
theorem same_of_variant {s t : Shape} {v : Variant} (before : s.variant = v)
    (kind : t.variant.kind = v.kind) (path : (Item.shape t).isPath = (Item.shape s).isPath)
    (parts : t.variant.parts = v.parts) (look : (Item.shape t).look = (Item.shape s).look) :
    t.Same s := by
  subst before
  have name : t.name = s.name := congrArg Look.name (Option.some.inj look)
  refine ⟨?_, look⟩
  simp [Item.node, Item.kind, Item.name?, Item.parts, Shape.kind, kind, path, parts, name]

/-! ## Quiet work -/

theorem quiet_pure {α : Type} {answer : α → Prop} {a : α} (fits : answer a) :
    Quiet answer (pure a : Work Desk α) :=
  fun _ _ => Work.Keeps.pure fits

theorem quiet_fail {α : Type} {answer : α → Prop} (e : Fault) : Quiet answer (.fail e : Work Desk α) :=
  fun _ _ => .fail e

theorem Quiet.bind {α β : Type} {answer : α → Prop} {final : β → Prop} {w : Work Desk α}
    {f : α → Work Desk β} (first : Quiet answer w) (next : ∀ a, answer a → Quiet final (f a)) :
    Quiet final (w >>= f) :=
  fun s o => Work.Keeps.bind (first s o) fun a fits => next a fits s o

theorem quiet_settle {α : Type} (r : Except Fault α) : Quiet Any (.settle r : Work Desk α) := by
  intro s o d a t shows ran
  rw [Work.settle_apply] at ran
  obtain ⟨_, rfl⟩ := Prod.mk.inj ran
  exact ⟨shows, trivial⟩

theorem quiet_current {α : Type} {answer : α → Prop} {f : Desk → Work Desk α}
    (each : ∀ d, Quiet answer (f d)) : Quiet answer (.current >>= f) :=
  fun s o d a t shows ran => each d s o d a t shows ran

theorem quiet_update {f : Desk → Desk} (sketch : ∀ d, (f d).sketch = d.sketch)
    (dress : ∀ d, (f d).dress = d.dress) : Quiet Any (.update f) := by
  rintro s o d _ _ shows ⟨⟩
  exact ⟨⟨(sketch d).trans shows.sketch, (dress d).trans shows.dress⟩, trivial⟩

theorem note_quiet {n : Notice} (placing : n.isPlacing = false) (color : n.isColor = false) :
    Quiet Any (note n) := by
  refine quiet_update (fun d => ?_) fun d => ?_
  · simp only [sketch, notices_addNotices, List.filter_append]
    simp [addNotices, placing]
  · simp only [dress, notices_addNotices, List.filter_append]
    simp [addNotices, color]

theorem needShape_quiet (id : ItemId) : Quiet Any (needShape id) := by
  intro sk o d s t shows ran
  obtain ⟨_, rfl⟩ := needShape_ok ran
  exact ⟨shows, trivial⟩

theorem tryShape_quiet (id : ItemId) {f : Shape → Option Shape}
    (same : ∀ s t, f s = some t → t.Same s) : Quiet Any (tryShape id f) := by
  intro sk o d _ _ shows ran
  obtain ⟨s, t, found, made, rfl⟩ := tryShape_ok ran
  exact ⟨shows_setShape shows found (same s t made), trivial⟩

theorem updateShape_quiet (id : ItemId) {f : Shape → Shape} (same : ∀ s, (f s).Same s) :
    Quiet Any (updateShape id f) := by
  intro sk o d _ _ shows ran
  obtain ⟨s, found, rfl⟩ := updateShape_ok ran
  exact ⟨shows_setShape shows found (same s), trivial⟩

theorem withBounds_same (s : Shape) (b : Bounds) : (s.withBounds b).Same s := ⟨rfl, rfl⟩

theorem setBounds_quiet (id : ItemId) (b : Bounds) : Quiet Any (setBounds id b) :=
  updateShape_quiet id fun s => withBounds_same s b

theorem boundsOf_quiet (ids : List ItemId) : Quiet Any (boundsOf ids) := by
  have box (id : ItemId) : Quiet Any (do return (← needShape id).bounds) :=
    (needShape_quiet id).bind fun _ _ => quiet_pure trivial
  unfold boundsOf
  induction ids with
  | nil => exact quiet_pure trivial
  | cons id ids ih =>
    rw [List.mapM_cons]
    exact (box id).bind fun _ _ => ih.bind fun _ _ => quiet_pure trivial

theorem calcBounds_quiet (id : ItemId) : Quiet Any (calcBounds id) := by
  refine (needShape_quiet id).bind fun s _ => ?_
  split
  · refine (boundsOf_quiet _).bind fun boxes _ => ?_
    split
    · exact setBounds_quiet id _
    · exact quiet_pure trivial
  · exact quiet_fail _
  · exact setBounds_quiet id _
  · exact setBounds_quiet id _
  · exact quiet_fail _

/-! ## Points and private data -/

section

variable {s t : Shape} {x y : Int}

theorem addPoint?_same (made : s.addPoint? x y = some t) : t.Same s := by
  cases variant : s.variant with
  | polygon points =>
    cases points <;>
    · simp only [Shape.addPoint?, variant, List.nil_append, List.cons_append, Option.some.injEq] at made
      subst made
      exact same_of_variant variant rfl (by simp [Item.isPath, variant]) rfl rfl
  | _ => simp [Shape.addPoint?, variant] at made

theorem setStart?_same (made : s.setStart? x y = some t) : t.Same s := by
  cases variant : s.variant with
  | line x1 y1 x2 y2 =>
    simp only [Shape.setStart?, variant, Option.some.injEq] at made
    subst made
    exact same_of_variant variant rfl (by simp [Item.isPath, variant]) rfl rfl
  | _ => simp [Shape.setStart?, variant] at made

theorem setEnd?_same (made : s.setEnd? x y = some t) : t.Same s := by
  cases variant : s.variant with
  | line x1 y1 x2 y2 =>
    simp only [Shape.setEnd?, variant, Option.some.injEq] at made
    subst made
    exact same_of_variant variant rfl (by simp [Item.isPath, variant]) rfl rfl
  | _ => simp [Shape.setEnd?, variant] at made

end

theorem addPoint_quiet (id : ItemId) (x y : Int) : Quiet Any (addPoint id x y) :=
  tryShape_quiet id fun _ _ => addPoint?_same

theorem setStart_quiet (id : ItemId) (x y : Int) : Quiet Any (setStart id x y) :=
  tryShape_quiet id fun _ _ => setStart?_same

theorem setEnd_quiet (id : ItemId) (x y : Int) : Quiet Any (setEnd id x y) :=
  tryShape_quiet id fun _ _ => setEnd?_same

theorem addPrivate_quiet (id : ItemId) (data : List (String × String)) :
    Quiet Any (updateShape id (addPrivate data)) :=
  updateShape_quiet id fun _ => ⟨rfl, rfl⟩

theorem connect_same (joint : Joint) (target : Option ItemId) (s : Shape) :
    (connect joint target s).Same s := by
  unfold connect
  split
  next path connections variant => exact same_of_variant variant rfl (by simp [Item.isPath, variant]) rfl rfl
  next => exact ⟨rfl, rfl⟩

theorem setEdgeData_quiet (edge : ItemId) (data : List (String × String)) :
    Quiet Any (setEdgeData edge data) := by
  induction data with
  | nil => exact quiet_pure trivial
  | cons entry rest ih =>
    suffices one : Quiet Any (setEdgeEntry edge entry.1 entry.2) from one.bind fun _ _ => ih
    unfold setEdgeEntry
    split
    · exact addPrivate_quiet edge _
    next joint _ =>
      refine quiet_current fun d => ?_
      dsimp only
      split
      · exact (needShape_quiet edge).bind fun s _ => (note_quiet rfl rfl).bind fun _ _ =>
          updateShape_quiet edge (connect_same joint _)
      · exact updateShape_quiet edge (connect_same joint _)

theorem setPrivateData_quiet (data : Table String) (c : Container) : Quiet Any (setPrivateData data c) := by
  cases c with
  | diagram =>
    refine quiet_update (fun d => ?_) fun _ => rfl
    cases set : d.diagram <;> simp [sketch, updateDiagram, notices, set]
  | group group => exact addPrivate_quiet group _
  | edge edge => exact setEdgeData_quiet edge _
  | tray kind =>
    cases kind with
    | dataCollector => exact quiet_update (fun _ => rfl) fun _ => rfl
    | handler => exact quiet_pure trivial
    | collector | inert => exact quiet_fail _

end Desk

namespace Vocabulary

open Desk
open Work (Any)

variable (as : Attributes)

theorem setFont_quiet (id : ItemId) : Quiet Any (setFont id as) := by
  unfold setFont
  split
  · exact quiet_pure trivial
  · refine updateShape_quiet id fun s => ?_
    split
    next variant => exact same_of_variant variant rfl (by simp [Item.isPath, variant]) rfl rfl
    next => exact ⟨rfl, rfl⟩

theorem setFontSize_quiet (id : ItemId) : Quiet Any (setFontSize id as) := by
  refine (quiet_settle _).bind fun size _ => ?_
  cases size with
  | none => exact quiet_pure trivial
  | some size =>
    refine updateShape_quiet id fun s => ?_
    split
    next variant => exact same_of_variant variant rfl (by simp [Item.isPath, variant]) rfl rfl
    next => exact ⟨rfl, rfl⟩

theorem setRadius_same (radius : Int) (s : Shape) : (setRadius radius s).Same s := by
  unfold setRadius
  split
  next variant => exact same_of_variant variant rfl (by simp [Item.isPath, variant]) rfl rfl
  next => exact ⟨rfl, rfl⟩

theorem setContent_same (content : String) (s : Shape) : (setContent content s).Same s := by
  unfold setContent
  split
  next variant => exact same_of_variant variant rfl (by simp [Item.isPath, variant]) rfl rfl
  next => exact ⟨rfl, rfl⟩

theorem startInLine_quiet (id : ItemId) (name : String) : Quiet Any (startInLine id name as) := by
  unfold startInLine
  split
  · exact (quiet_settle _).bind fun _ _ => setStart_quiet id _ _
  · exact (quiet_settle _).bind fun _ _ => setEnd_quiet id _ _
  · exact note_quiet rfl rfl

theorem startInPath_quiet (id : ItemId) (name : String) : Quiet Any (startInPath id name as) := by
  unfold startInPath
  split
  · exact (quiet_settle _).bind fun _ _ => addPoint_quiet id _ _
  · exact note_quiet rfl rfl

theorem endWrapper_quiet (c : Container) (buffer : String) : Quiet Any (endWrapper c buffer) := by
  unfold endWrapper
  dsimp only
  split
  · exact quiet_pure trivial
  · split
    · exact setPrivateData_quiet _ c
    · exact note_quiet rfl rfl

theorem decline_quiet (rule : RuleName) (item : Item) : Quiet (· = .declined) (decline rule item) :=
  (note_quiet rfl rfl).bind fun _ _ => quiet_pure rfl

end Vocabulary

end Pgml
