import Pgml.Proofs.LinkedStyling
import Pgml.Vocabulary

/-! Works at two desks that are similar: they hold the same objects, names and diagram, and stay so
whatever handlers do to both of them. What a handler does looks at nothing else, so it comes to the same
at both. Desks are similar if one of them has a past, old notices and a tray that is not empty. On the way
it is noted which handlers the works that look for a handler answer: nested ones only. -/
namespace Pgml

/-- The notices and the contents of the tray from before. -/
structure Past where
  journal : List Notice
  tray : Tray

namespace Desk

open Work (Any)

/-- Relations between desks that works do not disturb, since they look at objects, names and diagram
alone. -/
class Similar (R : Desk → Desk → Prop) : Prop where
  items : ∀ {d e}, R d e → e.items = d.items
  names : ∀ {d e}, R d e → e.names = d.names
  diagram : ∀ {d e}, R d e → e.diagram = d.diagram
  setItems : ∀ {d e} items, R d e → R { d with items := items } { e with items := items }
  setNames : ∀ {d e} names, R d e → R { d with names := names } { e with names := names }
  draw : ∀ {d e} f, R d e → R (d.updateDiagram f) (e.updateDiagram f)
  crown : ∀ {d e} g, d.diagram = none → R d e → R { d with diagram := some g } { e with diagram := some g }
  note : ∀ {d e} n, R d e → R (d.addNotices [n]) (e.addNotices [n])
  stow : ∀ {d e} objects data, R d e →
    R { d with tray := ⟨d.tray.objects ++ objects, d.tray.data ++ data⟩ }
      { e with tray := ⟨e.tray.objects ++ objects, e.tray.data ++ data⟩ }
  style : ∀ id defaults as, Work.Alike R Any (Desk.style id (Styling.setCommon defaults as))
    (Desk.style id (Styling.setCommon defaults as))

/-- Work that comes to the same at similar desks. -/
abbrev Unaware {α : Type} (R : Desk → Desk → Prop) (answer : α → Prop) (w : Work Desk α) : Prop :=
  Work.Alike R answer w w

/-- A desk is similar to itself. -/
instance : Similar Eq where
  items := by rintro d _ rfl; rfl
  names := by rintro d _ rfl; rfl
  diagram := by rintro d _ rfl; rfl
  setItems := by rintro d _ items rfl; rfl
  setNames := by rintro d _ names rfl; rfl
  draw := by rintro d _ f rfl; rfl
  crown := by rintro d _ g _ rfl; rfl
  note := by rintro d _ n rfl; rfl
  stow := by rintro d _ objects data rfl; rfl
  style _ _ _ := by rintro d _ rfl; exact ⟨rfl, rfl, fun _ _ => trivial⟩

section

variable {R : Desk → Desk → Prop} [Similar R]

theorem Similar.item? {d e : Desk} (similar : R d e) (id : ItemId) : e.item? id = d.item? id := by
  simp only [Desk.item?, Similar.items similar]

theorem Similar.shape? {d e : Desk} (similar : R d e) (id : ItemId) : e.shape? id = d.shape? id := by
  simp only [Desk.shape?, Similar.item? similar]

theorem Similar.kindOf {d e : Desk} (similar : R d e) (id : ItemId) : e.kindOf id = d.kindOf id := by
  simp only [Desk.kindOf, Similar.item? similar]

omit [Similar R] in
theorem unaware_current {α : Type} {answer : α → Prop} {f : Desk → Work Desk α}
    (each : ∀ d, Unaware R answer (f d)) (blind : ∀ d e, R d e → f e = f d) :
    Unaware R answer (.current >>= f) := by
  refine .current fun d e similar => ?_
  rw [blind d e similar]
  exact each d

/-! ## Work at the desk -/

theorem note_unaware (n : Notice) : Unaware R Any (note n) :=
  .update fun _ _ similar => Similar.note n similar

theorem place_unaware (drawing : Drawing) : Unaware R Any (place drawing) := by
  intro d e similar
  simp only [place, Similar.items similar, true_and]
  exact ⟨Similar.setItems _ similar, fun _ _ => trivial⟩

theorem needShape_unaware (id : ItemId) : Unaware R Any (needShape id) := by
  intro d e similar
  simp only [needShape, Similar.shape? similar]
  cases d.shape? id with
  | none => exact ⟨rfl, similar, fun _ _ => trivial⟩
  | some s => exact ⟨rfl, similar, fun _ _ => trivial⟩

theorem setShape_unaware (id : ItemId) (s : Shape) : Unaware R Any (.update (·.setShape id s)) := by
  refine .update fun d e similar => ?_
  simp only [setShape, Similar.items similar]
  exact Similar.setItems _ similar

theorem updateShape_unaware (id : ItemId) (f : Shape → Shape) : Unaware R Any (updateShape id f) :=
  (needShape_unaware id).bind fun s _ => setShape_unaware id (f s)

theorem tryShape_unaware (id : ItemId) (f : Shape → Option Shape) : Unaware R Any (tryShape id f) := by
  refine (needShape_unaware id).bind fun s _ => ?_
  cases f s with
  | none => exact .fail _
  | some t => exact setShape_unaware id t

theorem boundsOf_unaware (ids : List ItemId) : Unaware R Any (boundsOf ids) := by
  have box (id : ItemId) : Unaware R Any (do return (← needShape id).bounds) :=
    (needShape_unaware id).bind fun _ _ => .pure trivial
  unfold boundsOf
  induction ids with
  | nil => exact .pure trivial
  | cons id ids ih =>
    rw [List.mapM_cons]
    exact (box id).bind fun _ _ => ih.bind fun _ _ => .pure trivial

theorem calcBounds_unaware (id : ItemId) : Unaware R Any (calcBounds id) := by
  refine (needShape_unaware id).bind fun s _ => ?_
  split
  · refine (boundsOf_unaware _).bind fun boxes _ => ?_
    split
    · exact updateShape_unaware id _
    · exact .pure trivial
  · exact .fail _
  · exact updateShape_unaware id _
  · exact updateShape_unaware id _
  · exact .fail _

theorem registerName_unaware (name : String) (id : ItemId) : Unaware R Any (registerName name id) := by
  refine .update fun d e similar => ?_
  rw [Similar.names similar]
  exact Similar.setNames _ similar

theorem setDiagram_unaware (diagram : Diagram) : Unaware R Any (setDiagram diagram) := by
  intro d e similar
  simp only [setDiagram, Similar.diagram similar]
  cases set : d.diagram with
  | none => exact ⟨rfl, Similar.crown diagram set similar, fun _ _ => trivial⟩
  | some _ => exact ⟨rfl, similar, fun _ _ => trivial⟩

/-! ## Containers -/

theorem addToEdge_unaware (edge child : ItemId) : Unaware R Any (addToEdge edge child) := by
  refine (needShape_unaware edge).bind fun s _ => ?_
  refine unaware_current (fun d => ?_) fun d e similar => by
    simp only [Similar.item? similar, Similar.kindOf similar]
  dsimp only
  split
  · split
    · exact updateShape_unaware edge _
    · exact note_unaware _
  · exact note_unaware _

theorem addObject_unaware (c : Container) (id : ItemId) : Unaware R Any (addObject c id) := by
  cases c with
  | diagram => exact .update fun _ _ similar => Similar.draw _ similar
  | group group => exact tryShape_unaware group _
  | edge edge => exact addToEdge_unaware edge id
  | tray kind =>
    cases kind with
    | inert => exact .fail _
    | collector | dataCollector | handler =>
      refine .update fun d e similar => ?_
      simpa only [List.append_nil] using Similar.stow [id] [] similar

theorem setEdgeEntry_unaware (edge : ItemId) (key value : String) :
    Unaware R Any (setEdgeEntry edge key value) := by
  unfold setEdgeEntry
  split
  · exact updateShape_unaware edge _
  · refine unaware_current (fun d => ?_) fun d e similar => by simp only [Similar.names similar]
    dsimp only
    split
    · exact (needShape_unaware edge).bind fun s _ => (note_unaware _).bind fun _ _ =>
        updateShape_unaware edge _
    · exact updateShape_unaware edge _

theorem setEdgeData_unaware (edge : ItemId) (data : List (String × String)) :
    Unaware R Any (setEdgeData edge data) := by
  induction data with
  | nil => exact .pure trivial
  | cons entry rest ih => exact (setEdgeEntry_unaware edge _ _).bind fun _ _ => ih

theorem setPrivateData_unaware (data : Table String) (c : Container) :
    Unaware R Any (setPrivateData data c) := by
  cases c with
  | diagram => exact .update fun _ _ similar => Similar.draw _ similar
  | group group => exact updateShape_unaware group _
  | edge edge => exact setEdgeData_unaware edge _
  | tray kind =>
    cases kind with
    | dataCollector =>
      refine .update fun d e similar => ?_
      simpa only [List.append_nil] using Similar.stow [] [data] similar
    | handler => exact .pure trivial
    | collector | inert => exact .fail _

end

/-! ## A desk with a past -/

def since (past : Past) (d : Desk) : Desk :=
  { d with
    tray := ⟨past.tray.objects ++ d.tray.objects, past.tray.data ++ d.tray.data⟩
    journal := d.journal ++ past.journal }

/-- What a desk has from before a document that begins now. -/
def past (d : Desk) : Past := ⟨d.journal, d.tray⟩

/-- A desk of a palette, and the same desk with a past. -/
structure Since (past : Past) (p : Palette) (d e : Desk) : Prop where
  same : e = d.since past
  palette : d.colors.palette = p

def sinceLink (past : Past) : Styling.Link where
  shapes s t := t = s
  journals j k := k = j ++ past.journal
  style := Styling.Link.style_eq
  bounds := Styling.Link.bounds_eq
  unknown := by rintro value used j _ rfl; rfl

theorem style_since (past : Past) (p : Palette) (id : ItemId) (defaults : ColorDefaults) (as : Attributes) :
    Unaware (Since past p) Any (style id (Styling.setCommon defaults as)) := by
  rintro d _ ⟨rfl, kept⟩
  have shape : (d.since past).shape? id = d.shape? id := rfl
  simp only [style, shape]
  cases d.shape? id with
  | none => exact ⟨rfl, ⟨rfl, kept⟩, fun _ _ => trivial⟩
  | some s =>
    have alike : Work.Alike (Styling.Linked (sinceLink past) p) Any (Styling.setCommon defaults as)
        (Styling.setCommon defaults as) := Styling.setCommon_linked as defaults
    obtain ⟨same, ⟨shape, journal, colors, palette⟩, _⟩ := alike ⟨s, d.colors, d.journal⟩
      ⟨s, d.colors, d.journal ++ past.journal⟩ ⟨rfl, rfl, rfl, kept⟩
    refine ⟨same, ⟨?_, palette⟩, fun _ _ => trivial⟩
    simp only [sinceLink] at shape journal
    simp only [since, shape, journal, colors]
    rfl

instance (past : Past) (p : Palette) : Similar (Since past p) where
  items := by rintro d _ ⟨rfl, _⟩; rfl
  names := by rintro d _ ⟨rfl, _⟩; rfl
  diagram := by rintro d _ ⟨rfl, _⟩; rfl
  setItems := by rintro d _ items ⟨rfl, palette⟩; exact ⟨rfl, palette⟩
  setNames := by rintro d _ names ⟨rfl, palette⟩; exact ⟨rfl, palette⟩
  draw := by rintro d _ f ⟨rfl, palette⟩; exact ⟨rfl, palette⟩
  crown := by rintro d _ g _ ⟨rfl, palette⟩; exact ⟨rfl, palette⟩
  note := by rintro d _ n ⟨rfl, palette⟩; exact ⟨rfl, palette⟩
  stow := by rintro d _ objects data ⟨rfl, palette⟩; exact ⟨by simp [since], palette⟩
  style := style_since past p

end Desk

end Pgml
