import Pgml.Proofs.Work
import Pgml.Shape.Styling

/-! Two shapes styled by the same attributes. Applying attributes looks at the colours alone, so what
links two shapes, two resolvers and two journals links them afterwards, if styles, boxes and notices
on unknown colours do not disturb it. The only faults are those of numbers that cannot be read, and all
other attributes leave the numbers of a shape as they are. -/
namespace Pgml

namespace Styling

open Work (Any)

/-- What links two stylings apart from their colours. -/
structure Link where
  shapes : Shape → Shape → Prop
  journals : List Notice → List Notice → Prop
  style : ∀ (f : Style → Style) s t, shapes s t →
    shapes { s with style := f s.style } { t with style := f t.style }
  bounds : ∀ b s t, shapes s t → shapes (s.withBounds b) (t.withBounds b)
  unknown : ∀ value used j k, journals j k →
    journals (.unknownColor value used :: j) (.unknownColor value used :: k)

theorem Link.style_eq (f : Style → Style) (s t : Shape) (same : t = s) :
    { t with style := f t.style } = { s with style := f s.style } := by rw [same]

theorem Link.bounds_eq (b : Bounds) (s t : Shape) (same : t = s) : t.withBounds b = s.withBounds b := by rw [same]

structure Linked (link : Link) (p : Palette) (s t : Styling) : Prop where
  shapes : link.shapes s.shape t.shape
  journals : link.journals s.journal t.journal
  colors : t.colors = s.colors
  palette : s.colors.palette = p

/-- Relations between stylings that new styles and resolved colours do not disturb. -/
structure Settled (R : Styling → Styling → Prop) : Prop where
  style : ∀ (f : Style → Style) s t, R s t →
    R { s with shape := { s.shape with style := f s.shape.style } }
      { t with shape := { t.shape with style := f t.shape.style } }
  resolve : ∀ value default, Work.Alike R Any (resolve value default) (resolve value default)

/-- Those that new boxes do not disturb either. -/
structure Stable (R : Styling → Styling → Prop) : Prop extends Settled R where
  bounds : ∀ b s t, R s t →
    R { s with shape := s.shape.withBounds b } { t with shape := t.shape.withBounds b }

/-- The common attributes but for the geometry. -/
def setLooks (defaults : ColorDefaults) (as : Attributes) : Work Styling Unit := do
  setLineWidth as
  setLineColor defaults.stroke as
  setFilled as
  setFillColor defaults.fill as
  setDashed as
  setContext as
  setVisible as
  setSingle as

section

variable {R : Styling → Styling → Prop} (settled : Settled R) {blame : Fault → Prop} {as : Attributes}

include settled

theorem updateStyle_twins (f : Style → Style) :
    Work.Twins R blame Any (updateStyle f) (updateStyle f) :=
  .update fun s t related => settled.style f s t related

theorem resolve_twins (value : String) (default : Color) :
    Work.Twins R blame Any (resolve value default) (resolve value default) :=
  ⟨settled.resolve value default, fun _ _ _ _ absurd => by simp [resolve] at absurd⟩

theorem setLineColor_twins (default : Color) :
    Work.Twins R blame Any (setLineColor default as) (setLineColor default as) := by
  unfold setLineColor
  split
  · exact .pure trivial
  · exact (resolve_twins settled _ default).bind fun color _ => updateStyle_twins settled _

theorem setFilled_twins : Work.Twins R blame Any (setFilled as) (setFilled as) := by
  unfold setFilled
  split
  · exact .pure trivial
  · exact updateStyle_twins settled _

theorem setFillColor_twins (default : Color) :
    Work.Twins R blame Any (setFillColor default as) (setFillColor default as) := by
  unfold setFillColor
  split
  · exact .pure trivial
  · exact (resolve_twins settled _ default).bind fun color _ => updateStyle_twins settled _

theorem setDashed_twins : Work.Twins R blame Any (setDashed as) (setDashed as) := by
  unfold setDashed
  split
  · exact .pure trivial
  · split
    · exact .pure trivial
    · exact updateStyle_twins settled _

theorem setContext_twins : Work.Twins R blame Any (setContext as) (setContext as) := by
  unfold setContext
  split
  · exact .pure trivial
  · exact updateStyle_twins settled _

theorem setSingle_twins : Work.Twins R blame Any (setSingle as) (setSingle as) := by
  unfold setSingle
  split
  · exact .pure trivial
  · exact updateStyle_twins settled _

variable (reads : ∀ key e, as.int? key = .error e → blame e)

include reads

theorem setLineWidth_twins : Work.Twins R blame Any (setLineWidth as) (setLineWidth as) := by
  refine (Work.Twins.settle (reads "stroke")).bind fun width _ => ?_
  cases width with
  | none => exact .pure trivial
  | some width => exact updateStyle_twins settled _

theorem setVisible_twins : Work.Twins R blame Any (setVisible as) (setVisible as) := by
  refine (Work.Twins.settle (reads "shown")).bind fun shown _ => ?_
  cases shown with
  | none => exact .pure trivial
  | some shown => exact updateStyle_twins settled _

theorem setLooks_twins (defaults : ColorDefaults) :
    Work.Twins R blame Any (setLooks defaults as) (setLooks defaults as) :=
  (setLineWidth_twins settled reads).bind fun _ _ =>
  (setLineColor_twins settled defaults.stroke).bind fun _ _ =>
  (setFilled_twins settled).bind fun _ _ =>
  (setFillColor_twins settled defaults.fill).bind fun _ _ =>
  (setDashed_twins settled).bind fun _ _ =>
  (setContext_twins settled).bind fun _ _ =>
  (setVisible_twins settled reads).bind fun _ _ =>
  setSingle_twins settled

omit settled in
theorem setGeometry_twins (stable : Stable R) : Work.Twins R blame Any (setGeometry as) (setGeometry as) := by
  have part (key : String) (default : Int) (e : Fault) (failed : as.int key default = .error e) :
      blame e := by
    cases read : as.int? key with
    | error other =>
      obtain rfl : other = e := by simpa [Attributes.int, read, Except.map] using failed
      exact reads key other read
    | ok value => simp [Attributes.int, read, Except.map] at failed
  refine (Work.Twins.settle (reads "x")).bind fun x _ => ?_
  cases x with
  | none => exact .pure trivial
  | some x =>
    exact (Work.Twins.settle (part "y" 0)).bind fun y _ =>
      (Work.Twins.settle (part "width" 20)).bind fun width _ =>
      (Work.Twins.settle (part "height" 20)).bind fun height _ =>
      .update fun s t related => stable.bounds _ s t related

omit settled in
theorem setCommon_twins (stable : Stable R) (defaults : ColorDefaults) :
    Work.Twins R blame Any (setCommon defaults as) (setCommon defaults as) :=
  (setGeometry_twins reads stable).bind fun _ _ => setLooks_twins stable.toSettled reads defaults

end

end Styling

/-! ## Numbers of a shape -/

/-- What numeric attributes set. -/
structure Numbers where
  box : Bounds
  lineWidth : Int
  visible : Bool

def Shape.numbers (s : Shape) : Numbers := ⟨s.bounds, s.style.lineWidth, s.style.visible⟩

namespace Styling

open Work (Any Ends)

/-- A styling whose shape has some numbers. -/
def Numbered (n : Numbers) (s : Styling) : Prop := s.shape.numbers = n

section

variable {as : Attributes} {n : Numbers} {blame : Fault → Styling → Prop}

/-- A change of other parts of a style. -/
theorem updateStyle_numbered {g : Style → Style} (width : ∀ s, (g s).lineWidth = s.lineWidth)
    (visible : ∀ s, (g s).visible = s.visible) :
    Ends (Numbered n) blame (updateStyle g) fun _ => Numbered n := by
  refine .update fun s numbered => ?_
  simpa [Numbered, Shape.numbers, width, visible] using numbered

theorem resolve_numbered (value : String) (default : Color) :
    Ends (Numbered n) blame (resolve value default) fun _ => Numbered n :=
  fun _ numbered => numbered

theorem setLineColor_numbered (default : Color) :
    Ends (Numbered n) blame (setLineColor default as) fun _ => Numbered n := by
  unfold setLineColor
  split
  · exact .pure fun _ numbered => numbered
  · exact (resolve_numbered _ _).bind fun _ => updateStyle_numbered (fun _ => rfl) fun _ => rfl

theorem setFilled_numbered : Ends (Numbered n) blame (setFilled as) fun _ => Numbered n := by
  unfold setFilled
  split
  · exact .pure fun _ numbered => numbered
  · exact updateStyle_numbered (fun _ => rfl) fun _ => rfl

theorem setFillColor_numbered (default : Color) :
    Ends (Numbered n) blame (setFillColor default as) fun _ => Numbered n := by
  unfold setFillColor
  split
  · exact .pure fun _ numbered => numbered
  · exact (resolve_numbered _ _).bind fun _ => updateStyle_numbered (fun _ => rfl) fun _ => rfl

theorem setDashed_numbered : Ends (Numbered n) blame (setDashed as) fun _ => Numbered n := by
  unfold setDashed
  split
  · exact .pure fun _ numbered => numbered
  · split
    · exact .pure fun _ numbered => numbered
    · exact updateStyle_numbered (fun _ => rfl) fun _ => rfl

theorem setContext_numbered : Ends (Numbered n) blame (setContext as) fun _ => Numbered n := by
  unfold setContext
  split
  · exact .pure fun _ numbered => numbered
  · exact updateStyle_numbered (fun _ => rfl) fun _ => rfl

theorem setSingle_numbered : Ends (Numbered n) blame (setSingle as) fun _ => Numbered n := by
  unfold setSingle
  split
  · exact .pure fun _ numbered => numbered
  · exact updateStyle_numbered (fun _ => rfl) fun _ => rfl

end

/-! ## Linked stylings -/

variable {link : Link} {p : Palette}

theorem linked_stable : Stable (Linked link p) where
  bounds b s t linked := { linked with shapes := link.bounds b s.shape t.shape linked.shapes }
  style f s t linked := { linked with shapes := link.style f s.shape t.shape linked.shapes }
  resolve value default := by
    rintro ⟨shape, _, journal⟩ ⟨shape', colors, journal'⟩ ⟨shapes, journals, rfl, palette⟩
    simp only [resolve, Resolver.resolve]
    cases colors.used.get? value with
    | some color => exact ⟨trivial, ⟨shapes, journals, rfl, palette⟩, fun _ _ => trivial⟩
    | none =>
      cases colors.palette.describe? value with
      | some color => exact ⟨trivial, ⟨shapes, journals, rfl, palette⟩, fun _ _ => trivial⟩
      | none =>
        exact ⟨trivial, ⟨shapes, link.unknown value default _ _ journals, rfl, palette⟩, fun _ _ => trivial⟩

theorem setCommon_linked (as : Attributes) (defaults : ColorDefaults) :
    Work.Alike (Linked link p) Any (setCommon defaults as) (setCommon defaults as) := by
  have twins : Work.Twins (Linked link p) (fun _ => True) Any (setCommon defaults as)
      (setCommon defaults as) := setCommon_twins (fun _ _ _ => trivial) linked_stable defaults
  exact twins.alike

end Styling

end Pgml
