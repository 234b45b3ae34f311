import Pgml.Proofs.LedgerReading
import Pgml.Proofs.ElementShapes

/-! How an element's content fills its shape. Texts take the character data directly inside them, lines
and polygons the points; all else inside an element without room for shapes is passed over. What the
shape is stays: its kind, its parts, its name. -/
namespace Pgml

open Desk Vocabulary Machine
open Work (Ends Ensures)

/-! ## The content of texts, lines and polygons -/

namespace Shape

/-- A line or a polygon with what an element inside it adds. -/
def mark (name : String) (as : Attributes) (s : Shape) : Except Fault Shape :=
  match s.variant with
  | .line .. =>
    match name with
    | "moveto" => do
      let (x, y) ← point name as
      return (s.setStart? x y).getD s
    | "lineto" => do
      let (x, y) ← point name as
      return (s.setEnd? x y).getD s
    | _ => return s
  | .polygon _ =>
    if name == "moveto" || name == "lineto" then do
      let (x, y) ← point name as
      return (s.addPoint? x y).getD s
    else return s
  | _ => return s

/-- A line or a polygon after the elements directly in some content. -/
def trace : Content → Shape → Except Fault Shape
  | .empty, s => return s
  | .text _ rest, s => trace rest s
  | .element name as _ rest, s => do trace rest (← s.mark name as)

/-- The shape of an element after content that has no room for shapes, by the content's handler. -/
def fill (handler : Option Handler) (inner : Content) (s : Shape) : Except Fault Shape :=
  match handler with
  | some (.text ..) => return setContent (textContent (inner.ownText.foldl (· ++ ·) "")) s
  | some (.line _) | some (.polygon _) => s.trace inner
  | _ => return s

end Shape

/-- Variants that differ in what the element of a text, a rounded rectangle, a line or a polygon says. -/
inductive Variant.Kin : Variant → Variant → Prop where
  | refl (v : Variant) : Kin v v
  | text (content family : String) (size : Int) (content' family' : String) (size' : Int) :
      Kin (.text content family size) (.text content' family' size')
  | rounded (radius radius' : Int) : Kin (.roundedRectangle radius) (.roundedRectangle radius')
  | line (x1 y1 x2 y2 x1' y1' x2' y2' : Int) : Kin (.line x1 y1 x2 y2) (.line x1' y1' x2' y2')
  | polygon (points points' : List (Int × Int)) : Kin (.polygon points) (.polygon points')

namespace Variant.Kin

variable {u v w : Variant}

theorem trans (first : Kin u v) (second : Kin v w) : Kin u w := by
  cases first <;> cases second <;> constructor

theorem kind (kin : Kin v w) : w.kind = v.kind := by cases kin <;> rfl

theorem parts (kin : Kin v w) : w.parts = v.parts := by cases kin <;> rfl

end Variant.Kin

structure Shape.Kin (s t : Shape) : Prop where
  variant : s.variant.Kin t.variant
  privateData : t.privateData = s.privateData

namespace Shape

variable {setup : Setup} {p : Palette} {as : Attributes} {s t u : Shape} {name : String}

theorem Kin.refl (s : Shape) : s.Kin s := ⟨.refl _, rfl⟩

theorem Kin.trans (first : s.Kin t) (second : t.Kin u) : s.Kin u :=
  ⟨first.variant.trans second.variant, second.privateData.trans first.privateData⟩

theorem Kin.isPath (kin : s.Kin t) : t.isPath = s.isPath := by
  obtain ⟨variant, _⟩ := kin
  simp only [Shape.isPath, Item.isPath]
  generalize s.variant = v at *
  generalize t.variant = w at *
  cases variant <;> rfl

theorem Frame.kin (frame : s.Frame t) : s.Kin t :=
  ⟨frame.variant ▸ .refl _, frame.privateData⟩

/-- Two shapes that differ in what their element says beside its common attributes at most. -/
structure Tuned (s t : Shape) : Prop where
  kin : s.Kin t
  same : t.Same s

theorem Tuned.refl (s : Shape) : s.Tuned s := ⟨.refl s, rfl, rfl⟩

theorem Tuned.trans (first : s.Tuned t) (second : t.Tuned u) : s.Tuned u :=
  ⟨first.kin.trans second.kin, second.same.node.trans first.same.node, second.same.look.trans first.same.look⟩

theorem tuned_withFont (font : Option String) (s : Shape) : s.Tuned (s.withFont font) := by
  refine ⟨?_, withFont_same font s⟩
  unfold withFont
  split
  next variant => exact ⟨by rw [variant]; exact .text .., rfl⟩
  next => exact .refl s

theorem tuned_withFontSize (size : Option Int) (s : Shape) : s.Tuned (s.withFontSize size) := by
  refine ⟨?_, withFontSize_same size s⟩
  unfold withFontSize
  split
  next variant => exact ⟨by rw [variant]; exact .text .., rfl⟩
  next => exact .refl s

theorem tuned_setRadius (radius : Int) (s : Shape) : s.Tuned (setRadius radius s) := by
  refine ⟨?_, setRadius_same radius s⟩
  unfold setRadius
  split
  next variant => exact ⟨by rw [variant]; exact .rounded .., rfl⟩
  next => exact .refl s

theorem tuned_withBounds (b : Bounds) (s : Shape) : s.Tuned (s.withBounds b) := ⟨⟨.refl _, rfl⟩, withBounds_same s b⟩

/-- A shape that is finished was given its attributes; what else its element says was added before or after. -/
theorem finish_eq_ok (finished : s.finish setup p as name = .ok t) :
    ∃ u v, s.Tuned u ∧ u.attributed setup p as = .ok v ∧ v.Tuned t := by
  have plain (finished : s.attributed setup p as = .ok t) :
      ∃ u v, s.Tuned u ∧ u.attributed setup p as = .ok v ∧ v.Tuned t := ⟨s, t, .refl s, finished, .refl t⟩
  unfold finish at finished
  split at finished
  · split at finished
    · obtain ⟨u, attributed, finished⟩ := except_bind_eq_ok finished
      split at finished
      · obtain rfl := Except.ok.inj finished
        exact plain attributed
      · obtain ⟨b, _, finished⟩ := except_bind_eq_ok finished
        obtain rfl := Except.ok.inj finished
        exact ⟨s, u, .refl s, attributed, tuned_withBounds b u⟩
    · exact plain finished
  · split at finished
    · obtain ⟨u, attributed, finished⟩ := except_bind_eq_ok finished
      obtain ⟨size, _, finished⟩ := except_bind_eq_ok finished
      obtain rfl := Except.ok.inj finished
      exact ⟨s, u, .refl s, attributed, (tuned_withFont _ u).trans (tuned_withFontSize size _)⟩
    · exact plain finished
  · obtain ⟨rounding, _, finished⟩ := except_bind_eq_ok finished
    split at finished
    · exact ⟨_, t, tuned_setRadius rounding s, finished, .refl t⟩
    · exact plain finished
  · split at finished
    · obtain ⟨u, attributed, finished⟩ := except_bind_eq_ok finished
      obtain ⟨rx, _, finished⟩ := except_bind_eq_ok finished
      obtain ⟨ry, _, finished⟩ := except_bind_eq_ok finished
      obtain rfl := Except.ok.inj finished
      exact ⟨s, u, .refl s, attributed, tuned_withBounds _ u⟩
    · exact plain finished
  · exact plain finished

/-- What is finished is of the kind that was made, and has the name of its element. -/
theorem finish_kin (finished : s.finish setup p as name = .ok t) :
    s.Kin t ∧ t.name = (as.value? "name").or s.name := by
  obtain ⟨u, v, before, attributed, behind⟩ := finish_eq_ok finished
  obtain ⟨frame, named⟩ := attributed_frame attributed
  exact ⟨(before.kin.trans frame.kin).trans behind.kin, by rw [behind.same.name, named, before.same.name]⟩

theorem tuned_setContent (content : String) (s : Shape) : s.Tuned (setContent content s) := by
  refine ⟨?_, setContent_same content s⟩
  unfold setContent
  split
  next variant => exact ⟨by rw [variant]; exact .text .., rfl⟩
  next => exact .refl s

theorem tuned_setStart? {x y : Int} (made : s.setStart? x y = some t) : s.Tuned t := by
  refine ⟨?_, setStart?_same made⟩
  unfold setStart? at made
  split at made
  next variant =>
    obtain rfl := Option.some.inj made
    exact ⟨by rw [variant]; exact .line .., rfl⟩
  next => contradiction

theorem tuned_setEnd? {x y : Int} (made : s.setEnd? x y = some t) : s.Tuned t := by
  refine ⟨?_, setEnd?_same made⟩
  unfold setEnd? at made
  split at made
  next variant =>
    obtain rfl := Option.some.inj made
    exact ⟨by rw [variant]; exact .line .., rfl⟩
  next => contradiction

theorem tuned_addPoint? {x y : Int} (made : s.addPoint? x y = some t) : s.Tuned t := by
  refine ⟨?_, addPoint?_same made⟩
  unfold addPoint? at made
  split at made
  next points variant =>
    dsimp only at made
    split at made
    · obtain rfl := Option.some.inj made
      exact ⟨by rw [variant]; exact .polygon .., rfl⟩
    · contradiction
  next => contradiction

theorem mark_tuned (marked : s.mark name as = .ok t) : s.Tuned t := by
  have kept (made : Option Shape) (tuned : ∀ t, made = some t → s.Tuned t) : s.Tuned (made.getD s) := by
    cases made with
    | none => exact .refl s
    | some t => exact tuned t rfl
  have plain (same : Except.ok s = (.ok t : Except Fault Shape)) : s.Tuned t :=
    Except.ok.inj same ▸ .refl s
  unfold mark at marked
  split at marked
  · split at marked
    · obtain ⟨_, _, marked⟩ := except_bind_eq_ok marked
      exact Except.ok.inj marked ▸ kept _ fun _ => tuned_setStart?
    · obtain ⟨_, _, marked⟩ := except_bind_eq_ok marked
      exact Except.ok.inj marked ▸ kept _ fun _ => tuned_setEnd?
    · exact plain marked
  · split at marked
    · obtain ⟨_, _, marked⟩ := except_bind_eq_ok marked
      exact Except.ok.inj marked ▸ kept _ fun _ => tuned_addPoint?
    · exact plain marked
  · exact plain marked

theorem trace_tuned {content : Content} (traced : s.trace content = .ok t) : s.Tuned t := by
  induction content generalizing s with
  | empty => exact Except.ok.inj traced ▸ .refl s
  | text _ rest ih => exact ih traced
  | element name as inner rest _ ih =>
    obtain ⟨u, marked, traced⟩ := except_bind_eq_ok traced
    exact (mark_tuned marked).trans (ih traced)

theorem fill_tuned {handler : Option Handler} {inner : Content} (filled : s.fill handler inner = .ok t) :
    s.Tuned t := by
  unfold fill at filled
  split at filled
  · exact Except.ok.inj filled ▸ tuned_setContent _ s
  · exact trace_tuned filled
  · exact trace_tuned filled
  · exact Except.ok.inj filled ▸ .refl s

end Shape

section

variable {p : Palette} {k : Stock} {s : Shape} {id : ItemId} {as : Attributes} {name : String}
  {blame : Fault → Desk → Prop}

theorem unmarked_ends (found : k.shapes[id.index]? = some s) (marked : s.mark name as = .ok s)
    {n : Notice} (known : n.isUnknown = false) :
    Ends (Holds p k) blame (note n) fun _ d =>
      ∃ t, s.mark name as = .ok t ∧ Holds p (k.modify id fun _ => t) d := by
  refine (note_ends known).mono fun _ d holds => ⟨s, marked, ?_⟩
  have same : (k.modify id fun _ => s) = k := Stock.modify_self found rfl
  rw [same]
  exact holds

theorem startInLine_ends {x1 y1 x2 y2 : Int} (found : k.shapes[id.index]? = some s)
    (line : s.variant = .line x1 y1 x2 y2)
    (refused : ∀ e d, s.mark name as = .error e → Holds p k d → blame e d) :
    Ends (Holds p k) blame (startInLine id name as) fun _ d =>
      ∃ t, s.mark name as = .ok t ∧ Holds p (k.modify id fun _ => t) d := by
  unfold startInLine
  split
  · refine (Ends.settle fun e d holds failed => ?_).bind fun (x, y) => .given fun read => ?_
    · exact refused e d (by simp [Shape.mark, line, failed]) holds
    have made : s.setStart? x y =
        some { s with variant := .line x y x2 y2, bounds := .spanned x y x2 y2 } := by
      simp [Shape.setStart?, line]
    refine (tryShape_ends found made).mono fun _ d holds => ⟨_, ?_, holds⟩
    simp [Shape.mark, line, read, made]
  · refine (Ends.settle fun e d holds failed => ?_).bind fun (x, y) => .given fun read => ?_
    · exact refused e d (by simp [Shape.mark, line, failed]) holds
    have made : s.setEnd? x y =
        some { s with variant := .line x1 y1 x y, bounds := .spanned x1 y1 x y } := by
      simp [Shape.setEnd?, line]
    refine (tryShape_ends found made).mono fun _ d holds => ⟨_, ?_, holds⟩
    simp [Shape.mark, line, read, made]
  next start stop =>
    refine unmarked_ends found ?_ rfl
    simp only [Shape.mark, line]
    rfl

theorem startInPath_ends {points : List (Int × Int)} (found : k.shapes[id.index]? = some s)
    (polygon : s.variant = .polygon points)
    (refused : ∀ e d, s.mark name as = .error e → Holds p k d → blame e d) :
    Ends (Holds p k) blame (startInPath id name as) fun _ d =>
      ∃ t, s.mark name as = .ok t ∧ Holds p (k.modify id fun _ => t) d := by
  unfold startInPath
  split
  next point =>
    refine (Ends.settle fun e d holds failed => ?_).bind fun (x, y) => .given fun read => ?_
    · exact refused e d (by simp [Shape.mark, polygon, point, failed]) holds
    obtain ⟨t, made⟩ : ∃ t, s.addPoint? x y = some t := by
      cases points <;> simp [Shape.addPoint?, polygon]
    refine (tryShape_ends found made).mono fun _ d holds => ⟨t, ?_, holds⟩
    simp [Shape.mark, polygon, point, read, made]
  next other => exact unmarked_ends found (by simp [Shape.mark, polygon, other]) rfl

end

/-! ## Shapes as built-in types make them -/

/-- A shape that nothing was done to. -/
structure Shape.Fresh (s : Shape) : Prop where
  plain : s.Plain
  owner : s.owner = none
  privateData : s.privateData = .empty
  undispatched : ∀ children plan, s.variant = .group children plan → plan = none
  unjoined : ∀ path connections, s.variant = .edge path connections → connections = .none

theorem fresh_of_recipe {entry : String × Recipe} (member : entry ∈ TypeTable.builtinEntries) :
    ∃ s, entry.2 = .drawing (.ofShape s) ∧ s.Fresh := by
  simp only [TypeTable.builtinEntries, List.mem_cons, List.not_mem_nil, or_false] at member
  rcases member with rfl | rfl | rfl | rfl | rfl | rfl | rfl | rfl <;>
  · refine ⟨_, rfl, ⟨rfl, rfl, fun _ => rfl⟩, rfl, rfl, ?_, ?_⟩
    · rintro children plan ⟨⟩
      try rfl
    · rintro path connections ⟨⟩
      try rfl

theorem fresh_of_usual {name : String} {as : Attributes} {s : Shape}
    (usual : Setup.usual? name as = some s) : s.Fresh := by
  have plain := usual_plain usual
  unfold Setup.usual? at usual
  split at usual
  · obtain rfl := Option.some.inj usual
    exact ⟨plain, rfl, rfl, by rintro _ _ ⟨⟩, by rintro _ _ ⟨⟩⟩
  · obtain rfl := Option.some.inj usual
    exact ⟨plain, rfl, rfl, by rintro _ _ ⟨⟩, by rintro _ _ ⟨⟩⟩
  · obtain rfl := Option.some.inj usual
    exact ⟨plain, rfl, rfl, by rintro _ _ ⟨⟩, by rintro _ _ ⟨⟩⟩
  · obtain rfl := Option.some.inj usual
    exact ⟨plain, rfl, rfl, by rintro _ _ ⟨⟩, by rintro _ _ ⟨⟩⟩
  · split at usual
    · obtain rfl := Option.some.inj usual
      refine ⟨plain, rfl, rfl, ?_, ?_⟩
      · intro children plan variant
        split at variant <;> simp [Shape.sized, Shape.ofVariant] at variant
      · intro path connections variant
        split at variant <;> simp [Shape.sized, Shape.ofVariant] at variant
    · contradiction
  · contradiction

section

variable {setup : Setup} {name : String} {as : Attributes} {s : Shape} {interior : Interior}

theorem mem_of_hinted (types : setup.types = .builtin) (hinted : setup.hinted? as = some s) :
    ∃ key, (key, .drawing (.ofShape s)) ∈ TypeTable.builtinEntries := by
  obtain ⟨type, made⟩ : ∃ type, setup.made? type = some s := by
    unfold Setup.hinted? at hinted
    split at hinted
    · contradiction
    · split at hinted
      · contradiction
      · exact ⟨_, hinted⟩
  unfold Setup.made? at made
  rw [types] at made
  cases found : TypeTable.builtin.get? (setup.translate type) with
  | none => simp [TypeTable.create, found] at made
  | some recipe =>
    have there : Table.lookup (setup.translate type) TypeTable.builtinEntries = some recipe := found
    obtain ⟨key, member⟩ := mem_of_lookup there
    obtain ⟨t, drawing, _⟩ := fresh_of_recipe member
    obtain rfl : recipe = .drawing (.ofShape t) := drawing
    obtain rfl : t = s := by
      simpa [TypeTable.create, found, Recipe.build, Drawing.ofShape, Drawing.ofItem] using made
    exact ⟨key, member⟩

theorem fresh_of_hinted (types : setup.types = .builtin) (hinted : setup.hinted? as = some s) : s.Fresh := by
  obtain ⟨key, member⟩ := mem_of_hinted types hinted
  obtain ⟨t, drawing, fresh⟩ := fresh_of_recipe member
  obtain rfl : s = t := by simpa [Drawing.ofShape, Drawing.ofItem] using drawing
  exact fresh

theorem fresh_of_role (types : setup.types = .builtin) (role : setup.role name as = .shape s interior) :
    s.Fresh ∧ interior = Setup.interior name s.variant := by
  unfold Setup.role at role
  split at role
  · contradiction
  · split at role
    next t made =>
      obtain ⟨rfl, rfl⟩ : t = s ∧ Setup.interior name t.variant = interior := by simpa using role
      refine ⟨?_, rfl⟩
      rcases Option.or_eq_some_iff.mp made with hinted | ⟨_, usual⟩
      · exact fresh_of_hinted types hinted
      · exact fresh_of_usual usual
    · contradiction

theorem fresh_of_lost (types : setup.types = .builtin) (role : setup.role name as = .relay (some s)) :
    s.Fresh := by
  unfold Setup.role at role
  split at role
  · obtain hinted : setup.hinted? as = some s := by simpa using role
    exact fresh_of_hinted types hinted
  · split at role <;> contradiction

end

/-- Which handler an element's content gets, by the shape and by what the content can be. -/
inductive Shape.Opens (id : ItemId) (s : Shape) : Option Handler → Interior → Prop where
  | nothing : Opens id s none .closed
  | text {content family : String} {size : Int} :
      s.variant = .text content family size → Opens id s (some (.text id "")) .closed
  | line {x1 y1 x2 y2 : Int} : s.variant = .line x1 y1 x2 y2 → Opens id s (some (.line id)) .closed
  | polygon {points : List (Int × Int)} :
      s.variant = .polygon points → Opens id s (some (.polygon id)) .closed
  | group {children : List ItemId} {plan : Option Plan} (derive : Bool) :
      s.variant = .group children plan → Opens id s (some (.group id derive)) .group
  | edge {path : Option ItemId} {connections : Connections} :
      s.variant = .edge path connections → Opens id s (some (.edge id)) .edge

theorem content_opens (setup : Setup) (as : Attributes) (name : String) (id : ItemId) (s : Shape) :
    s.Opens id (s.content? setup as name id) (Setup.interior name s.variant) := by
  by_cases group : name = "group"
  · subst group
    obtain ⟨bounds, style, name, owner, data, variant⟩ := s
    cases variant with
    | group children plan => exact .group _ rfl
    | edge path connections => exact .edge rfl
    | _ => exact .nothing
  · have closed : Setup.interior name s.variant = .closed := if_neg group
    rw [closed]
    unfold Shape.content?
    split
    · contradiction
    · split
      next variant => exact .text variant
      next => exact .nothing
    · split
      next variant => exact .line variant
      next variant => exact .polygon variant
      next => exact .nothing
    · split
      next variant => exact .line variant
      next variant => exact .polygon variant
      next => exact .nothing
    · exact .nothing

/-! ## Content without room for shapes -/

theorem Machine.ends_onWork {H S α : Type} {pre : S → Prop} {blame : Fault → S → Prop} {post : α → S → Prop}
    {w : Work S α} (ends : Ends pre blame w post) :
    Ends (fun m : Machine H S => pre m.work) (fun e m => blame e m.work) (onWork w)
      fun a m => post a m.work := by
  intro m start
  have ended := ends m.work start
  rw [onWork_apply]
  rcases ran : w m.work with ⟨_ | a, d⟩
  · simpa [ran] using ended
  · simpa [ran] using ended

section

variable (setup : Setup)

theorem eval_ignored (content : Content) (m : Machine Handler Desk) :
    content.eval (Handler.behaviour setup) .ignore m = (.ok .ignore, m) := by
  induction content generalizing m with
  | empty => rfl
  | text data rest ih => exact ih m
  | element name as inner rest inside ih =>
    have first : inner.eval (Handler.behaviour setup) (Option.getD none .ignore) m = (.ok .ignore, m) :=
      inside m
    have asked : (Handler.behaviour setup).startElement .ignore name as m = (.ok none, m) := rfl
    have ended : (Handler.behaviour setup).endElement .ignore name m = (.ok (), m) := rfl
    rw [Content.eval, Work.bind_ok asked]
    exact (Work.bind_ok first).trans ((Work.bind_ok ended).trans (ih m))

theorem eval_text (content : Content) (id : ItemId) (buffer : String) (m : Machine Handler Desk) :
    content.eval (Handler.behaviour setup) (.text id buffer) m =
      (.ok (.text id (content.ownText.foldl (· ++ ·) buffer)), m) := by
  induction content generalizing buffer m with
  | empty => rfl
  | text data rest ih => exact ih (buffer ++ data) m
  | element name as inner rest _ ih =>
    have asked : (Handler.behaviour setup).startElement (.text id buffer) name as m = (.ok none, m) := rfl
    have ended : (Handler.behaviour setup).endElement .ignore name m = (.ok (), m) := rfl
    have first : inner.eval (Handler.behaviour setup) (Option.getD none .ignore) m = (.ok .ignore, m) :=
      eval_ignored setup inner m
    rw [Content.eval, Work.bind_ok asked]
    exact (Work.bind_ok first).trans ((Work.bind_ok ended).trans (ih buffer m))

/-- The handlers of a line's and a polygon's content. -/
inductive Shape.Traced (id : ItemId) (s : Shape) : Handler → Prop where
  | line {x1 y1 x2 y2 : Int} : s.variant = .line x1 y1 x2 y2 → Traced id s (.line id)
  | polygon {points : List (Int × Int)} : s.variant = .polygon points → Traced id s (.polygon id)

variable {setup} {p : Palette} {k : Stock} {s t : Shape} {id : ItemId} {h : Handler}

theorem Shape.Traced.kin (traced : s.Traced id h) (kin : s.Kin t) : t.Traced id h := by
  obtain ⟨variant, _⟩ := kin
  cases traced with
  | line line =>
    rw [line] at variant
    generalize same : t.variant = w at variant
    cases variant <;> exact .line same
  | polygon polygon =>
    rw [polygon] at variant
    generalize same : t.variant = w at variant
    cases variant <;> exact .polygon same

/-- A start tag inside a line or a polygon marks it, and what is in between is passed over. -/
theorem startElement_traced {name : String} {as : Attributes} {blame : Fault → Desk → Prop}
    (traced : s.Traced id h) (found : k.shapes[id.index]? = some s)
    (refused : ∀ e d, s.mark name as = .error e → Holds p k d → blame e d) :
    Ends (fun m : Machine Handler Desk => Holds p k m.work) (fun e m => blame e m.work)
      ((Handler.behaviour setup).startElement h name as) fun next m =>
        next = none ∧ ∃ t, s.mark name as = .ok t ∧ Holds p (k.modify id fun _ => t) m.work := by
  have answered {w : Work Desk Unit} (marks : Ends (Holds p k) blame w fun _ d =>
      ∃ t, s.mark name as = .ok t ∧ Holds p (k.modify id fun _ => t) d) :
      Ends (Holds p k) blame (w >>= fun _ => (pure none : Work Desk (Option Handler)))
        fun next d => next = none ∧ ∃ t, s.mark name as = .ok t ∧ Holds p (k.modify id fun _ => t) d :=
    marks.bind fun _ => .pure fun _ marked => ⟨rfl, marked⟩
  cases traced with
  | line line => exact ends_onWork (answered (startInLine_ends found line refused))
  | polygon polygon => exact ends_onWork (answered (startInPath_ends found polygon refused))

theorem eval_traced (traced : s.Traced id h) (found : k.shapes[id.index]? = some s) (content : Content) :
    Ensures (fun m => Holds p k m.work) (content.eval (Handler.behaviour setup) h) fun done m =>
      done = h ∧ ∃ t, s.trace content = .ok t ∧ Holds p (k.modify id fun _ => t) m.work := by
  induction content generalizing k s with
  | empty =>
    refine .pure fun m holds => ⟨rfl, s, rfl, ?_⟩
    have same : (k.modify id fun _ => s) = k := Stock.modify_self found rfl
    rw [same]
    exact holds
  | text data rest ih =>
    have nothing : (Handler.behaviour setup).characters h data = pure () := by cases traced <;> rfl
    have still : (Handler.behaviour setup).absorb h data = h := by cases traced <;> rfl
    simp only [Content.eval, nothing, still]
    exact ih traced found
  | element name as inner rest _ ih =>
    have start : Ends (fun m => Holds p k m.work) (fun _ _ => True)
        ((Handler.behaviour setup).startElement h name as) _ :=
      startElement_traced traced found fun _ _ _ _ => trivial
    refine start.ensures.bind fun next => ?_
    rintro m done v ⟨rfl, t, marked, holds⟩ ran
    have passed : inner.eval (Handler.behaviour setup) (Option.getD none .ignore) m = (.ok .ignore, m) :=
      eval_ignored setup inner m
    have ended : (Handler.behaviour setup).endElement .ignore name m = (.ok (), m) := rfl
    replace ran := (Work.bind_ok ended).symm.trans ((Work.bind_ok passed).symm.trans ran)
    have kept := (Shape.mark_tuned marked).kin
    have there : (k.modify id fun _ => t).shapes[id.index]? = some t := by simp [Stock.modify, found]
    obtain ⟨rfl, u, traced, holds⟩ := ih (traced.kin kept) there m done v holds ran
    refine ⟨rfl, u, ?_, ?_⟩
    · simp [Shape.trace, marked, traced]
    · simpa [Stock.modify, List.modify_modify_eq, Function.comp_def] using holds

end

end Pgml
