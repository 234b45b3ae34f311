import Pgml.Proofs.DeskStock

/-! Attributes as changes of a shape. What the common attributes do to a shape is a change that does not depend
on the shape, nor on what the resolver of its colours remembers; changes compose, a change made twice is made
once, and changes of different fields can be made in any order and at once. -/
namespace Pgml

open Work (Ends)

/-! ## Changes -/

/-- The fields of a shape that are set, and whether it gets dashes. -/
structure Change where
  box : Option Bounds
  lineWidth : Option Int
  lineColor : Option Color
  filled : Option Bool
  fillColor : Option Color
  dashed : Bool
  context : Option String
  visible : Option Bool
  single : Option String

namespace Change

def restyle (c : Change) (s : Style) : Style where
  lineWidth := c.lineWidth.getD s.lineWidth
  lineColor := c.lineColor.getD s.lineColor
  filled := c.filled.getD s.filled
  fillColor := c.fillColor.getD s.fillColor
  dashed := c.dashed || s.dashed
  visible := c.visible.getD s.visible
  context := c.context.getD s.context
  single := c.single.getD s.single

def apply (c : Change) (s : Shape) : Shape :=
  { s with bounds := c.box.getD s.bounds, style := c.restyle s.style }

/-- A change made after another one. -/
def after (c d : Change) : Change where
  box := c.box.or d.box
  lineWidth := c.lineWidth.or d.lineWidth
  lineColor := c.lineColor.or d.lineColor
  filled := c.filled.or d.filled
  fillColor := c.fillColor.or d.fillColor
  dashed := c.dashed || d.dashed
  context := c.context.or d.context
  visible := c.visible.or d.visible
  single := c.single.or d.single

/-- Changes that set no field both. Either of them, or both, may switch dashes on. -/
structure Apart (c d : Change) : Prop where
  box : c.box = none ∨ d.box = none
  lineWidth : c.lineWidth = none ∨ d.lineWidth = none
  lineColor : c.lineColor = none ∨ d.lineColor = none
  filled : c.filled = none ∨ d.filled = none
  fillColor : c.fillColor = none ∨ d.fillColor = none
  context : c.context = none ∨ d.context = none
  visible : c.visible = none ∨ d.visible = none
  single : c.single = none ∨ d.single = none

variable {c d : Change}

theorem or_comm_of_apart {α : Type} {o o' : Option α} (apart : o = none ∨ o' = none) : o.or o' = o'.or o := by
  rcases apart with rfl | rfl <;> simp

theorem apply_after (c d : Change) (s : Shape) : (c.after d).apply s = c.apply (d.apply s) := by
  simp [apply, restyle, after, Bool.or_assoc]

theorem after_self (c : Change) : c.after c = c := by
  simp [after]

theorem after_comm (apart : c.Apart d) : c.after d = d.after c := by
  simp only [after, or_comm_of_apart apart.box, or_comm_of_apart apart.lineWidth, or_comm_of_apart apart.lineColor,
    or_comm_of_apart apart.filled, or_comm_of_apart apart.fillColor, or_comm_of_apart apart.context,
    or_comm_of_apart apart.visible, or_comm_of_apart apart.single, Bool.or_comm c.dashed]

end Change

/-! ## The change that attributes tell -/

/-- The colour of a description, or a default if it is not understood. -/
def Palette.color (p : Palette) (default : Color) (value : String) : Color := (p.describe? value).getD default

namespace Attributes

/-- The box that attributes say, if there is an `x`. -/
def box? (as : Attributes) : Except Fault (Option Bounds) := do
  match ← as.int? "x" with
  | none => return none
  | some x => return some ⟨x, ← as.int "y" 0, ← as.int "width" 20, ← as.int "height" 20⟩

/-- The change that attributes tell, the numbers among them being read. -/
def told (p : Palette) (defaults : ColorDefaults) (as : Attributes) (box : Option Bounds) (stroke shown : Option Int) :
    Change where
  box := box
  lineWidth := stroke
  lineColor := (as.value? "strokecolor").map (p.color defaults.stroke)
  filled := (as.value? "fill").map fun fill => fill == "1" || fill.toList.head? == some 't'
  fillColor := (as.value? "fillcolor").map (p.color defaults.fill)
  dashed := (as.value? "dasharray").any (· != "solid")
  context := as.value? "context"
  visible := shown.map (· != 0)
  single := as.value? "single"

/-- The change that attributes tell, if the numbers among them can be read. -/
def change (p : Palette) (defaults : ColorDefaults) (as : Attributes) : Except Fault Change := do
  return as.told p defaults (← as.box?) (← as.int? "stroke") (← as.int? "shown")

end Attributes

namespace Styling

variable {p : Palette} {as : Attributes} {u : Shape} {blame : Fault → Styling → Prop}

/-- A styling of some shape, whose resolver remembers nothing but what a palette says. -/
structure Shows (p : Palette) (u : Shape) (s : Styling) : Prop where
  shape : s.shape = u
  colors : s.colors.Honest p

theorem updateStyle_shows (f : Style → Style) :
    Ends (Shows p u) blame (updateStyle f) fun _ => Shows p { u with style := f u.style } := by
  refine .update fun s shows => ⟨?_, shows.colors⟩
  simp only [← shows.shape]

theorem resolve_shows (value : String) (default : Color) :
    Ends (Shows p u) blame (resolve value default) fun color s => color = p.color default value ∧ Shows p u s := by
  intro s shows
  obtain ⟨same, honest, _⟩ := shows.colors.resolve value default
  exact ⟨same, shows.shape, honest⟩

theorem setColor_shows (f : Color → Style → Style) (default : Color) (text : String) :
    Ends (Shows p u) blame (do updateStyle (f (← resolve text default))) fun _ =>
      Shows p { u with style := f (p.color default text) u.style } := by
  refine (resolve_shows text default).bind fun color => .given ?_
  rintro rfl
  exact updateStyle_shows _

theorem setGeometry_shows (refused : ∀ e s, as.box? = .error e → blame e s) :
    Ends (Shows p u) blame (setGeometry as) fun _ s =>
      ∃ box, as.box? = .ok box ∧ Shows p { u with bounds := box.getD u.bounds } s := by
  refine (Ends.settle fun e s _ failed => ?_).bind fun x => .given fun atX => ?_
  · exact refused e s (by simp [Attributes.box?, failed])
  cases x with
  | none => exact .pure fun s shows => ⟨none, by simp [Attributes.box?, atX], shows⟩
  | some x =>
    refine (Ends.settle fun e s _ failed => ?_).bind fun y => .given fun atY => ?_
    · exact refused e s (by simp [Attributes.box?, atX, failed])
    refine (Ends.settle fun e s _ failed => ?_).bind fun width => .given fun wide => ?_
    · exact refused e s (by simp [Attributes.box?, atX, atY, failed])
    refine (Ends.settle fun e s _ failed => ?_).bind fun height => .given fun high => ?_
    · exact refused e s (by simp [Attributes.box?, atX, atY, wide, failed])
    refine .update fun s shows => ⟨some ⟨x, y, width, height⟩, ?_, ?_, shows.colors⟩
    · simp [Attributes.box?, atX, atY, wide, high]
    · simp [Shape.withBounds, shows.shape]

theorem setLineWidth_shows (refused : ∀ e s, as.int? "stroke" = .error e → blame e s) :
    Ends (Shows p u) blame (setLineWidth as) fun _ s => ∃ stroke, as.int? "stroke" = .ok stroke ∧
      Shows p { u with style := { u.style with lineWidth := stroke.getD u.style.lineWidth } } s := by
  refine (Ends.settle fun e s _ failed => refused e s failed).bind fun stroke => .given fun read => ?_
  cases stroke with
  | none => exact .pure fun s shows => ⟨none, read, shows⟩
  | some width => exact (updateStyle_shows _).mono fun _ s shows => ⟨some width, read, shows⟩

theorem setLineColor_shows (default : Color) : Ends (Shows p u) blame (setLineColor default as) fun _ =>
    Shows p { u with style := { u.style with
      lineColor := ((as.value? "strokecolor").map (p.color default)).getD u.style.lineColor } } := by
  unfold setLineColor
  cases as.value? "strokecolor" with
  | none => exact .pure fun _ shows => shows
  | some value => exact setColor_shows (fun color style => { style with lineColor := color }) default value

theorem setFilled_shows : Ends (Shows p u) blame (setFilled as) fun _ =>
    Shows p { u with style := { u.style with filled := ((as.value? "fill").map fun fill =>
      fill == "1" || fill.toList.head? == some 't').getD u.style.filled } } := by
  unfold setFilled
  cases as.value? "fill" with
  | none => exact .pure fun _ shows => shows
  | some value => exact updateStyle_shows _

theorem setFillColor_shows (default : Color) : Ends (Shows p u) blame (setFillColor default as) fun _ =>
    Shows p { u with style := { u.style with
      fillColor := ((as.value? "fillcolor").map (p.color default)).getD u.style.fillColor } } := by
  unfold setFillColor
  cases as.value? "fillcolor" with
  | none => exact .pure fun _ shows => shows
  | some value => exact setColor_shows (fun color style => { style with fillColor := color }) default value

theorem setDashed_shows : Ends (Shows p u) blame (setDashed as) fun _ =>
    Shows p { u with style := { u.style with
      dashed := (as.value? "dasharray").any (· != "solid") || u.style.dashed } } := by
  unfold setDashed
  cases as.value? "dasharray" with
  | none => exact .pure fun _ shows => shows
  | some dashes =>
    by_cases solid : dashes = "solid"
    · simp only [solid]
      exact .pure fun _ shows => shows
    · have other : (dashes != "solid") = true := by simp [solid]
      simp only [beq_iff_eq, solid, if_false, Option.any_some, other, Bool.true_or]
      exact updateStyle_shows _

theorem setContext_shows : Ends (Shows p u) blame (setContext as) fun _ =>
    Shows p { u with style := { u.style with context := (as.value? "context").getD u.style.context } } := by
  unfold setContext
  cases as.value? "context" with
  | none => exact .pure fun _ shows => shows
  | some value => exact updateStyle_shows _

theorem setVisible_shows (refused : ∀ e s, as.int? "shown" = .error e → blame e s) :
    Ends (Shows p u) blame (setVisible as) fun _ s => ∃ shown, as.int? "shown" = .ok shown ∧
      Shows p { u with style := { u.style with visible := (shown.map (· != 0)).getD u.style.visible } } s := by
  refine (Ends.settle fun e s _ failed => refused e s failed).bind fun shown => .given fun read => ?_
  cases shown with
  | none => exact .pure fun s shows => ⟨none, read, shows⟩
  | some n => exact (updateStyle_shows _).mono fun _ s shows => ⟨some n, read, shows⟩

theorem setSingle_shows : Ends (Shows p u) blame (setSingle as) fun _ =>
    Shows p { u with style := { u.style with single := (as.value? "single").getD u.style.single } } := by
  unfold setSingle
  cases as.value? "single" with
  | none => exact .pure fun _ shows => shows
  | some value => exact updateStyle_shows _

/-- Applying attributes to a shape makes the change that they tell, or fails with it. -/
theorem setCommon_shows (as : Attributes) (defaults : ColorDefaults) (u : Shape) :
    Ends (Shows p u) (fun e _ => as.change p defaults = .error e) (setCommon defaults as) fun _ s =>
      ∃ c, as.change p defaults = .ok c ∧ Shows p (c.apply u) s := by
  refine (setGeometry_shows fun e _ failed => ?_).bind fun _ => .exists_pre fun box => .given fun boxed => ?_
  · simp [Attributes.change, failed]
  refine (setLineWidth_shows fun e _ failed => ?_).bind fun _ => .exists_pre fun stroke => .given fun wide => ?_
  · simp [Attributes.change, boxed, failed]
  refine (setLineColor_shows _).bind fun _ => setFilled_shows.bind fun _ => ?_
  refine (setFillColor_shows _).bind fun _ => setDashed_shows.bind fun _ => setContext_shows.bind fun _ => ?_
  refine (setVisible_shows fun e _ failed => ?_).bind fun _ => .exists_pre fun shown => .given fun seen => ?_
  · simp [Attributes.change, boxed, wide, failed]
  refine setSingle_shows.mono fun _ s shows => ?_
  refine ⟨as.told p defaults box stroke shown, ?_, shows⟩
  simp only [Attributes.change, boxed, wide, seen, except_ok_bind, except_pure]

end Styling

theorem Shape.change_of_styled {p : Palette} {as : Attributes} {defaults : ColorDefaults} {s t : Shape}
    (styled : s.styled p as defaults = .ok t) : ∃ c, as.change p defaults = .ok c ∧ t = c.apply s := by
  have ended := Styling.setCommon_shows as defaults s ⟨s, .ofPalette p, []⟩ ⟨rfl, Resolver.honest_ofPalette p⟩
  unfold Shape.styled at styled
  split at styled
  next styling ran =>
    rw [ran] at ended
    obtain ⟨c, told, shape, -⟩ := ended
    obtain rfl := Except.ok.inj styled
    exact ⟨c, told, shape⟩
  · contradiction

/-! ## Attributes beside others -/

namespace Attributes

variable {p : Palette} {defaults : ColorDefaults} {as bs : Attributes} {c d e : Change} {key : String}

/-- The keys of a box. -/
def boxKeys : List String := ["x", "y", "width", "height"]

/-- Attributes without a common key, all that say a box being in the same ones. -/
structure Separate (as bs : Attributes) : Prop where
  keys : ∀ a ∈ as, ∀ b ∈ bs, a.1 ≠ b.1
  boxes : (∀ key ∈ boxKeys, as.value? key = none) ∨ (∀ key ∈ boxKeys, bs.value? key = none)

theorem raw?_eq_none_iff : as.raw? key = none ↔ ∀ a ∈ as, a.1 ≠ key := by
  simp [raw?]

theorem raw?_append (as bs : Attributes) (key : String) : (as ++ bs).raw? key = (as.raw? key).or (bs.raw? key) := by
  simp only [raw?, List.find?_append, Option.map_or]

theorem value?_of_absent (absent : as.raw? key = none) : as.value? key = none := by
  simp only [value?, absent]

theorem Separate.absent (separate : as.Separate bs) (key : String) : as.raw? key = none ∨ bs.raw? key = none := by
  by_cases present : ∃ a ∈ as, a.1 = key
  · obtain ⟨a, member, rfl⟩ := present
    exact .inr (raw?_eq_none_iff.mpr fun b there => (separate.keys a member b there).symm)
  · exact .inl (raw?_eq_none_iff.mpr fun a member same => present ⟨a, member, same⟩)

theorem Separate.blank (separate : as.Separate bs) (key : String) : as.value? key = none ∨ bs.value? key = none :=
  (separate.absent key).imp value?_of_absent value?_of_absent

theorem Separate.value? (separate : as.Separate bs) (key : String) :
    (as ++ bs).value? key = (as.value? key).or (bs.value? key) := by
  rcases separate.absent key with absent | absent
  · rw [value?_of_absent absent, Option.none_or]
    simp only [Attributes.value?, raw?_append, absent, Option.none_or]
  · rw [value?_of_absent absent, Option.or_none]
    simp only [Attributes.value?, raw?_append, absent, Option.or_none]

theorem int?_congr (same : as.value? key = bs.value? key) : as.int? key = bs.int? key := by
  simp only [int?, same]

theorem int?_of_absent (absent : as.value? key = none) : as.int? key = .ok none := by
  simp only [int?, absent]

theorem int_congr (same : as.value? key = bs.value? key) (default : Int) :
    as.int key default = bs.int key default := by
  simp only [int, int?_congr same]

theorem box?_congr (same : ∀ key ∈ boxKeys, as.value? key = bs.value? key) : as.box? = bs.box? := by
  simp only [boxKeys, List.forall_mem_cons] at same
  obtain ⟨x, y, width, height, -⟩ := same
  simp only [box?, int?_congr x, int_congr y, int_congr width, int_congr height]

theorem box?_of_absent (absent : as.value? "x" = none) : as.box? = .ok none := by
  simp only [box?, int?_of_absent absent, except_ok_bind, except_pure]

/-- Readings of two attributes and of both together, one of the two being without a value. -/
def Joined {α : Type} (both left right : Except Fault (Option α)) : Prop :=
  both = left ∧ right = .ok none ∨ both = right ∧ left = .ok none

theorem Joined.eq_ok_iff {α : Type} {both left right : Except Fault (Option α)} (joined : Joined both left right)
    {o : Option α} : both = .ok o ↔ ∃ a b, left = .ok a ∧ right = .ok b ∧ o = a.or b := by
  rcases joined with ⟨rfl, rfl⟩ | ⟨rfl, rfl⟩
  · constructor
    · intro read
      exact ⟨o, none, read, rfl, Option.or_none.symm⟩
    · rintro ⟨a, b, read, blank, rfl⟩
      obtain rfl := Except.ok.inj blank
      rwa [Option.or_none]
  · constructor
    · intro read
      exact ⟨none, o, rfl, read, Option.none_or.symm⟩
    · rintro ⟨a, b, blank, read, rfl⟩
      obtain rfl := Except.ok.inj blank
      rwa [Option.none_or]

theorem Joined.blank {α : Type} {both : Except Fault (Option α)} {a b : Option α}
    (joined : Joined both (.ok a) (.ok b)) : a = none ∨ b = none := by
  rcases joined with ⟨-, blank⟩ | ⟨-, blank⟩
  · exact .inr (Except.ok.inj blank)
  · exact .inl (Except.ok.inj blank)

theorem Separate.int? (separate : as.Separate bs) (key : String) :
    Joined ((as ++ bs).int? key) (as.int? key) (bs.int? key) := by
  rcases separate.blank key with absent | absent
  · refine .inr ⟨int?_congr ?_, int?_of_absent absent⟩
    rw [separate.value?, absent, Option.none_or]
  · refine .inl ⟨int?_congr ?_, int?_of_absent absent⟩
    rw [separate.value?, absent, Option.or_none]

theorem Separate.box? (separate : as.Separate bs) : Joined (as ++ bs).box? as.box? bs.box? := by
  rcases separate.boxes with absent | absent
  · refine .inr ⟨box?_congr fun key member => ?_, box?_of_absent (absent "x" (by simp [boxKeys]))⟩
    rw [separate.value?, absent key member, Option.none_or]
  · refine .inl ⟨box?_congr fun key member => ?_, box?_of_absent (absent "x" (by simp [boxKeys]))⟩
    rw [separate.value?, absent key member, Option.or_none]

theorem change_eq_ok_iff : as.change p defaults = .ok c ↔ ∃ box stroke shown, as.box? = .ok box ∧
    as.int? "stroke" = .ok stroke ∧ as.int? "shown" = .ok shown ∧ c = as.told p defaults box stroke shown := by
  constructor
  · intro read
    obtain ⟨box, boxed, read⟩ := except_bind_eq_ok read
    obtain ⟨stroke, wide, read⟩ := except_bind_eq_ok read
    obtain ⟨shown, seen, read⟩ := except_bind_eq_ok read
    exact ⟨box, stroke, shown, boxed, wide, seen, (Except.ok.inj read).symm⟩
  · rintro ⟨box, stroke, shown, boxed, wide, seen, rfl⟩
    simp only [change, boxed, wide, seen, except_ok_bind, except_pure]

theorem told_append (separate : as.Separate bs) (box box' : Option Bounds) (stroke stroke' shown shown' : Option Int) :
    (as ++ bs).told p defaults (box.or box') (stroke.or stroke') (shown.or shown') =
      (as.told p defaults box stroke shown).after (bs.told p defaults box' stroke' shown') := by
  have dashes : ((as.value? "dasharray").or (bs.value? "dasharray")).any (· != "solid") =
      ((as.value? "dasharray").any (· != "solid") || (bs.value? "dasharray").any (· != "solid")) := by
    rcases separate.blank "dasharray" with absent | absent <;> simp [absent]
  simp only [told, Change.after, separate.value?, dashes, Option.map_or]

theorem apart_of_change (separate : as.Separate bs) (left : as.change p defaults = .ok c)
    (right : bs.change p defaults = .ok d) : c.Apart d := by
  obtain ⟨box, stroke, shown, boxed, wide, seen, rfl⟩ := change_eq_ok_iff.mp left
  obtain ⟨box', stroke', shown', boxed', wide', seen', rfl⟩ := change_eq_ok_iff.mp right
  have boxes := separate.box?
  have strokes := separate.int? "stroke"
  have views := separate.int? "shown"
  rw [boxed, boxed'] at boxes
  rw [wide, wide'] at strokes
  rw [seen, seen'] at views
  constructor <;> simp only [told, Option.map_eq_none_iff, separate.blank, boxes.blank, strokes.blank, views.blank]

/-- Attributes side by side tell one change after the other. -/
theorem change_append_iff (separate : as.Separate bs) : (as ++ bs).change p defaults = .ok e ↔
    ∃ c d, as.change p defaults = .ok c ∧ bs.change p defaults = .ok d ∧ e = c.after d := by
  simp only [change_eq_ok_iff, separate.box?.eq_ok_iff, (separate.int? _).eq_ok_iff]
  constructor
  · rintro ⟨_, _, _, ⟨box, box', left, right, rfl⟩, ⟨stroke, stroke', wide, wide', rfl⟩,
      ⟨shown, shown', seen, seen', rfl⟩, rfl⟩
    exact ⟨_, _, ⟨box, stroke, shown, left, wide, seen, rfl⟩, ⟨box', stroke', shown', right, wide', seen', rfl⟩,
      told_append separate ..⟩
  · rintro ⟨_, _, ⟨box, stroke, shown, left, wide, seen, rfl⟩, ⟨box', stroke', shown', right, wide', seen', rfl⟩, rfl⟩
    exact ⟨_, _, _, ⟨box, box', left, right, rfl⟩, ⟨stroke, stroke', wide, wide', rfl⟩,
      ⟨shown, shown', seen, seen', rfl⟩, (told_append separate ..).symm⟩

/-- What a change that attributes tell leaves of a shape: the fields whose attributes are missing or empty, and
all that no attribute is about. The whole box is governed by `x`, without which the other three say nothing. -/
structure Spares (as : Attributes) (s t : Shape) : Prop where
  bounds : as.value? "x" = none → t.bounds = s.bounds
  lineWidth : as.value? "stroke" = none → t.style.lineWidth = s.style.lineWidth
  lineColor : as.value? "strokecolor" = none → t.style.lineColor = s.style.lineColor
  filled : as.value? "fill" = none → t.style.filled = s.style.filled
  fillColor : as.value? "fillcolor" = none → t.style.fillColor = s.style.fillColor
  solid : as.value? "dasharray" = none → t.style.dashed = s.style.dashed
  dashed : s.style.dashed = true → t.style.dashed = true
  context : as.value? "context" = none → t.style.context = s.style.context
  visible : as.value? "shown" = none → t.style.visible = s.style.visible
  single : as.value? "single" = none → t.style.single = s.style.single
  name : t.name = s.name
  owner : t.owner = s.owner
  privateData : t.privateData = s.privateData
  variant : t.variant = s.variant

theorem spares_of_change (told : as.change p defaults = .ok c) (s : Shape) : as.Spares s (c.apply s) := by
  obtain ⟨box, stroke, shown, boxed, wide, seen, rfl⟩ := change_eq_ok_iff.mp told
  constructor <;> try intro absent
  case bounds =>
    obtain rfl : none = box := Except.ok.inj ((box?_of_absent absent).symm.trans boxed)
    rfl
  case lineWidth =>
    obtain rfl : none = stroke := Except.ok.inj ((int?_of_absent absent).symm.trans wide)
    rfl
  case visible =>
    obtain rfl : none = shown := Except.ok.inj ((int?_of_absent absent).symm.trans seen)
    rfl
  case dashed => simp only [Change.apply, Change.restyle, absent, Bool.or_true]
  case name | owner | privateData | variant => rfl
  all_goals simp [Change.apply, Change.restyle, Attributes.told, absent]

end Attributes

/-! ## Attributes applied one after the other -/

namespace Styling

variable {p : Palette} {defaults : ColorDefaults} {as bs : Attributes} {s : Styling} {u : Shape}

/-- The shape that work on a styling leaves, if it succeeds. -/
def outcome (w : Work Styling Unit) (s : Styling) : Option Shape :=
  match w s with
  | (.ok _, t) => some t.shape
  | (.error _, _) => none

theorem outcome_eq_some_iff (honest : s.colors.Honest p) : outcome (setCommon defaults as) s = some u ↔
    ∃ c, as.change p defaults = .ok c ∧ u = c.apply s.shape := by
  have ended := setCommon_shows as defaults s.shape s ⟨rfl, honest⟩
  unfold outcome
  rcases ran : setCommon defaults as s with ⟨e | _, t⟩ <;> rw [ran] at ended
  · simp [ended]
  · obtain ⟨c, told, shape, -⟩ := ended
    simp [told, shape, eq_comm]

theorem outcome_bind_eq_some_iff (honest : s.colors.Honest p) :
    outcome (setCommon defaults as >>= fun _ => setCommon defaults bs) s = some u ↔
      ∃ c d, as.change p defaults = .ok c ∧ bs.change p defaults = .ok d ∧ u = (d.after c).apply s.shape := by
  have ended := setCommon_shows as defaults s.shape s ⟨rfl, honest⟩
  rcases ran : setCommon defaults as s with ⟨e | _, t⟩ <;> rw [ran] at ended
  · simp [outcome, Work.bind_error ran, ended]
  · obtain ⟨c, told, shape, colors⟩ := ended
    -- The resolver remembers more by now, but still nothing that the palette does not say.
    have next : outcome (setCommon defaults as >>= fun _ => setCommon defaults bs) s =
        outcome (setCommon defaults bs) t := by
      simp only [outcome, Work.bind_ok ran]
    simp [next, outcome_eq_some_iff colors, told, shape, Change.apply_after]

/-- Attributes without a common key, applied at once. -/
theorem outcome_append_eq_some_iff (separate : as.Separate bs) (honest : s.colors.Honest p) :
    outcome (setCommon defaults (as ++ bs)) s = some u ↔ ∃ c d,
      as.change p defaults = .ok c ∧ bs.change p defaults = .ok d ∧ u = (c.after d).apply s.shape := by
  rw [outcome_eq_some_iff honest]
  simp only [Attributes.change_append_iff separate]
  constructor
  · rintro ⟨_, ⟨c, d, first, second, rfl⟩, rfl⟩
    exact ⟨c, d, first, second, rfl⟩
  · rintro ⟨c, d, first, second, rfl⟩
    exact ⟨_, ⟨c, d, first, second, rfl⟩, rfl⟩

theorem outcome_bind_eq_append (separate : as.Separate bs) (honest : s.colors.Honest p) :
    outcome (setCommon defaults as >>= fun _ => setCommon defaults bs) s =
      outcome (setCommon defaults (as ++ bs)) s := by
  ext u
  rw [outcome_bind_eq_some_iff honest, outcome_append_eq_some_iff separate honest]
  refine exists₂_congr fun c d => and_congr_right fun first => and_congr_right fun second => ?_
  rw [Change.after_comm (Attributes.apart_of_change separate first second)]

theorem outcome_bind_comm (separate : as.Separate bs) (honest : s.colors.Honest p) :
    outcome (setCommon defaults as >>= fun _ => setCommon defaults bs) s =
      outcome (setCommon defaults bs >>= fun _ => setCommon defaults as) s := by
  rw [outcome_bind_eq_append separate honest]
  ext u
  rw [outcome_append_eq_some_iff separate honest, outcome_bind_eq_some_iff honest]
  constructor
  · rintro ⟨c, d, first, second, rfl⟩
    exact ⟨d, c, second, first, rfl⟩
  · rintro ⟨d, c, second, first, rfl⟩
    exact ⟨c, d, first, second, rfl⟩

theorem outcome_bind_self (honest : s.colors.Honest p) :
    outcome (setCommon defaults as >>= fun _ => setCommon defaults as) s = outcome (setCommon defaults as) s := by
  ext u
  rw [outcome_bind_eq_some_iff honest, outcome_eq_some_iff honest]
  constructor
  · rintro ⟨c, d, first, second, rfl⟩
    obtain rfl := Except.ok.inj (first.symm.trans second)
    exact ⟨c, first, by rw [Change.after_self]⟩
  · rintro ⟨c, first, rfl⟩
    exact ⟨c, c, first, first, by rw [Change.after_self]⟩

theorem spares_of_outcome (honest : s.colors.Honest p) (made : outcome (setCommon defaults as) s = some u) :
    as.Spares s.shape u := by
  obtain ⟨c, told, rfl⟩ := (outcome_eq_some_iff honest).mp made
  exact Attributes.spares_of_change told s.shape

/-- Attributes without a common key give the same shape in any order and at once, or fail in each way; the same
ones applied twice give what they give once; and what they say nothing about stays as it was. -/
theorem setCommon_composes (defaults : ColorDefaults) (s : Styling) (honest : s.colors.Honest p) :
    (∀ as bs : Attributes, as.Separate bs →
      outcome (setCommon defaults as >>= fun _ => setCommon defaults bs) s =
        outcome (setCommon defaults (as ++ bs)) s ∧
      outcome (setCommon defaults bs >>= fun _ => setCommon defaults as) s =
        outcome (setCommon defaults (as ++ bs)) s) ∧
    ∀ as : Attributes,
      outcome (setCommon defaults as >>= fun _ => setCommon defaults as) s = outcome (setCommon defaults as) s ∧
      ∀ u, outcome (setCommon defaults as) s = some u → as.Spares s.shape u := by
  refine ⟨fun as bs separate => ?_, fun as => ?_⟩
  · have joined : outcome (setCommon defaults as >>= fun _ => setCommon defaults bs) s =
        outcome (setCommon defaults (as ++ bs)) s := outcome_bind_eq_append separate honest
    exact ⟨joined, (outcome_bind_comm separate honest).symm.trans joined⟩
  · exact ⟨outcome_bind_self honest, fun u made => spares_of_outcome honest made⟩

/-- A colour nobody knows has two defaults, in whichever order it is asked for. -/
theorem setCommon_composes_of_mauve :
    let s : Styling := ⟨{ Shape.ofVariant (.line 1 2 3 4) with name := some "axis" }, .ofPalette .builtin, []⟩
    let as : Attributes := [("strokecolor", "mauve"), ("x", "3"), ("width", ""), ("dasharray", "solid")]
    let bs : Attributes := [("fillcolor", "mauve"), ("shown", "0"), ("height", ""), ("single", "n")]
    let defaults : ColorDefaults := ⟨.pureBlue, ⟨1, 2, 3⟩⟩
    ∃ u, outcome (setCommon defaults as >>= fun _ => setCommon defaults bs) s = some u ∧
      outcome (setCommon defaults bs >>= fun _ => setCommon defaults as) s = some u ∧
      outcome (setCommon defaults (as ++ bs)) s = some u ∧
      outcome (setCommon defaults (as ++ bs) >>= fun _ => setCommon defaults (as ++ bs)) s = some u ∧
      (as ++ bs).Spares s.shape u ∧ (u.bounds, u.style.lineColor, u.style.fillColor, u.style.visible) =
        (⟨3, 0, 20, 20⟩, .pureBlue, ⟨1, 2, 3⟩, false) := by
  intro s as bs defaults
  have separate : as.Separate bs := ⟨by decide, .inr (by decide)⟩
  obtain ⟨compose, alone⟩ := setCommon_composes defaults s (Resolver.honest_ofPalette .builtin)
  obtain ⟨one, other⟩ := compose as bs separate
  obtain ⟨twice, spares⟩ := alone (as ++ bs)
  have shown : (outcome (setCommon defaults (as ++ bs)) s).map
      (fun u => (u.bounds, u.style.lineColor, u.style.fillColor, u.style.visible)) =
        some (⟨3, 0, 20, 20⟩, .pureBlue, ⟨1, 2, 3⟩, false) := by decide +kernel
  obtain ⟨u, made, look⟩ := Option.map_eq_some_iff.mp shown
  exact ⟨u, one.trans made, other.trans made, made, twice.trans made, spares u made, look⟩

end Styling

end Pgml
