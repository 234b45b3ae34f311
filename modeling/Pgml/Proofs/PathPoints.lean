import Mathlib.Data.List.Forall2
import Pgml.Proofs.HintGeometry
import Pgml.Proofs.BoxUnions

/-! The points of paths. A polygon has the points that its element's direct children say, a line the last start and
the last end among them; each child moves the box, so in the end it is the smallest one around the points. A child
without both coordinates is refused when it comes. -/
namespace Pgml

open Desk Vocabulary Machine

/-! ## Boxes of points -/

namespace Bounds

/-- A point that lies beyond no side of a box. -/
structure Surrounds (b : Bounds) (q : Int × Int) : Prop where
  left : b.x ≤ q.1
  top : b.y ≤ q.2
  right : q.1 ≤ b.x + b.width
  bottom : q.2 ≤ b.y + b.height

/-- The smallest box around some points. -/
structure Smallest (b : Bounds) (points : List (Int × Int)) : Prop where
  surrounds : ∀ q ∈ points, b.Surrounds q
  least : ∀ v, (∀ q ∈ points, v.Surrounds q) → b.Inside v

/-- A point as a box without a size. -/
def dot (q : Int × Int) : Bounds := ⟨q.1, q.2, 0, 0⟩

variable {b v : Bounds} {q : Int × Int} {points : List (Int × Int)}

theorem dot_inside_iff : (dot q).Inside v ↔ v.Surrounds q := by
  constructor
  · rintro ⟨left, top, right, bottom⟩
    simp only [dot] at left top right bottom
    constructor <;> omega
  · rintro ⟨left, top, right, bottom⟩
    constructor <;> simp only [dot] <;> omega

theorem smallest_of_union? (union : union? (points.map dot) = some b) : b.Smallest points := by
  obtain ⟨_, least⟩ := union?_eq_some_iff.mp union
  simp only [List.forall_mem_map, dot_inside_iff] at least
  exact ⟨(least b).mp (.refl b), fun v => (least v).mpr⟩

theorem foldl_union_dots (b : Bounds) (points : List (Int × Int)) : (points.map dot).foldl union b =
    ofCorners ((points.map (·.1)).foldl min b.x) ((points.map (·.2)).foldl min b.y)
      ((points.map (·.1)).foldl max b.right) ((points.map (·.2)).foldl max b.bottom) := by
  induction points generalizing b with
  | nil => simp [ofCorners, right, bottom]
  | cons q rest ih =>
    simp only [List.map_cons, List.foldl_cons]
    rw [ih]
    simp [union, ofCorners, right, bottom, dot]

theorem smallest_around (first : Int × Int) (rest : List (Int × Int)) :
    (around first rest).Smallest (first :: rest) := by
  apply smallest_of_union?
  simp [union?, foldl_union_dots, around, dot, right, bottom]

theorem smallest_spanned (a b : Int × Int) : (spanned a.1 a.2 b.1 b.2).Smallest [a, b] := by
  apply smallest_of_union?
  simp [union?, union, spanned, dot, right, bottom]

theorem spanned_proper (a b : Int × Int) :
    0 ≤ (spanned a.1 a.2 b.1 b.2).width ∧ 0 ≤ (spanned a.1 a.2 b.1 b.2).height := by
  simp only [spanned, ofCorners]
  omega

end Bounds

/-! ## Marks -/

/-- The names of elements that are points of paths. -/
def IsMark (name : String) : Prop := name = "moveto" ∨ name = "lineto"

instance (name : String) : Decidable (IsMark name) := inferInstanceAs (Decidable (_ ∨ _))

namespace Attributes

/-- A point with the coordinates that attributes say. -/
structure Locates (as : Attributes) (q : Int × Int) : Prop where
  x : as.Holds "x" (some q.1)
  y : as.Holds "y" (some q.2)

variable {as : Attributes} {name : String} {q : Int × Int}

theorem locates_of_point (read : point name as = .ok q) : as.Locates q := by
  unfold point at read
  split at read
  next x y atX atY =>
    obtain ⟨left, first, read⟩ := except_bind_eq_ok read
    obtain ⟨top, second, read⟩ := except_bind_eq_ok read
    obtain rfl := Except.ok.inj read
    exact ⟨⟨x, atX, denotes_of_toInt first⟩, ⟨y, atY, denotes_of_toInt second⟩⟩
  · contradiction

theorem point_of_missing (missing : as.value? "x" = none ∨ as.value? "y" = none) :
    point name as = .error (.malformed (.incompletePoint name)) := by
  unfold point
  split
  next atX atY => simp [atX, atY] at missing
  · rfl

end Attributes

/-- Points as the elements in some content say them, with their names. -/
abbrev Marks := List (String × Attributes)

/-- The points among the elements directly in some content. -/
def Content.marks : Content → Marks
  | .empty => []
  | .text _ rest => rest.marks
  | .element name as _ rest => if IsMark name then (name, as) :: rest.marks else rest.marks

namespace Marks

/-- The attributes of the last point of a name. -/
def last? (marks : Marks) (name : String) : Option Attributes := (marks.filter (·.1 = name)).getLast?.map (·.2)

/-- Where the last point of a name lies. Without any it is a default. -/
structure Settles (marks : Marks) (name : String) (default q : Int × Int) : Prop where
  none : marks.last? name = .none → q = default
  some : ∀ as, marks.last? name = .some as → as.Locates q

variable {marks : Marks} {name other : String} {as : Attributes} {p q r : Int × Int}

theorem last?_cons : last? ((other, as) :: marks) name =
    (marks.last? name).or (if other = name then some as else none) := by
  by_cases same : other = name
  · cases last : (marks.filter (·.1 = name)).getLast? with
    | none => simp [last?, same, List.getLast?_cons, last]
    | some mark => simp [last?, same, List.getLast?_cons, last]
  · simp [last?, same]

theorem settles_nil : Settles [] name p p := ⟨fun _ => rfl, by simp [last?]⟩

theorem Settles.cons (later : marks.Settles name q r) (here : other = name → as.Locates q)
    (elsewhere : other ≠ name → q = p) : Settles ((other, as) :: marks) name p r := by
  constructor
  · intro none
    rw [last?_cons] at none
    obtain ⟨absent, nothing⟩ := Option.or_eq_none_iff.mp none
    have differs : other ≠ name := by
      intro same
      simp [same] at nothing
    exact (later.none absent).trans (elsewhere differs)
  · intro found last
    rw [last?_cons] at last
    rcases Option.or_eq_some_iff.mp last with last | ⟨absent, last⟩
    · exact later.some found last
    · by_cases same : other = name
      · obtain rfl : as = found := by simpa [same] using last
        rw [later.none absent]
        exact here same
      · simp [same] at last

end Marks

/-! ## Tracing -/

namespace Shape

variable {as : Attributes} {name : String} {content : Content} {s t : Shape} {points : List (Int × Int)}
  {a b : Int × Int}

theorem mark_of_other (other : ¬ IsMark name) (s : Shape) : s.mark name as = .ok s := by
  unfold IsMark at other
  unfold mark
  split
  · split
    · simp at other
    · simp at other
    · rfl
  · rw [if_neg (by simpa using other)]
    rfl
  · rfl

/-- Content without points leaves a shape as it is. -/
theorem eq_of_trace (none : content.marks = []) (traced : s.trace content = .ok t) : t = s := by
  induction content with
  | empty => exact (Except.ok.inj traced).symm
  | text data rest ih => exact ih none traced
  | element name as inner rest _ ih =>
    by_cases mark : IsMark name
    · simp [Content.marks, mark] at none
    · rw [Content.marks, if_neg mark] at none
      rw [trace, mark_of_other mark, except_ok_bind] at traced
      exact ih none traced

theorem mark_polygon (polygon : s.variant = .polygon points) (mark : IsMark name)
    (marked : s.mark name as = .ok t) : ∃ q, as.Locates q ∧ t.variant = .polygon (points ++ [q]) ∧
      t.bounds.Smallest (points ++ [q]) := by
  have named : (name == "moveto" || name == "lineto") = true := by simpa [IsMark] using mark
  simp only [Shape.mark, polygon, named, if_true] at marked
  obtain ⟨q, read, marked⟩ := except_bind_eq_ok marked
  obtain rfl := Except.ok.inj marked
  obtain ⟨first, rest, more⟩ : ∃ first rest, points ++ [q] = first :: rest :=
    List.exists_cons_of_ne_nil (by simp)
  refine ⟨q, Attributes.locates_of_point read, ?_, ?_⟩
  · simp [addPoint?, polygon, more]
  · rw [more]
    simpa [addPoint?, polygon, more] using Bounds.smallest_around first rest

/-- Each point directly inside comes behind those of before, and the box keeps up with them. -/
theorem trace_polygon (polygon : s.variant = .polygon points) (traced : s.trace content = .ok t) :
    ∃ new, List.Forall₂ (fun mark q => mark.2.Locates q) content.marks new ∧
      t.variant = .polygon (points ++ new) ∧ (new ≠ [] → t.bounds.Smallest (points ++ new)) := by
  induction content generalizing s points with
  | empty =>
    obtain rfl := Except.ok.inj traced
    exact ⟨[], .nil, by simpa using polygon, by simp⟩
  | text data rest ih => exact ih polygon traced
  | element name as inner rest _ ih =>
    by_cases mark : IsMark name
    · obtain ⟨u, marked, traced⟩ := except_bind_eq_ok traced
      obtain ⟨q, located, variant, box⟩ := mark_polygon polygon mark marked
      obtain ⟨new, later, variant', box'⟩ := ih variant traced
      refine ⟨q :: new, ?_, by simpa using variant', fun _ => ?_⟩
      · rw [Content.marks, if_pos mark]
        exact .cons located later
      -- The box follows from all points at every point, so the last one decides.
      · cases new with
        | nil =>
          have none : rest.marks = [] := List.forall₂_nil_right_iff.mp later
          obtain rfl := eq_of_trace none traced
          exact box
        | cons next more => simpa using box' (by simp)
    · rw [trace, mark_of_other mark, except_ok_bind] at traced
      rw [Content.marks, if_neg mark]
      exact ih polygon traced

/-- A point moves one end of a line, and the box is spanned by the ends. -/
theorem mark_line (line : s.variant = .line a.1 a.2 b.1 b.2) (mark : IsMark name)
    (marked : s.mark name as = .ok t) : ∃ c d : Int × Int, t.variant = .line c.1 c.2 d.1 d.2 ∧
      t.bounds = .spanned c.1 c.2 d.1 d.2 ∧ (name = "moveto" → as.Locates c) ∧ (name ≠ "moveto" → c = a) ∧
      (name = "lineto" → as.Locates d) ∧ (name ≠ "lineto" → d = b) := by
  rcases mark with rfl | rfl
  · simp only [Shape.mark, line] at marked
    obtain ⟨q, read, marked⟩ := except_bind_eq_ok marked
    obtain rfl := Except.ok.inj marked
    have located := Attributes.locates_of_point read
    exact ⟨q, b, by simp [setStart?, line], by simp [setStart?, line], fun _ => located, by simp, by simp, fun _ => rfl⟩
  · simp only [Shape.mark, line] at marked
    obtain ⟨q, read, marked⟩ := except_bind_eq_ok marked
    obtain rfl := Except.ok.inj marked
    have located := Attributes.locates_of_point read
    exact ⟨a, q, by simp [setEnd?, line], by simp [setEnd?, line], by simp, fun _ => rfl, fun _ => located, by simp⟩

theorem trace_line (line : s.variant = .line a.1 a.2 b.1 b.2) (traced : s.trace content = .ok t) :
    ∃ c d : Int × Int, content.marks.Settles "moveto" a c ∧ content.marks.Settles "lineto" b d ∧
      t.variant = .line c.1 c.2 d.1 d.2 ∧ (content.marks ≠ [] → t.bounds = .spanned c.1 c.2 d.1 d.2) := by
  induction content generalizing s a b with
  | empty =>
    obtain rfl := Except.ok.inj traced
    exact ⟨a, b, Marks.settles_nil, Marks.settles_nil, line, by simp [Content.marks]⟩
  | text data rest ih => exact ih line traced
  | element name as inner rest _ ih =>
    by_cases mark : IsMark name
    · obtain ⟨u, marked, traced⟩ := except_bind_eq_ok traced
      obtain ⟨a', b', variant, box, start, sameStart, stop, sameStop⟩ := mark_line line mark marked
      obtain ⟨c, d, first, last, variant', box'⟩ := ih variant traced
      rw [Content.marks, if_pos mark]
      refine ⟨c, d, first.cons start sameStart, last.cons stop sameStop, variant', fun _ => ?_⟩
      by_cases none : rest.marks = []
      · obtain rfl := eq_of_trace none traced
        have ends := variant.symm.trans variant'
        simp only [Variant.line.injEq] at ends
        obtain ⟨x1, y1, x2, y2⟩ := ends
        rw [box, x1, y1, x2, y2]
      · exact box' none
    · rw [trace, mark_of_other mark, except_ok_bind] at traced
      rw [Content.marks, if_neg mark]
      exact ih line traced

end Shape

/-! ## Paths -/

section

variable {setup : Setup} {p : Palette} {as : Attributes} {name : String} {within : Content}
  {inner : Except Fault Figures} {s u : Shape} {parts : Forest} {interior : Interior}

namespace Shape

/-- A polygon with the points that are said inside its element. -/
structure Outlines (g : Shape) (as : Attributes) (marks : Marks) (points : List (Int × Int)) : Prop where
  variant : g.variant = .polygon points
  located : List.Forall₂ (fun mark q => mark.2.Locates q) marks points
  box : points ≠ [] → g.bounds.Smallest points
  bare : points = [] → as.Boxes .zero g.bounds

/-- A line from the last start to the last end that are said inside its element. -/
structure Joins (g : Shape) (as : Attributes) (marks : Marks) (a b : Int × Int) : Prop where
  variant : g.variant = .line a.1 a.2 b.1 b.2
  start : marks.Settles "moveto" (0, 0) a
  stop : marks.Settles "lineto" (10, 10) b
  box : marks ≠ [] → g.bounds.Smallest [a, b] ∧ 0 ≤ g.bounds.width ∧ 0 ≤ g.bounds.height
  bare : marks = [] → as.Boxes ⟨0, 0, 10, 10⟩ g.bounds

end Shape

/-- The shapes of paths are made in one way only. -/
theorem made_of_path (types : setup.types = .builtin) (path : name = "path" ∨ name = "line")
    (made : (setup.role name as).made? = some s) :
    (s.kind = "Polygon" → s = .ofVariant .emptyPolygon) ∧ (s.kind = "Line" → s = TypeTable.newLine) := by
  rcases hinted_or_usual made with hinted | ⟨_, usual⟩
  · obtain ⟨key, member⟩ := mem_of_hinted types hinted
    simp only [TypeTable.builtinEntries, List.mem_cons, List.not_mem_nil, or_false] at member
    rcases member with same | same | same | same | same | same | same | same <;> cases same <;>
      constructor <;> intro kind <;> first | rfl | contradiction
  · obtain rfl : s = .ofVariant .emptyPolygon := by
      rcases path with rfl | rfl <;> exact (Option.some.inj usual).symm
    exact ⟨fun _ => rfl, fun kind => by contradiction⟩

/-- The content of a path is traced. -/
theorem Shape.content_of_path (path : name = "path" ∨ name = "line") (kind : s.kind = "Polygon" ∨ s.kind = "Line")
    (id : ItemId) : ∃ h, (h = .line id ∨ h = .polygon id) ∧ s.content? setup as name id = some h := by
  rcases kind with polygon | line
  · obtain ⟨points, variant⟩ := Stock.kind_polygon polygon
    refine ⟨.polygon id, .inr rfl, ?_⟩
    rcases path with rfl | rfl <;> simp [content?, variant]
  · obtain ⟨x1, y1, x2, y2, variant⟩ := Stock.kind_line line
    refine ⟨.line id, .inl rfl, ?_⟩
    rcases path with rfl | rfl <;> simp [content?, variant]

/-- The shape of a path has the box that attributes say, before its content moves it. -/
theorem traced_of_portrayed (path : name = "path" ∨ name = "line") (role : setup.role name as = .shape s interior)
    (kind : s.kind = "Polygon" ∨ s.kind = "Line")
    (drawn : setup.portray p name as within inner = .ok ⟨.cons u parts .nil, []⟩) :
    ∃ t : Shape, t.variant = s.variant ∧ as.Boxes s.bounds t.bounds ∧ t.trace within = .ok u := by
  obtain ⟨t, finished, closed⟩ := finished_of_portrayed role drawn
  have attributed : s.attributed setup p as = .ok t := by
    rcases path with rfl | rfl <;> exact finished
  obtain ⟨box, said, bounds⟩ := Shape.attributed_box attributed
  refine ⟨t, (Shape.attributed_frame attributed).1.variant, ?_, ?_⟩
  · rw [bounds]
    exact Attributes.boxes_of_box? said s.bounds
  · obtain ⟨h, marks, opens⟩ := @Shape.content_of_path setup as name s path kind ⟨0⟩
    rw [opens] at closed
    rcases marks with rfl | rfl
    · obtain ⟨v, filled, closed⟩ := except_bind_eq_ok closed
      obtain ⟨rfl, _⟩ := Forest.cons.inj (Except.ok.inj closed)
      exact filled
    · obtain ⟨v, filled, closed⟩ := except_bind_eq_ok closed
      obtain ⟨rfl, _⟩ := Forest.cons.inj (Except.ok.inj closed)
      exact filled

theorem outlines_of_portrayed (types : setup.types = .builtin) (path : name = "path" ∨ name = "line")
    (role : setup.role name as = .shape s interior) (kind : s.kind = "Polygon")
    (drawn : setup.portray p name as within inner = .ok ⟨.cons u parts .nil, []⟩) :
    ∃ points, u.Outlines as within.marks points := by
  obtain rfl := (made_of_path types path (by rw [role]; rfl)).1 kind
  obtain ⟨t, variant, boxes, traced⟩ := traced_of_portrayed path role (.inl kind) drawn
  obtain ⟨points, located, polygon, box⟩ := Shape.trace_polygon variant traced
  refine ⟨points, polygon, located, box, fun none => ?_⟩
  have unmarked : within.marks = [] := List.forall₂_nil_right_iff.mp (none ▸ located)
  obtain rfl := Shape.eq_of_trace unmarked traced
  exact boxes

theorem joins_of_portrayed (types : setup.types = .builtin) (path : name = "path" ∨ name = "line")
    (role : setup.role name as = .shape s interior) (kind : s.kind = "Line")
    (drawn : setup.portray p name as within inner = .ok ⟨.cons u parts .nil, []⟩) :
    ∃ a b, u.Joins as within.marks a b := by
  obtain rfl := (made_of_path types path (by rw [role]; rfl)).2 kind
  obtain ⟨t, variant, boxes, traced⟩ := traced_of_portrayed path role (.inr kind) drawn
  obtain ⟨a, b, first, last, ends, box⟩ := @Shape.trace_line _ t u (0, 0) (10, 10) variant traced
  refine ⟨a, b, ends, first, last, fun some => ?_, fun none => ?_⟩
  · rw [box some]
    exact ⟨Bounds.smallest_spanned a b, Bounds.spanned_proper a b⟩
  · obtain rfl := Shape.eq_of_trace none traced
    exact boxes

/-- Paths have no parts. -/
theorem loose_of_isPath {v : Shape} (path : v.loose.isPath = true) : v.loose = v := by
  obtain ⟨bounds, style, name, owner, data, variant⟩ := v
  cases variant with
  | group | edge => simp [Shape.loose, Shape.isPath, Item.isPath] at path
  | _ => rfl

end

/-! ## Points that are refused -/

/-- A point without both coordinates is refused by a line and by a polygon. -/
theorem Shape.mark_of_missing {id : ItemId} {h : Handler} {name : String} {as : Attributes} {s : Shape}
    (traced : s.Traced id h) (mark : IsMark name) (missing : as.value? "x" = none ∨ as.value? "y" = none) :
    s.mark name as = .error (.malformed (.incompletePoint name)) := by
  have refused : point name as = .error (.malformed (.incompletePoint name)) :=
    Attributes.point_of_missing missing
  cases traced with
  | line line => rcases mark with rfl | rfl <;> simp [Shape.mark, line, refused]
  | polygon polygon => rcases mark with rfl | rfl <;> simp [Shape.mark, polygon, refused]

namespace Course

variable {setup : Setup} {p : Palette} {x y : Course} {frame : Frame Handler} {rest : List (Frame Handler)}

/-- Content only changes the innermost frame, whose handler takes the text directly inside. -/
theorem run_content {content : Content} (frames : x.frames = frame :: rest)
    (ran : x.run setup p content.events = .ok y) :
    y.frames = ⟨frame.element, content.ownText.foldl Handler.absorb frame.handler⟩ :: rest := by
  induction content generalizing x y frame rest with
  | empty =>
    obtain rfl := Except.ok.inj ran
    exact frames
  | text data others ih =>
    obtain ⟨z, stepped, ran⟩ := except_bind_eq_ok ran
    simp only [step, frames] at stepped
    obtain rfl := Except.ok.inj stepped
    exact ih rfl ran
  | element name as inner others inside ih =>
    obtain ⟨z, started, ran⟩ := except_bind_eq_ok ran
    rw [run_append] at ran
    obtain ⟨u, within, ran⟩ := except_bind_eq_ok ran
    obtain ⟨w, ended, ran⟩ := except_bind_eq_ok ran
    obtain ⟨_, _, next, l, _, _, rfl⟩ := step_start started
    -- Whatever the element's own handler has become, its frame goes with its end tag.
    have opened : u.frames = ⟨some name, _⟩ :: x.frames := inside rfl within
    obtain ⟨_, below, closed, rfl⟩ := step_finish ended
    obtain ⟨_, rfl⟩ := List.cons.inj (closed.symm.trans opened)
    refine ih ?_ ran
    exact frames

/-- Behind the start tag of a path and some content the path is still traced. -/
theorem traced_of_run {roster : Roster} (agrees : x.Agrees roster)
    (room : roster.levels.head? = some .room) {name : String} {as : Attributes} {s : Shape} {content : Content}
    (path : name = "path" ∨ name = "line") (made : (setup.role name as).made? = some s)
    (kind : s.kind = "Polygon" ∨ s.kind = "Line")
    (ran : x.run setup p (.start name as :: content.events) = .ok y) :
    ∃ id element h, (h = .line id ∨ h = .polygon id) ∧ y.frames = ⟨element, h⟩ :: x.frames := by
  obtain ⟨z, started, ran⟩ := except_bind_eq_ok ran
  obtain ⟨frame, rest, next, l, frames, entered, rfl⟩ := step_start started
  obtain ⟨c, around⟩ := agrees.container room frames
  rw [Stock.enter_of_room around] at entered
  have role := role_of_made made (by rcases path with rfl | rfl <;> decide)
  have opens : next = s.content? setup as name x.stock.next := by
    rcases Stock.take_cases entered with ⟨nothing, _⟩ | ⟨_, relay, _⟩ | ⟨_, _, _, same, _, opens, _⟩
    · exact absurd (role.symm.trans nothing) (by simp)
    · exact absurd (role.symm.trans relay) (by simp)
    · obtain ⟨rfl, _⟩ := Role.shape.inj (role.symm.trans same)
      exact opens
  have reached : y.frames = ⟨some name, content.ownText.foldl Handler.absorb (next.getD .ignore)⟩ :: x.frames :=
    run_content rfl ran
  obtain ⟨h, marks, handler⟩ := @Shape.content_of_path setup as name s path kind x.stock.next
  have still : content.ownText.foldl Handler.absorb h = h := by
    rcases marks with rfl | rfl <;> exact List.foldl_fixed' (fun _ => rfl) _
  rw [opens, handler, Option.getD_some, still] at reached
  exact ⟨x.stock.next, some name, h, marks, reached⟩

end Course

namespace Reader

variable {r after : Reader} {feed : Feed} {diagram : Diagram}

/-- A point directly inside a path that is reached and has not both coordinates is refused. -/
theorem refused_of_missing (types : r.setup.types = .builtin) {before : List Event} {outer name : String}
    {tag as : Attributes} {content : Content} {s : Shape}
    (reaches : r.Reaches feed (before ++ .start outer tag :: content.events) name as)
    (room : (Roster.ofEvents r.setup before).levels.head? = some .room) (path : outer = "path" ∨ outer = "line")
    (made : (r.setup.role outer tag).made? = some s) (kind : s.kind = "Polygon" ∨ s.kind = "Line")
    (mark : IsMark name) (missing : as.value? "x" = none ∨ as.value? "y" = none) :
    r.outcome feed ((before ++ .start outer tag :: content.events) ++ [.start name as]) =
      .error (.malformed (.incompletePoint name)) := by
  obtain ⟨y, ran, seats, steps⟩ := course_of_outcome types reaches.taken (.start name as)
  rw [Course.run_append] at ran
  obtain ⟨x, first, ran⟩ := except_bind_eq_ok ran
  have agrees : x.Agrees (.ofEvents r.setup before) := (course_agrees r feed).run types first
  obtain ⟨id, element, h, marks, frames⟩ := Course.traced_of_run agrees room path made kind ran
  have seat : y.stock.Seats h := seats ⟨element, h⟩ (by simp [frames])
  obtain ⟨t, found, traced⟩ := seat.traced marks
  have refused := Shape.mark_of_missing traced mark missing
  rw [steps]
  rcases marks with rfl | rfl <;> simp [Course.step, frames, Stock.enter, found, refused]

/-- The points of paths. In a document that was read every path has the points that are directly inside its
element: a polygon all of them in order, a line the last start and the last end. Its box is the smallest one around
them, and without any the one that its attributes say, or that it was made with. A point without both coordinates
makes a document malformed when it is reached. -/
theorem parse_points (types : r.setup.types = .builtin) (idle : r.machine.reading = false) :
    (∀ feed diagram after, parse .root feed r = (.ok diagram, after) →
      ∃ before root attributes inner rest, feed.events = document before root attributes inner rest ∧
        ∀ name as within s place, Occurs r.setup name as within inner 0 place → (name = "path" ∨ name = "line") →
          (r.setup.role name as).made? = some s →
          (s.kind = "Polygon" → ∃ g points, after.desk.shape? ⟨place⟩ = some g ∧
            g.Outlines as within.marks points) ∧
          (s.kind = "Line" → ∃ g a b, after.desk.shape? ⟨place⟩ = some g ∧ g.Joins as within.marks a b)) ∧
    ∀ feed before outer tag content name as s,
      r.Reaches feed (before ++ .start outer tag :: Content.events content) name as →
      (Roster.ofEvents r.setup before).levels.head? = some .room → (outer = "path" ∨ outer = "line") →
      (r.setup.role outer tag).made? = some s → (s.kind = "Polygon" ∨ s.kind = "Line") → IsMark name →
      (as.value? "x" = none ∨ as.value? "y" = none) →
      r.outcome feed ((before ++ .start outer tag :: content.events) ++ [.start name as]) =
          .error (.malformed (.incompletePoint name)) ∧
        (parse .root feed r).1 = .error (.malformed (.incompletePoint name)) := by
  constructor
  · intro feed diagram after read
    obtain ⟨before, root, attributes, inner, rest, word, stems⟩ := stems_of_parse types read
    refine ⟨before, root, attributes, inner, rest, word, ?_⟩
    intro name as within s place occurs path made
    have role := role_of_made made (by rcases path with rfl | rfl <;> decide)
    obtain ⟨u, parts, g, drawn, there, rfl, _⟩ := stems.drawn name as within s _ place occurs role
    constructor
    · intro kind
      obtain ⟨points, outlines⟩ := outlines_of_portrayed types path role kind drawn
      rw [loose_of_isPath (by simp [Shape.isPath, Item.isPath, outlines.variant])] at outlines
      exact ⟨g, points, there, outlines⟩
    · intro kind
      obtain ⟨a, b, joins⟩ := joins_of_portrayed types path role kind drawn
      rw [loose_of_isPath (by simp [Shape.isPath, Item.isPath, joins.variant])] at joins
      exact ⟨g, a, b, there, joins⟩
  · intro feed before outer tag content name as s reaches room path made kind mark missing
    have refused := refused_of_missing types reaches room path made kind mark missing
    exact ⟨refused, reaches.parse_refused idle refused⟩

/-- A polygon with two points and a line with one, both with a place of their own. -/
def strokes : Content :=
  .element "path" [("x", "90")]
    (.element "moveto" [("x", "3"), ("y", "-4")] .empty (.text "and" (.element "curve" []
      (.element "lineto" [] .empty .empty) (.element "lineto" [("x", "-1"), ("y", "7")] .empty .empty))))
    (.element "line" [("description", "line"), ("x", "5")]
      (.element "lineto" [("x", "2"), ("y", "1")] .empty .empty) .empty)

theorem parse_points_of_strokes :
    let r : Reader := ⟨.plain, ⟨[], false, Desk.fresh .builtin⟩⟩
    let broken : Content := .element "path" [] (.text "" (.element "moveto" [("x", "1")] .empty .empty)) .empty
    (∃ diagram after g h points a b, parse .root (.ofEvents (document [] "pgml" [] strokes [])) r =
        (.ok diagram, after) ∧
      after.desk.shape? ⟨0⟩ = some g ∧ g.bounds = ⟨-1, -4, 4, 11⟩ ∧
      g.Outlines [("x", "90")] [("moveto", [("x", "3"), ("y", "-4")]), ("lineto", [("x", "-1"), ("y", "7")])] points ∧
      after.desk.shape? ⟨1⟩ = some h ∧ h.bounds = ⟨0, 0, 2, 1⟩ ∧
      h.Joins [("description", "line"), ("x", "5")] [("lineto", [("x", "2"), ("y", "1")])] a b) ∧
    (parse .root (.ofEvents (document [] "pgml" [] broken [])) r).1 =
      .error (.malformed (.incompletePoint "moveto")) := by
  intro r broken
  obtain ⟨paths, refused⟩ := @parse_points r rfl rfl
  constructor
  · have boxes : (((parse .root (.ofEvents (document [] "pgml" [] strokes [])) r).2.desk.shape? ⟨0⟩).map (·.bounds),
        ((parse .root (.ofEvents (document [] "pgml" [] strokes [])) r).2.desk.shape? ⟨1⟩).map (·.bounds)) =
        (some ⟨-1, -4, 4, 11⟩, some ⟨0, 0, 2, 1⟩) := by
      decide +kernel
    obtain ⟨diagram, after, ran⟩ := @exists_of_isOk r (.ofEvents (document [] "pgml" [] strokes [])) (by decide +kernel)
    obtain ⟨_, _, _, inner, _, word, drawn⟩ := paths _ _ _ ran
    obtain rfl := document_inj word
    obtain ⟨g, points, there, outlines⟩ :=
      (drawn _ _ _ (.ofVariant .emptyPolygon) 0 (.here _ _) (.inl rfl) rfl).1 rfl
    obtain ⟨h, a, b, here, joins⟩ :=
      (drawn "line" [("description", "line"), ("x", "5")] _ TypeTable.newLine 1 (.after _ _ (.here _ _)) (.inr rfl)
        (by decide +kernel)).2 rfl
    rw [ran] at boxes
    simp only [there, here, Option.map_some, Prod.mk.injEq, Option.some.injEq] at boxes
    exact ⟨diagram, after, g, h, points, a, b, ran, there, boxes.1, outlines, here, boxes.2, joins⟩
  · exact (refused _ [.start "pgml" []] "path" [] (.text "" .empty) "moveto" [("x", "1")] (.ofVariant .emptyPolygon)
      ⟨⟨_, rfl⟩, by decide +kernel⟩ rfl (.inl rfl) rfl (.inl rfl) (.inl rfl) (.inr rfl)).2

end Reader

end Pgml
