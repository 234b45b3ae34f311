import Pgml.Proofs.ArrivingObjects
import Pgml.Proofs.ContentReading

/-! The course of a reading: the frames of the open elements and the stock, event by event. What a machine does
with an event is what the course does with it, to the answer and to the fault. Every open element has a handler
whose shape is in the stock, so no handler asks for a shape that is not there, for a box of no points or for an
ability that a shape lacks. -/
namespace Pgml

open Desk Vocabulary Machine
open Work (Ends)

/-! ## Handlers and their shapes -/

namespace Stock

/-- The handlers that documents of built-in types are in the hands of, with their shapes. -/
def Seats (k : Stock) : Handler → Prop
  | .root | .ignore | .diagram => True
  | .group id _ => k.Has id "Group"
  | .edge id => k.Has id "Edge"
  | .text id _ => k.Has id "Text"
  | .line id => k.Has id "Line"
  | .polygon id => k.Has id "Polygon"
  | .wrapper c _ => k.Fits c
  | _ => False

variable {k l : Stock} {h : Handler}

theorem Grown.seats (grown : k.Grown l) (seats : k.Seats h) : l.Seats h := by
  cases h with
  | root | ignore | diagram => trivial
  | group id | edge id | text id | line id | polygon id => exact grown.has id _ seats
  | wrapper c => exact grown.fits c seats
  | anyRoot | noRoot | nestedReading | flat | popping => exact seats.elim

theorem Seats.calm (seats : k.Seats h) : h ≠ .popping := by
  rintro rfl
  exact seats

theorem Seats.absorb (seats : k.Seats h) (text : String) : k.Seats (h.absorb text) := by
  cases h <;> exact seats

/-- The handler of a shape's content has the shape. -/
theorem seats_of_opens {s : Shape} {id : ItemId} {next : Option Handler} {interior : Interior}
    (fresh : s.Fresh) (has : k.Has id s.kind) (opens : s.Opens id next interior) :
    ∀ child, next = some child → k.Seats child := by
  rintro child rfl
  unfold Shape.kind at has
  cases opens with
  | text variant | line variant | polygon variant | edge variant =>
    rw [variant] at has
    exact has
  | @group children plan derive variant =>
    obtain rfl := fresh.undispatched children plan variant
    rw [variant] at has
    exact has

theorem kind_line {v : Variant} (kind : v.kind = "Line") : ∃ x1 y1 x2 y2, v = .line x1 y1 x2 y2 := by
  cases v with
  | line x1 y1 x2 y2 => exact ⟨x1, y1, x2, y2, rfl⟩
  | group children plan => cases plan <;> simp [Variant.kind] at kind
  | _ => simp [Variant.kind] at kind

theorem kind_polygon {v : Variant} (kind : v.kind = "Polygon") : ∃ points, v = .polygon points := by
  cases v with
  | polygon points => exact ⟨points, rfl⟩
  | group children plan => cases plan <;> simp [Variant.kind] at kind
  | _ => simp [Variant.kind] at kind

/-- A line or a polygon is there for the handler that marks it. -/
theorem Seats.traced {id : ItemId} (seats : k.Seats h) (marks : h = .line id ∨ h = .polygon id) :
    ∃ s, k.shapes[id.index]? = some s ∧ s.Traced id h := by
  rcases marks with rfl | rfl
  · obtain ⟨s, found, kind⟩ := has_iff.mp seats
    obtain ⟨x1, y1, x2, y2, variant⟩ := kind_line kind
    exact ⟨s, found, .line variant⟩
  · obtain ⟨s, found, kind⟩ := has_iff.mp seats
    obtain ⟨points, variant⟩ := kind_polygon kind
    exact ⟨s, found, .polygon variant⟩

end Stock

/-! ## Tags -/

namespace Handler

/-- Where the elements in the hands of a handler stand. -/
def level : Handler → Level
  | .root => .outside
  | .diagram | .group .. | .edge _ | .wrapper .. => .room
  | _ => .closed

theorem level_absorb (h : Handler) (text : String) : (h.absorb text).level = h.level := by
  cases h <;> rfl

theorem level_of_room {h : Handler} {c : Container} (room : h.room? = some c) : h.level = .room := by
  cases h with
  | diagram | group | edge | wrapper => rfl
  | _ => contradiction

theorem room_of_level {h : Handler} (room : h.level = .room) : ∃ c, h.room? = some c := by
  cases h with
  | diagram | group | edge | wrapper => exact ⟨_, rfl⟩
  | _ => contradiction

end Handler

namespace Stock

variable (setup : Setup) (p : Palette) (k : Stock)

/-- The content's handler and the stock after the start tag of an element in a container. -/
def take (c : Container) (name : String) (as : Attributes) : Except Fault (Option Handler × Stock) :=
  match setup.role name as with
  | .nothing => do
    if name = "rectangle" then
      let _ ← as.int "rounding" (-1)
    return (none, k)
  | .relay lost => return (some (.wrapper c ""), lost.elim k k.make)
  | .shape s _ => do
    let t ← s.finish setup p as name
    return (s.content? setup as name k.next, k.receive c as t)

/-- The same for any element, by the handler that it is in the hands of. -/
def enter (h : Handler) (name : String) (as : Attributes) : Except Fault (Option Handler × Stock) :=
  match h with
  | .root => do return (some .diagram, ← k.rooted setup name as)
  | .diagram => k.take setup p .diagram name as
  | .group id _ => k.take setup p (.group id) name as
  | .edge id => k.take setup p (.edge id) name as
  | .wrapper c _ => k.take setup p c name as
  | .line id | .polygon id =>
    match k.shapes[id.index]? with
    | some s => do
      let t ← s.mark name as
      return (none, k.modify id fun _ => t)
    | none => return (none, k)
  | _ => return (none, k)

/-- The stock after the end tag of an element whose content was in the hands of a handler. -/
def leave : Handler → Stock
  | .group id true => k.derive id
  | .text id buffer => k.modify id (setContent (textContent buffer))
  | .wrapper c buffer => k.deliver (PrivateData.parse buffer) c
  | _ => k

/-- The roll after a start tag, whether the element can be read or not. -/
def attend (h : Handler) (name : String) (as : Attributes) : Roll :=
  if h.level = .room then (setup.arrivals name as).foldl Roll.register k.roll else k.roll

end Stock

section

variable {setup : Setup} {p : Palette} {k l : Stock} {as : Attributes} {name : String} {h : Handler}
  {next : Option Handler} {blame : Fault → Desk → Prop}

theorem Stock.take_cases {c : Container} (took : k.take setup p c name as = .ok (next, l)) :
    (setup.role name as = .nothing ∧ next = none ∧ l = k) ∨
    (∃ lost, setup.role name as = .relay lost ∧ next = some (.wrapper c "") ∧ l = lost.elim k k.make) ∨
    ∃ s interior t, setup.role name as = .shape s interior ∧ s.finish setup p as name = .ok t ∧
      next = s.content? setup as name k.next ∧ l = k.receive c as t := by
  unfold take at took
  cases role : setup.role name as with
  | nothing =>
    rw [role] at took
    obtain ⟨rfl, rfl⟩ : none = next ∧ k = l := by
      dsimp only at took
      split at took
      · obtain ⟨_, _, took⟩ := except_bind_eq_ok took
        exact Prod.mk.inj (Except.ok.inj took)
      · exact Prod.mk.inj (Except.ok.inj took)
    exact .inl ⟨rfl, rfl, rfl⟩
  | relay lost =>
    rw [role] at took
    obtain ⟨rfl, rfl⟩ := Prod.mk.inj (Except.ok.inj took)
    exact .inr (.inl ⟨lost, rfl, rfl, rfl⟩)
  | shape s interior =>
    rw [role] at took
    obtain ⟨t, finished, took⟩ := except_bind_eq_ok took
    obtain ⟨rfl, rfl⟩ := Prod.mk.inj (Except.ok.inj took)
    exact .inr (.inr ⟨s, interior, t, rfl, finished, rfl, rfl⟩)

theorem Stock.take_grown (types : setup.types = .builtin) {c : Container} (fits : k.Fits c) (sound : k.Sound)
    (took : k.take setup p c name as = .ok (next, l)) :
    k.Grown l ∧ ∀ child, next = some child → l.Seats child := by
  rcases take_cases took with ⟨_, rfl, rfl⟩ | ⟨lost, role, rfl, rfl⟩ |
    ⟨s, interior, t, role, finished, rfl, rfl⟩
  · exact ⟨.refl sound, by simp⟩
  · have grown := grown_lost types role sound
    refine ⟨grown, ?_⟩
    rintro child ⟨⟩
    exact grown.fits c fits
  · have kin := (Shape.finish_kin finished).1
    have fresh := (fresh_of_role types role).1
    refine ⟨grown_receive types role kin sound c, ?_⟩
    exact seats_of_opens fresh (has_receive kin rfl) (content_opens setup as name k.next s)

/-- The roll after an element in a room tells what arrived. -/
theorem Stock.take_roll (types : setup.types = .builtin) {c : Container}
    (took : k.take setup p c name as = .ok (next, l)) :
    l.roll = (setup.arrivals name as).foldl Roll.register k.roll := by
  unfold Setup.arrivals
  rcases take_cases took with ⟨role, rfl, rfl⟩ | ⟨lost, role, rfl, rfl⟩ |
    ⟨s, interior, t, role, finished, rfl, rfl⟩
  · rw [role]
    rfl
  · rw [role]
    cases lost with
    | none => rfl
    | some s => exact roll_make (fresh_of_lost types role).plain.name
  · obtain ⟨kin, named⟩ := Shape.finish_kin finished
    have nameless : s.name = none := (fresh_of_role types role).1.plain.name
    have kind : t.kind = s.kind := kin.variant.kind
    rw [role, roll_receive (by simpa [nameless] using named), kind]
    simp [Roll.register, Arrival.name?, given_of_finish finished]

/-- An element in a container does to a desk what it does to the stock, and fails with it. -/
theorem dispatch_takes (types : setup.types = .builtin) {c : Container} (fits : k.Fits c) (name : String)
    (as : Attributes) :
    Ends (fun m : Machine Handler Desk => Holds p k m.work)
      (fun e m => k.take setup p c name as = .error e ∧
        m.work.roll = (setup.arrivals name as).foldl Roll.register k.roll)
      (onWork (dispatch setup c name as))
      fun next m => ∃ l, k.take setup p c name as = .ok (next, l) ∧ Holds p l m.work := by
  refine ((ends_onWork (dispatch_ends fits types name)).mono fun next m done => ?_).excuse
    fun e m stopped => ?_
  · unfold Dispatches at done
    unfold Stock.take
    cases role : setup.role name as with
    | nothing =>
      rw [role] at done
      obtain ⟨⟨rfl, other⟩, holds⟩ := done
      exact ⟨k, by simp [other], holds⟩
    | relay lost =>
      rw [role] at done
      obtain ⟨rfl, holds⟩ := done
      exact ⟨_, rfl, holds⟩
    | shape s interior =>
      rw [role] at done
      obtain ⟨rfl, t, finished, holds⟩ := done
      exact ⟨_, by simp [finished], holds⟩
  · unfold Stops at stopped
    unfold Stock.take Setup.arrivals
    cases role : setup.role name as with
    | nothing =>
      rw [role] at stopped
      obtain ⟨⟨rfl, failed⟩, still⟩ := stopped
      exact ⟨by simp [failed], still⟩
    | relay lost =>
      rw [role] at stopped
      exact stopped.elim
    | shape s interior =>
      rw [role] at stopped
      obtain ⟨failed, entered⟩ := stopped
      exact ⟨by simp [failed], entered⟩

theorem Stock.enter_of_room {c : Container} (room : h.room? = some c) :
    k.enter setup p h name as = k.take setup p c name as := by
  cases h with
  | diagram | group | edge | wrapper =>
    obtain rfl := Option.some.inj room
    rfl
  | _ => contradiction

/-- A start tag opens a diagram, or it belongs to an element in a container, or it has no room for shapes
around it and changes nothing that shows. -/
theorem Stock.enter_cases (entered : k.enter setup p h name as = .ok (next, l)) :
    (h = .root ∧ next = some .diagram ∧ ∃ g, l = k.crown g) ∨
    (∃ c, h.room? = some c ∧ k.take setup p c name as = .ok (next, l)) ∨
    h.level = .closed ∧ next = none ∧ l.skeleton = k.skeleton ∧ l.names = k.names ∧
      l.diagram = k.diagram := by
  have marks (id : ItemId) (closed : h.level = .closed)
      (entered : k.enter setup p (.line id) name as = .ok (next, l)) :
      h.level = .closed ∧ next = none ∧ l.skeleton = k.skeleton ∧ l.names = k.names ∧
        l.diagram = k.diagram := by
    dsimp only [enter] at entered
    split at entered
    next s found =>
      obtain ⟨t, marked, entered⟩ := except_bind_eq_ok entered
      obtain ⟨rfl, rfl⟩ := Prod.mk.inj (Except.ok.inj entered)
      refine ⟨closed, rfl, skeleton_modify_at fun u there => ?_, rfl, rfl⟩
      obtain rfl : s = u := Option.some.inj (found.symm.trans there)
      exact (Shape.mark_tuned marked).same
    · obtain ⟨rfl, rfl⟩ := Prod.mk.inj (Except.ok.inj entered)
      exact ⟨closed, rfl, rfl, rfl, rfl⟩
  cases h with
  | root =>
    obtain ⟨l, rooted, entered⟩ := except_bind_eq_ok entered
    obtain ⟨rfl, rfl⟩ := Prod.mk.inj (Except.ok.inj entered)
    obtain ⟨_, g, _, rfl⟩ := rooted_eq_ok rooted
    exact .inl ⟨rfl, rfl, g, rfl⟩
  | diagram | group | edge | wrapper => exact .inr (.inl ⟨_, rfl, entered⟩)
  | line id | polygon id => exact .inr (.inr (marks id rfl entered))
  | _ =>
    obtain ⟨rfl, rfl⟩ := Prod.mk.inj (Except.ok.inj entered)
    exact .inr (.inr ⟨rfl, rfl, rfl, rfl, rfl⟩)

theorem Stock.Seats.fits {c : Container} (seats : k.Seats h) (room : h.room? = some c) : k.Fits c := by
  cases h with
  | diagram | group | edge | wrapper =>
    obtain rfl := Option.some.inj room
    exact seats
  | _ => contradiction

theorem Stock.enter_grown (types : setup.types = .builtin) (sound : k.Sound) (seats : k.Seats h)
    (entered : k.enter setup p h name as = .ok (next, l)) :
    k.Grown l ∧ ∀ child, next = some child → l.Seats child := by
  rcases enter_cases entered with ⟨_, rfl, g, rfl⟩ | ⟨c, room, took⟩ | ⟨_, rfl, same, _, set⟩
  · refine ⟨⟨sound, fun _ _ has => has, fun _ => rfl⟩, ?_⟩
    rintro child ⟨⟩
    trivial
  · exact take_grown types (seats.fits room) sound took
  · exact ⟨.same sound same (congrArg Option.isSome set), by simp⟩

/-- An end tag changes nothing that shows. -/
theorem Stock.leave_skeleton (h : Handler) : (k.leave h).skeleton = k.skeleton := by
  unfold leave
  split
  · exact skeleton_derive _
  · exact skeleton_modify _ (setContent_same _)
  · exact skeleton_deliver _ _
  · rfl

theorem Stock.leave_grown (sound : k.Sound) (h : Handler) : k.Grown (k.leave h) := by
  refine .same sound (leave_skeleton h) ?_
  unfold leave
  split
  · rfl
  · rfl
  · exact set_deliver _ _
  · rfl

/-- A start tag in the hands of a handler does to a desk what it does to the stock, and fails with it. -/
theorem startElement_enters (types : setup.types = .builtin) (seats : k.Seats h) (name : String)
    (as : Attributes) :
    Ends (fun m => Holds p k m.work)
      (fun e m => k.enter setup p h name as = .error e ∧ m.work.roll = k.attend setup h name as)
      ((Handler.behaviour setup).startElement h name as)
      fun next m => ∃ l, k.enter setup p h name as = .ok (next, l) ∧ Holds p l m.work := by
  have marks (id : ItemId) (marks : h = .line id ∨ h = .polygon id) :
      Ends (fun m => Holds p k m.work)
        (fun e m => k.enter setup p h name as = .error e ∧ m.work.roll = k.attend setup h name as)
        ((Handler.behaviour setup).startElement h name as)
        fun next m => ∃ l, k.enter setup p h name as = .ok (next, l) ∧ Holds p l m.work := by
    obtain ⟨s, found, traced⟩ := seats.traced marks
    have entering : k.enter setup p h name as = (do
        let t ← s.mark name as
        return (none, k.modify id fun _ => t)) := by
      rcases marks with rfl | rfl <;> simp [Stock.enter, found]
    have still : k.attend setup h name as = k.roll := by rcases marks with rfl | rfl <;> rfl
    rw [entering, still]
    let refused (e : Fault) (d : Desk) : Prop := s.mark name as = .error e ∧ Holds p k d
    have traces : Ends (fun m => Holds p k m.work) (fun e m => refused e m.work)
        ((Handler.behaviour setup).startElement h name as) _ :=
      startElement_traced traced found fun e d failed holds => ⟨failed, holds⟩
    refine (traces.mono fun next m marked => ?_).excuse fun e m refused => ?_
    · obtain ⟨rfl, t, mark, holds⟩ := marked
      exact ⟨_, by simp [mark], holds⟩
    · obtain ⟨failed, holds⟩ := refused
      exact ⟨by simp [failed], holds.roll⟩
  cases h with
  | root =>
    refine ((startElement_opens setup name as).mono fun next m opened => ?_).excuse fun e m refused => ?_
    · obtain ⟨rfl, l, rooted, holds⟩ := opened
      exact ⟨l, by simp [Stock.enter, rooted], holds⟩
    · obtain ⟨failed, holds⟩ := refused
      exact ⟨by simp [Stock.enter, failed], holds.roll⟩
  | diagram | group | edge | wrapper => exact dispatch_takes types (seats.fits rfl) name as
  | line id => exact marks id (.inl rfl)
  | polygon id => exact marks id (.inr rfl)
  | ignore | text => exact .pure fun m holds => ⟨k, rfl, holds⟩
  | anyRoot | noRoot | nestedReading | flat | popping => exact seats.elim

/-- So does an end tag, which never fails. -/
theorem endElement_leaves (sound : k.Sound) (seats : k.Seats h) (name : String) :
    Ends (fun m => Holds p k m.work) (fun e m => blame e m.work) ((Handler.behaviour setup).endElement h name)
      fun _ m => Holds p (k.leave h) m.work := by
  have nothing : Ends (fun m : Machine Handler Desk => Holds p k m.work) (fun e m => blame e m.work) (pure ())
      fun _ m => Holds p k m.work := .pure fun m holds => holds
  cases h with
  | group id derive =>
    cases derive with
    | false => exact nothing
    | true => exact ends_onWork (calcBounds_ends seats sound)
  | text id buffer => exact ends_onWork (updateShape_ends (Stock.has_bound seats) _)
  | wrapper c buffer => exact ends_onWork (endWrapper_ends seats buffer)
  | root | ignore | diagram | edge | line | polygon => exact nothing
  | anyRoot | noRoot | nestedReading | flat | popping => exact seats.elim

end

/-! ## Events -/

/-- The frames of the open elements, the innermost first, and the stock. -/
structure Course where
  frames : List (Frame Handler)
  stock : Stock

namespace Course

section

variable (setup : Setup) (p : Palette)

def step (x : Course) : Event → Except Fault Course
  | .start name as =>
    match x.frames with
    | [] => .error (.malformed (.afterEnd name))
    | frame :: _ => do
      let (next, l) ← x.stock.enter setup p frame.handler name as
      return ⟨⟨some name, next.getD .ignore⟩ :: x.frames, l⟩
  | .characters text =>
    match x.frames with
    | [] => return x
    | frame :: rest => return ⟨⟨frame.element, frame.handler.absorb text⟩ :: rest, x.stock⟩
  | .finish name =>
    match x.frames with
    | [] | [_] => .error (.malformed (.unexpectedEnd name))
    | frame :: below :: rest =>
      if frame.element = some name then return ⟨below :: rest, x.stock.leave frame.handler⟩
      else .error (.malformed (.crossed frame.element name))
  | .alien => .error .noEvent

def run (x : Course) : List Event → Except Fault Course
  | [] => return x
  | event :: rest => do
    let y ← x.step setup p event
    y.run rest

/-- The roll after an event, whether it can be read or not. -/
def attend (x : Course) : Event → Roll
  | .start name as =>
    match x.frames with
    | [] => x.stock.roll
    | frame :: _ => x.stock.attend setup frame.handler name as
  | _ => x.stock.roll

end

/-- A machine that is on a course: all open elements have handlers with their shapes. -/
structure Leads (p : Palette) (x : Course) (m : Machine Handler Desk) : Prop where
  reading : m.reading = true
  frames : m.frames = x.frames
  seats : ∀ frame ∈ x.frames, x.stock.Seats frame.handler
  sound : x.stock.Sound
  holds : Holds p x.stock m.work

variable {setup : Setup} {p : Palette} {x y : Course} {m : Machine Handler Desk} {e : Fault}

theorem run_append (es fs : List Event) :
    x.run setup p (es ++ fs) = (do
      let y ← x.run setup p es
      y.run setup p fs) := by
  induction es generalizing x with
  | nil => rfl
  | cons event rest ih =>
    cases first : x.step setup p event with
    | error e => simp [run, first]
    | ok y => simpa [run, first] using ih

theorem run_eq_error {es : List Event} {e : Fault} : x.run setup p es = .error e ↔
    ∃ before event after y, es = before ++ event :: after ∧ x.run setup p before = .ok y ∧
      y.step setup p event = .error e := by
  constructor
  · intro failed
    induction es generalizing x with
    | nil => contradiction
    | cons event rest ih =>
      rcases except_bind_eq_error failed with failed | ⟨y, stepped, failed⟩
      · exact ⟨[], event, rest, x, rfl, rfl, failed⟩
      · obtain ⟨before, other, after, z, rfl, ran, failed⟩ := ih failed
        exact ⟨event :: before, other, after, z, rfl, by simp [run, stepped, ran], failed⟩
  · rintro ⟨before, event, after, y, rfl, ran, failed⟩
    simp [run_append, ran, run, failed]

theorem step_start {name : String} {as : Attributes} (stepped : x.step setup p (.start name as) = .ok y) :
    ∃ frame rest next l, x.frames = frame :: rest ∧
      x.stock.enter setup p frame.handler name as = .ok (next, l) ∧
      y = ⟨⟨some name, next.getD .ignore⟩ :: x.frames, l⟩ := by
  cases frames : x.frames with
  | nil => simp [step, frames] at stepped
  | cons frame rest =>
    simp only [step, frames] at stepped
    obtain ⟨⟨next, l⟩, entered, stepped⟩ := except_bind_eq_ok stepped
    exact ⟨frame, rest, next, l, rfl, entered, (Except.ok.inj stepped).symm⟩

theorem step_characters {text : String} (stepped : x.step setup p (.characters text) = .ok y) :
    y.stock = x.stock ∧ y.frames.map (·.handler.level) = x.frames.map (·.handler.level) := by
  cases frames : x.frames with
  | nil =>
    simp only [step, frames] at stepped
    obtain rfl := Except.ok.inj stepped
    exact ⟨rfl, by rw [frames]⟩
  | cons frame rest =>
    simp only [step, frames] at stepped
    obtain rfl := Except.ok.inj stepped
    exact ⟨rfl, by simp [Handler.level_absorb]⟩

theorem step_finish {name : String} (stepped : x.step setup p (.finish name) = .ok y) :
    ∃ frame rest, x.frames = frame :: rest ∧ y = ⟨rest, x.stock.leave frame.handler⟩ := by
  match frames : x.frames with
  | [] | [_] => simp [step, frames] at stepped
  | frame :: below :: rest =>
    simp only [step, frames] at stepped
    split at stepped
    · exact ⟨frame, below :: rest, rfl, (Except.ok.inj stepped).symm⟩
    · contradiction

/-- Frames whose handlers have their shapes keep them while the stock grows. -/
theorem Leads.moved (leads : x.Leads p m) {y : Course} {t : Machine Handler Desk}
    (frames : ∀ frame ∈ y.frames, frame ∈ x.frames ∨ y.stock.Seats frame.handler) (reading : t.reading = true)
    (same : t.frames = y.frames) (grown : x.stock.Grown y.stock) (holds : Holds p y.stock t.work) :
    y.Leads p t where
  reading := reading
  frames := same
  seats frame member := by
    rcases frames frame member with old | new
    · exact grown.seats (leads.seats frame old)
    · exact new
  sound := grown.sound
  holds := holds

theorem start_follows (types : setup.types = .builtin) (name : String) (as : Attributes) :
    Ends (x.Leads p) (fun e m => x.step setup p (.start name as) = .error e ∧
        m.work.roll = x.attend setup (.start name as))
      ((Handler.behaviour setup).dispatch (.start name as))
      fun _ m => ∃ y, x.step setup p (.start name as) = .ok y ∧ y.Leads p m := by
  intro m leads
  cases frames : x.frames with
  | nil =>
    have none : m.frames = [] := leads.frames.trans frames
    simp only [Behaviour.dispatch, Behaviour.handleStart, Work.bind_apply, Work.current_apply, none]
    exact ⟨by simp [step, frames], by simp [attend, frames, leads.holds.roll]⟩
  | cons frame rest =>
    have top : m.frames = frame :: rest := leads.frames.trans frames
    have seat := leads.seats frame (by simp [frames])
    have started := startElement_enters (p := p) types seat name as
    rw [Behaviour.dispatch_start top, Work.bind_apply]
    rcases ran : (Handler.behaviour setup).startElement frame.handler name as m with ⟨e | next, t⟩
    · obtain ⟨failed, roll⟩ := started.fault leads.holds ran
      exact ⟨by simp [step, frames, failed], by simp [attend, frames, roll]⟩
    · obtain ⟨l, entered, holds⟩ := started.ensures m next t leads.holds ran
      obtain ⟨grown, seats⟩ := Stock.enter_grown types leads.sound seat entered
      have leaves := (Handler.leavesFrames setup).startElement _ name as seat.calm
      obtain ⟨same, reading, _⟩ := leaves.of_eq leads.reading ran
      let y : Course := ⟨⟨some name, next.getD .ignore⟩ :: x.frames, l⟩
      refine ⟨y, by simp [step, frames, entered, y], ?_⟩
      have pushed := congrArg (⟨some name, next.getD .ignore⟩ :: ·) (same.trans leads.frames)
      refine leads.moved (fun f member => ?_) reading pushed grown holds
      -- The frames below are the old ones; the new one has the answer, or the handler that ignores.
      rcases List.mem_cons.mp member with rfl | old
      · right
        cases next with
        | none => trivial
        | some child => exact seats child rfl
      · exact .inl old

theorem characters_follow (text : String) (blame : Fault → Machine Handler Desk → Prop) :
    Ends (x.Leads p) blame ((Handler.behaviour setup).dispatch (.characters text))
      fun _ m => ∃ y, x.step setup p (.characters text) = .ok y ∧ y.Leads p m := by
  intro m leads
  cases frames : x.frames with
  | nil =>
    have none : m.frames = [] := leads.frames.trans frames
    simp only [Behaviour.dispatch, Behaviour.handleCharacters, Work.bind_apply, Work.current_apply, none]
    exact ⟨x, by simp [step, frames], leads⟩
  | cons frame rest =>
    have top : m.frames = frame :: rest := leads.frames.trans frames
    have seat := leads.seats frame (by simp [frames])
    have nothing : (Handler.behaviour setup).characters frame.handler text = pure () := by
      cases here : frame.handler with
      | popping => exact absurd here seat.calm
      | _ => rfl
    rw [Behaviour.dispatch_characters top, nothing]
    let y : Course := ⟨⟨frame.element, frame.handler.absorb text⟩ :: rest, x.stock⟩
    refine ⟨y, by simp [step, frames, y], ?_⟩
    refine leads.moved (fun f member => ?_) leads.reading rfl (.refl leads.sound) leads.holds
    rcases List.mem_cons.mp member with rfl | old
    · exact .inr (seat.absorb text)
    · exact .inl (frames ▸ List.mem_cons_of_mem _ old)

theorem finish_follows (name : String) :
    Ends (x.Leads p) (fun e m => x.step setup p (.finish name) = .error e ∧ m.work.roll = x.stock.roll)
      ((Handler.behaviour setup).dispatch (.finish name))
      fun _ m => ∃ y, x.step setup p (.finish name) = .ok y ∧ y.Leads p m := by
  intro m leads
  have roll := leads.holds.roll
  match frames : x.frames with
  | [] | [_] =>
    have top := leads.frames.trans frames
    simp only [Behaviour.dispatch, Behaviour.handleFinish, Work.bind_apply, Work.current_apply, top]
    exact ⟨by simp [step, frames], roll⟩
  | frame :: below :: rest =>
    have top := leads.frames.trans frames
    by_cases same : frame.element = some name
    · have seat := leads.seats frame (by simp [frames])
      let never (_ : Fault) (_ : Desk) : Prop := False
      have ended : Ends (fun m => Holds p x.stock m.work) (fun e m => never e m.work)
          ((Handler.behaviour setup).endElement frame.handler name) _ :=
        endElement_leaves leads.sound seat name
      rw [Behaviour.dispatch_finish top same, Work.bind_apply]
      rcases ran : (Handler.behaviour setup).endElement frame.handler name m with ⟨e | _, t⟩
      · exact (ended.fault leads.holds ran).elim
      · have holds := ended.ensures m () t leads.holds ran
        have leaves := (Handler.leavesFrames setup).endElement _ name seat.calm
        obtain ⟨kept, reading, _⟩ := leaves.of_eq leads.reading ran
        simp only [Work.bind_apply, Machine.pop, kept, top]
        let y : Course := ⟨below :: rest, x.stock.leave frame.handler⟩
        refine ⟨y, by simp [step, frames, same, y], ?_⟩
        refine leads.moved (fun f member => .inl ?_) reading rfl (Stock.leave_grown leads.sound _) holds
        rw [frames]
        exact List.mem_cons_of_mem _ member
    · simp only [Behaviour.dispatch, Behaviour.handleFinish, Work.bind_apply, Work.current_apply, top,
        if_neg same]
      exact ⟨by simp [step, frames, same], roll⟩

/-- What an event does to a machine it does to its course. -/
theorem dispatch_follows (types : setup.types = .builtin) (event : Event) :
    Ends (x.Leads p) (fun e m => x.step setup p event = .error e ∧ m.work.roll = x.attend setup event)
      ((Handler.behaviour setup).dispatch event)
      fun _ m => ∃ y, x.step setup p event = .ok y ∧ y.Leads p m := by
  cases event with
  | start name as => exact start_follows types name as
  | characters text => exact characters_follow text _
  | finish name => exact finish_follows name
  | alien => exact .fail fun m leads => ⟨rfl, leads.holds.roll⟩

theorem dispatchAll_follows (types : setup.types = .builtin) (es : List Event) :
    Ends (x.Leads p) (fun e _ => x.run setup p es = .error e) ((Handler.behaviour setup).dispatchAll es)
      fun _ m => ∃ y, x.run setup p es = .ok y ∧ y.Leads p m := by
  induction es generalizing x with
  | nil => exact .pure fun m leads => ⟨x, rfl, leads⟩
  | cons event rest ih =>
    refine ((dispatch_follows types event).excuse fun e m failed => ?_).bind fun _ => ?_
    · simp [run, failed.1]
    · refine .exists_pre fun y => .given fun stepped => ?_
      refine (ih.mono fun _ m followed => ?_).excuse fun e m failed => ?_
      · simpa [run, stepped] using followed
      · simpa [run, stepped] using failed

/-! ### The end of a document -/

/-- With the last event only the frame of the initial handler may be left. -/
def close (x : Course) : Except Fault Diagram :=
  if x.frames.length = 1 then
    match x.stock.diagram with
    | none => .error (.misuse .noDiagram)
    | some g => return g
  else .error (.malformed (.openElements (x.frames.length - 1)))

def finish (x : Course) : Option Fault → Except Fault Diagram
  | some fault => .error fault
  | none => x.close

theorem close_follows :
    Ends (x.Leads p) (fun e m => x.close = .error e ∧ m.work.roll = x.stock.roll) Behaviour.close
      fun g m => x.close = .ok g ∧ Holds p x.stock m.work := by
  intro m leads
  have set : Workspace.diagram m.work = x.stock.diagram := leads.holds.diagram
  by_cases single : x.frames.length = 1
  · obtain ⟨frame, frames⟩ := List.length_eq_one_iff.mp single
    rw [Behaviour.close_bottom (leads.frames.trans frames), set]
    cases diagram : x.stock.diagram with
    | none => exact ⟨by simp [close, single, diagram], leads.holds.roll⟩
    | some g =>
      have noted : Ends (Holds p x.stock) (fun _ _ => True) (note (.readDiagram g.name g.shapes.length))
          fun _ => Holds p x.stock := note_ends rfl
      refine ⟨by simp [close, single, diagram], ?_⟩
      exact noted.ensures m.work () _ leads.holds rfl
  · have depth : m.depth ≠ 1 := by simpa [Machine.depth, leads.frames] using single
    have refused : Behaviour.close m = (.error (.malformed (.openElements (m.depth - 1))), m) := by
      simp [Behaviour.close, Work.bind_apply, depth]
    rw [refused]
    exact ⟨by simp [close, single, Machine.depth, leads.frames], leads.holds.roll⟩

theorem finish_ends (ending : Option Fault) :
    Ends (x.Leads p) (fun e m => x.finish ending = .error e ∧ m.work.roll = x.stock.roll)
      (Behaviour.finish ending) fun g m => x.finish ending = .ok g ∧ Holds p x.stock m.work := by
  cases ending with
  | some fault => exact .fail fun m leads => ⟨rfl, leads.holds.roll⟩
  | none => exact close_follows

end Course

namespace Reader

variable {r after : Reader} {feed : Feed} {result : Except Fault Diagram}

/-- The course of a document, from where a reader opens it. -/
def course (r : Reader) (feed : Feed) : Course := ⟨[⟨none, .root⟩], r.opening feed⟩

theorem course_leads (r : Reader) (feed : Feed) :
    (r.course feed).Leads r.desk.colors.palette (r.machine.opened .root feed) where
  reading := rfl
  frames := rfl
  seats frame member := by
    obtain rfl := List.mem_singleton.mp member
    trivial
  sound := by simp [Stock.Sound, course, opening]
  holds := holds_opening r feed

theorem idle_of_parse {diagram : Diagram} (read : parse .root feed r = (.ok diagram, after)) :
    r.machine.reading = false := by
  cases busy : r.machine.reading with
  | true => simp [parse_busy busy] at read
  | false => rfl

/-- Events can be read exactly if the course of the document goes on to their end. -/
theorem course_reads (types : r.setup.types = .builtin) (es : List Event) :
    ((Handler.behaviour r.setup).dispatchAll es (r.machine.opened .root feed)).1 = .ok () ↔
      ∃ y, (r.course feed).run r.setup r.desk.colors.palette es = .ok y := by
  have followed := Course.dispatchAll_follows types es _ (course_leads r feed)
  rcases ran : (Handler.behaviour r.setup).dispatchAll es (r.machine.opened .root feed) with ⟨e | _, t⟩
  · rw [ran] at followed
    have failed : (r.course feed).run r.setup r.desk.colors.palette es = .error e := followed
    simp [failed]
  · rw [ran] at followed
    obtain ⟨y, reached, _⟩ := followed
    simp [reached]

/-- An idle reader of built-in types answers what the course of the document ends with, and keeps its
stock. -/
theorem parse_follows (types : r.setup.types = .builtin) (idle : r.machine.reading = false)
    (ran : parse .root feed r = (result, after)) :
    (∃ e, result = .error e ∧ (r.course feed).run r.setup r.desk.colors.palette feed.events = .error e) ∨
    ∃ y, (r.course feed).run r.setup r.desk.colors.palette feed.events = .ok y ∧
      result = y.finish feed.ending ∧
        ∀ g, result = .ok g → Holds r.desk.colors.palette y.stock after.desk := by
  replace ran := machine_of_parse ran
  rw [Behaviour.parse_idle idle, Work.bind_apply] at ran
  have read := Course.dispatchAll_follows types feed.events _ (course_leads r feed)
  rcases events : (Handler.behaviour r.setup).dispatchAll feed.events (r.machine.opened .root feed) with
    ⟨e | _, t⟩
  · rw [events] at read ran
    exact .inl ⟨e, (Prod.mk.inj ran).1.symm, read⟩
  · rw [events] at read ran
    obtain ⟨y, followed, leads⟩ := read
    have finished := Course.finish_ends feed.ending t leads
    refine .inr ⟨y, followed, ?_⟩
    dsimp only at ran
    rcases done : Behaviour.finish feed.ending t with ⟨e | g, u⟩
    · rw [done] at finished ran
      obtain rfl := (Prod.mk.inj ran).1
      exact ⟨finished.1.symm, by simp⟩
    · rw [done] at finished ran
      obtain ⟨rfl, closed⟩ := Prod.mk.inj ran
      refine ⟨finished.1.symm, fun _ _ => ?_⟩
      have same : u.work = after.desk := by rw [desk, ← closed]
      exact same ▸ finished.2

end Reader

end Pgml
