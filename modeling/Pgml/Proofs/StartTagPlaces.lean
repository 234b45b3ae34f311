import Pgml.Proofs.ControllerSafety
import Pgml.Proofs.ShapeOrigins
import Pgml.Proofs.RegisteredNames

/-! Where a start tag stands. A start tag that comes in a room of shapes belongs to an element that occurs in the
document's content, and the place of its shape is the number of objects that have arrived before. -/
namespace Pgml

section

variable {setup : Setup} {below : List Level} {arrived : List Arrival}

/-- What an element's start tag does to a roster in a room. -/
theorem Roster.take_start (name : String) (as : Attributes) :
    Roster.take setup ⟨.room :: below, arrived⟩ (.start name as) =
      ⟨setup.inside name as :: .room :: below, arrived ++ setup.arrivals name as⟩ := by
  simp [Roster.take, Roster.enter, Level.enter]

/-- Nothing arrives where nothing makes a shape. -/
theorem Content.foldl_closed (content : Content) :
    content.events.foldl (Roster.take setup) ⟨.closed :: below, arrived⟩ = ⟨.closed :: below, arrived⟩ := by
  induction content generalizing below with
  | empty => rfl
  | text data rest ih => exact ih
  | element name as inner rest inside ih =>
    rw [Content.events, List.foldl_cons, List.foldl_append, List.foldl_cons]
    simp only [Roster.take, Roster.enter, Level.enter, reduceCtorEq, if_false]
    rw [inside]
    exact ih

/-- In a room as many objects arrive as content makes. -/
theorem Content.foldl_room (content : Content) : ∃ new : List Arrival, new.length = setup.tally content ∧
    content.events.foldl (Roster.take setup) ⟨.room :: below, arrived⟩ = ⟨.room :: below, arrived ++ new⟩ := by
  induction content generalizing below arrived with
  | empty => exact ⟨[], rfl, by simp [Content.events]⟩
  | text data rest ih => exact ih
  | element name as inner rest inside ih =>
    have within : ∃ new : List Arrival,
        (setup.arrivals name as ++ new).length = (setup.role name as).tally (setup.tally inner) ∧
        inner.events.foldl (Roster.take setup)
            ⟨setup.inside name as :: .room :: below, arrived ++ setup.arrivals name as⟩ =
          ⟨setup.inside name as :: .room :: below, arrived ++ (setup.arrivals name as ++ new)⟩ := by
      unfold Setup.arrivals Setup.inside
      have room (first : List Arrival) : ∃ new : List Arrival, new.length = setup.tally inner ∧
          inner.events.foldl (Roster.take setup) ⟨.room :: .room :: below, arrived ++ first⟩ =
            ⟨.room :: .room :: below, arrived ++ (first ++ new)⟩ := by
        obtain ⟨new, count, folded⟩ := @inside (.room :: below) (arrived ++ first)
        exact ⟨new, count, by rw [folded, List.append_assoc]⟩
      cases role : setup.role name as with
      | nothing => exact ⟨[], by simp [Role.tally], by simp [Content.foldl_closed]⟩
      | relay lost =>
        obtain ⟨new, count, folded⟩ := room (lost.toList.map fun s => ⟨s, as, false⟩)
        exact ⟨new, by simp [Role.tally, count], folded⟩
      | shape s interior =>
        cases interior with
        | closed => exact ⟨[], by simp [Role.tally], by simp [Content.foldl_closed]⟩
        | group | edge =>
          obtain ⟨new, count, folded⟩ := room [⟨s, as, as.isGiven name⟩]
          exact ⟨new, by simp [Role.tally, count]; omega, folded⟩
    obtain ⟨first, count, folded⟩ := within
    obtain ⟨later, more, rest⟩ := @ih below (arrived ++ (setup.arrivals name as ++ first))
    refine ⟨setup.arrivals name as ++ first ++ later, ?_, ?_⟩
    · rw [List.length_append, count, more, Setup.tally]
    · rw [Content.events, List.foldl_cons, Roster.take_start, List.foldl_append, folded, List.foldl_cons]
      simpa [Roster.take] using rest

variable {pre post : List Event} {name : String} {as : Attributes}

/-- Events up to some place in an element's content, or up to some place behind the element. -/
theorem split_element {other : String} {inner rest : List Event}
    (split : inner ++ .finish name :: rest = pre ++ .start other as :: post) :
    (∃ more, inner = pre ++ .start other as :: more) ∨
      ∃ later, pre = inner ++ .finish name :: later ∧ rest = later ++ .start other as :: post := by
  rcases List.append_eq_append_iff.mp split with ⟨between, rfl, same⟩ | ⟨between, rfl, same⟩
  · cases between with
    | nil => simp at same
    | cons first later =>
      obtain ⟨rfl, rfl⟩ := List.cons.inj same
      exact .inr ⟨later, rfl, rfl⟩
  · cases between with
    | nil => simp at same
    | cons first more =>
      obtain ⟨rfl, rfl⟩ := List.cons.inj same
      exact .inl ⟨more, rfl⟩

/-- No start tag in such content stands in a room. -/
theorem Content.closed_of_start {content : Content} (split : content.events = pre ++ .start name as :: post) :
    (pre.foldl (Roster.take setup) ⟨.closed :: below, arrived⟩).levels.head? = some .closed := by
  induction content generalizing pre post below with
  | empty => simp [Content.events] at split
  | text data rest ih =>
    cases pre with
    | nil => simp [Content.events] at split
    | cons first pre =>
      obtain ⟨rfl, tail⟩ := List.cons.inj split
      change (pre.foldl (Roster.take setup) ⟨.closed :: below, arrived⟩).levels.head? = _
      exact ih tail
  | element other attributes inner rest inside ih =>
    cases pre with
    | nil => rfl
    | cons first pre =>
      obtain ⟨rfl, tail⟩ := List.cons.inj split
      have entered : Roster.take setup ⟨.closed :: below, arrived⟩ (.start other attributes) =
          ⟨.closed :: .closed :: below, arrived⟩ := by simp [Roster.take, Roster.enter, Level.enter]
      rw [List.foldl_cons, entered]
      rcases split_element tail with ⟨more, early⟩ | ⟨later, rfl, behind⟩
      · exact inside early
      · rw [List.foldl_append, Content.foldl_closed, List.foldl_cons]
        exact ih behind

/-- A start tag in a room belongs to an element that occurs in the content. -/
theorem Content.occurs_of_start {content : Content} (split : content.events = pre ++ .start name as :: post)
    (room : (pre.foldl (Roster.take setup) ⟨.room :: below, arrived⟩).levels.head? = some .room) :
    ∃ within, Occurs setup name as within content arrived.length
      (pre.foldl (Roster.take setup) ⟨.room :: below, arrived⟩).arrived.length := by
  induction content generalizing pre post below arrived with
  | empty => simp [Content.events] at split
  | text data rest ih =>
    cases pre with
    | nil => simp [Content.events] at split
    | cons first pre =>
      obtain ⟨rfl, tail⟩ := List.cons.inj split
      obtain ⟨within, occurs⟩ := ih tail room
      exact ⟨within, .text data occurs⟩
  | element other attributes inner rest inside ih =>
    cases pre with
    | nil =>
      obtain ⟨same, _⟩ := List.cons.inj split
      obtain ⟨rfl, rfl⟩ := Event.start.inj same
      exact ⟨inner, .here rest _⟩
    | cons first pre =>
      obtain ⟨rfl, tail⟩ := List.cons.inj split
      rw [List.foldl_cons] at room ⊢
      rcases split_element tail with ⟨more, early⟩ | ⟨later, rfl, behind⟩
      · rw [Roster.take_start] at room ⊢
        unfold Setup.inside Setup.arrivals at room ⊢
        cases role : setup.role other attributes with
        | nothing =>
          rw [role] at room
          simp [Content.closed_of_start early] at room
        | relay lost =>
          rw [role] at room
          obtain ⟨within, occurs⟩ := inside early room
          refine ⟨within, .relay rest role ?_⟩
          simpa using occurs
        | shape s interior =>
          rw [role] at room
          cases interior with
          | closed => simp [Content.closed_of_start early] at room
          | group | edge =>
            obtain ⟨within, occurs⟩ := inside early room
            refine ⟨within, .room rest role (by decide) ?_⟩
            simpa using occurs
      · obtain ⟨new, count, folded⟩ := @Content.foldl_room setup below arrived
          (.element other attributes inner .empty)
        have whole : (Content.element other attributes inner .empty).events ++ later =
            .start other attributes :: (inner.events ++ .finish other :: later) := by simp [Content.events]
        rw [← List.foldl_cons, ← whole, List.foldl_append, folded] at room ⊢
        obtain ⟨within, occurs⟩ := ih behind room
        refine ⟨within, .after other attributes ?_⟩
        simpa [count, Setup.tally] using occurs

/-- A start tag in a room of a document belongs to an element of its content. -/
theorem occurs_of_document {before : List String} {root : String} {attributes : Attributes} {inner : Content}
    {rest : List String} (split : document before root attributes inner rest = pre ++ .start name as :: post)
    (room : (Roster.ofEvents setup pre).levels.head? = some .room) :
    ∃ within, Occurs setup name as within inner 0 (Roster.ofEvents setup pre).arrived.length := by
  unfold Roster.ofEvents at room ⊢
  induction before generalizing pre with
  | nil =>
    cases pre with
    | nil => simp [Roster.start] at room
    | cons first pre =>
      obtain ⟨rfl, tail⟩ := List.cons.inj split
      have entered : Roster.take setup .start (.start root attributes) = ⟨[.room, .outside], []⟩ := rfl
      rw [List.foldl_cons, entered] at room ⊢
      rcases split_element tail with ⟨more, early⟩ | ⟨later, _, behind⟩
      · exact Content.occurs_of_start early room
      · have among : Event.start name as ∈ rest.map Event.characters := by
          rw [behind]
          simp
        obtain ⟨_, _, absurd⟩ := List.mem_map.mp among
        contradiction
  | cons text before ih =>
    cases pre with
    | nil => simp [Roster.start] at room
    | cons first pre =>
      obtain ⟨rfl, tail⟩ := List.cons.inj split
      have found := ih tail room
      exact found

end

/-! ## Start tags that are reached -/

/-- In a room a start tag is refused for what its shape is refused for. -/
theorem Course.step_start_error_iff {setup : Setup} {p : Palette} {x : Course} {r : Roster} {name : String}
    {as : Attributes} {s : Shape} {interior : Interior} {e : Fault} (agrees : x.Agrees r)
    (room : r.levels.head? = some .room) (role : setup.role name as = .shape s interior) :
    x.step setup p (.start name as) = .error e ↔ s.finish setup p as name = .error e := by
  cases frames : x.frames with
  | nil => simp [← agrees.levels, frames] at room
  | cons frame rest =>
    obtain ⟨c, around⟩ := agrees.container room frames
    simp only [step, frames, Stock.enter_of_room around, Stock.take, role]
    cases s.finish setup p as name <;> simp

namespace Reader

variable {r : Reader} {feed : Feed} {es : List Event} {e : Fault}

/-- How events from the beginning of a document come out. -/
def outcome (r : Reader) (feed : Feed) (es : List Event) : Except Fault Unit :=
  ((Handler.behaviour r.setup).dispatchAll es (r.machine.opened .root feed)).1

theorem exists_of_isOk (fine : (parse .root feed r).1.isOk = true) :
    ∃ diagram after, parse .root feed r = (.ok diagram, after) := by
  rcases ran : parse .root feed r with ⟨_ | diagram, after⟩
  · simp [ran, Except.isOk, Except.toBool] at fine
  · exact ⟨diagram, after, rfl⟩

/-- A start tag of a document, with the events before it taken. -/
structure Reaches (r : Reader) (feed : Feed) (before : List Event) (name : String) (as : Attributes) : Prop where
  split : ∃ later, feed.events = before ++ .start name as :: later
  taken : r.outcome feed before = .ok ()

theorem outcome_error_iff (types : r.setup.types = .builtin) :
    r.outcome feed es = .error e ↔ (r.course feed).run r.setup r.desk.colors.palette es = .error e := by
  have followed := Course.dispatchAll_follows types es _ (course_leads r feed)
  unfold outcome
  rcases ran : (Handler.behaviour r.setup).dispatchAll es (r.machine.opened .root feed) with ⟨other | _, t⟩
  · rw [ran] at followed
    have failed : (r.course feed).run r.setup r.desk.colors.palette es = .error other := followed
    simp [failed]
  · rw [ran] at followed
    obtain ⟨y, reached, _⟩ := followed
    simp [reached]

/-- What the events up to some place are refused for, the document is refused for. -/
theorem parse_of_outcome (idle : r.machine.reading = false) {after : List Event} (split : feed.events = es ++ after)
    (refused : r.outcome feed es = .error e) : (parse .root feed r).1 = .error e := by
  have failed : ((Handler.behaviour r.setup).dispatchAll feed.events (r.machine.opened .root feed)).1 =
      .error e := by
    rw [split, Behaviour.dispatchAll_append, Work.bind_error_iff]
    exact .inl refused
  change ((Handler.behaviour r.setup).parse .root feed r.machine).1 = .error e
  rw [Behaviour.parse_idle idle, Behaviour.fst_leave, Work.bind_error_iff]
  exact .inl failed

/-- Behind events that were taken the next one is refused as it is by their course. -/
theorem course_of_outcome (types : r.setup.types = .builtin) (taken : r.outcome feed es = .ok ())
    (event : Event) : ∃ x : Course, (r.course feed).run r.setup r.desk.colors.palette es = .ok x ∧
      (∀ frame ∈ x.frames, x.stock.Seats frame.handler) ∧
      ∀ e, r.outcome feed (es ++ [event]) = .error e ↔
        x.step r.setup r.desk.colors.palette event = .error e := by
  have followed := Course.dispatchAll_follows types es _ (course_leads r feed)
  rcases ran : (Handler.behaviour r.setup).dispatchAll es (r.machine.opened .root feed) with ⟨other | _, t⟩
  · simp [outcome, ran] at taken
  · rw [ran] at followed
    obtain ⟨x, reached, leads⟩ := followed
    refine ⟨x, reached, leads.seats, fun e => ?_⟩
    rw [outcome_error_iff types, Course.run_append, reached]
    cases stepped : x.step r.setup r.desk.colors.palette event <;> simp [Course.run, stepped]

/-- A start tag in a room is refused for what its shape is refused for. -/
theorem Reaches.refused_iff {before : List Event} {name : String} {as : Attributes} {s : Shape} {interior : Interior}
    (types : r.setup.types = .builtin) (reaches : r.Reaches feed before name as)
    (room : (Roster.ofEvents r.setup before).levels.head? = some .room)
    (role : r.setup.role name as = .shape s interior) :
    r.outcome feed (before ++ [.start name as]) = .error e ↔
      s.finish r.setup r.desk.colors.palette as name = .error e := by
  obtain ⟨x, ran, _, steps⟩ := course_of_outcome types reaches.taken (.start name as)
  have agrees : x.Agrees (.ofEvents r.setup before) := (course_agrees r feed).run types ran
  rw [steps]
  exact Course.step_start_error_iff agrees room role

theorem Reaches.parse_refused {before : List Event} {name : String} {as : Attributes}
    (reaches : r.Reaches feed before name as) (idle : r.machine.reading = false)
    (refused : r.outcome feed (before ++ [.start name as]) = .error e) : (parse .root feed r).1 = .error e := by
  obtain ⟨later, split⟩ := reaches.split
  have whole : feed.events = (before ++ [.start name as]) ++ later := by simp [split]
  exact parse_of_outcome idle whole refused

end Reader

end Pgml
