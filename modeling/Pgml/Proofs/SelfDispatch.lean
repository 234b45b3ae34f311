import Pgml.Proofs.PairedReading
import Pgml.Proofs.UselessHints
import Pgml.Proofs.SameShapes

/-! Objects that dispatch their elements themselves. An object of this kind takes over completely: whatever its
element is, the dispatch comes to what the object's own method comes to once the object is there. So a
document in which type hints name relays is read as without these hints. The relays come to lie between the
other objects, but nothing refers to them, and nothing else differs. -/
namespace Pgml

open Machine Vocabulary
open Work (Any Results)

/-! ## Methods of objects -/

/-- What an object does with the element that it was made for, given the container around it, its name and its
attributes. It may do anything at all with the machine. -/
abbrev Method := Container → String → Attributes → Step Handler Desk (Option Handler)

/-- The methods of those objects that have one. -/
abbrev Methods := Hinted → Option Method

/-- The methods that objects have by their plans. -/
def Methods.ofPlans (setup : Setup) : Methods := fun h =>
  (Hinted.plan? h).map fun plan c name as => onWork (takeOver setup c name as h.id plan)

namespace Vocabulary

/-- The dispatch of an element where objects have any methods. -/
def dispatchBy (methods : Methods) (setup : Setup) : Method := fun c name as =>
  match as.value? setup.config.hintAttribute with
  | none => onWork (dispatchUnhinted setup c name as)
  | some hint =>
    match Attributes.hintTokens hint with
    | [] => do
      onWork (Desk.note (.emptyHint hint name))
      onWork (dispatchUnhinted setup c name as)
    | type :: geometry => do
      let hinted ← onWork (createHinted setup type hint)
      match hinted.bind methods with
      | some method => method c name as
      | none => onWork (applyRule setup c name as hinted geometry)

variable {setup : Setup} {c : Container} {as : Attributes} {hint : String}

theorem dispatch_eq_dispatchBy (name : String) :
    onWork (dispatch setup c name as) = dispatchBy (.ofPlans setup) setup c name as := by
  funext m
  cases hinted : as.value? setup.config.hintAttribute with
  | none => simp only [dispatch, dispatchBy, hinted]
  | some hint =>
    cases tokens : Attributes.hintTokens hint with
    | nil =>
      simp only [dispatch, dispatchBy, hinted, tokens]
      rfl
    | cons type geometry =>
      simp only [dispatch, dispatchBy, hinted, tokens]
      rw [onWork_apply, Work.bind_apply, Work.bind_apply, onWork_apply]
      rcases createHinted setup type hint m.work with ⟨_ | _ | h, d⟩
      · rfl
      · rfl
      · simp only [Option.bind_some, Methods.ofPlans]
        cases Hinted.plan? h <;> rfl

/-- What a type hint makes, first of all. -/
theorem createHinted_made {type : String} {drawing : Drawing} {item : Item}
    (made : setup.types.create (setup.translate type) = .ok drawing) (first : drawing.items[0]? = some item)
    (d : Desk) : createHinted setup type hint d =
      (.ok (some ⟨⟨d.items.size⟩, item.shift d.items.size⟩), (Desk.place drawing d).2) := by
  have head : drawing.items[(⟨0⟩ : ItemId).index]? = some item := first
  have there : (Desk.place drawing d).2.item? ⟨d.items.size⟩ = some (item.shift d.items.size) := by
    simpa [ItemId.shift] using Desk.item?_place_new d head
  simp only [createHinted, made]
  change (Except.ok (((Desk.place drawing d).2.item? ⟨d.items.size⟩).map (Hinted.mk ⟨d.items.size⟩)),
    (Desk.place drawing d).2) = _
  rw [there]
  rfl

/-- An object with a method takes over. -/
theorem dispatchBy_method {methods : Methods} {name type : String} {geometry : List String} {drawing : Drawing}
    {item : Item} {method : Method} {m : Machine Handler Desk}
    (hinted : as.value? setup.config.hintAttribute = some hint)
    (tokens : Attributes.hintTokens hint = type :: geometry)
    (made : setup.types.create (setup.translate type) = .ok drawing) (first : drawing.items[0]? = some item)
    (method' : methods ⟨⟨m.work.items.size⟩, item.shift m.work.items.size⟩ = some method) :
    dispatchBy methods setup c name as m =
      method c name as { m with work := (Desk.place drawing m.work).2 } := by
  simp only [dispatchBy, hinted, tokens]
  rw [Work.bind_apply, onWork_apply, createHinted_made made first]
  simp only [Option.bind_some, method']

/-! ## Relays -/

/-- A relay does nothing but to dispatch its element without the type hint. -/
theorem takeOver_relay (name : String) (id : ItemId) :
    takeOver setup c name as id .relay = dispatch setup c name (as.without setup.config.hintAttribute) := by
  have unhinted : (as.without setup.config.hintAttribute).value? setup.config.hintAttribute = none := by
    rw [Attributes.value?_without, if_pos rfl]
  simp only [dispatch, unhinted]
  rfl

end Vocabulary

/-- A type hint whose first token stands for a type of relays. -/
def Setup.Relays (s : Setup) (hint : String) : Prop :=
  ∃ type ∈ (Attributes.hintTokens hint).head?, s.types.get? (s.translate type) = some (.widget .relay)

/-- Two words of events, the second one without some type hints of the first that name relays. Elements that open
where no element is open, the roots, are the same. -/
inductive Event.Relayed (setup : Setup) : Nat → List Event → List Event → Prop where
  | nil (n : Nat) : Relayed setup n [] []
  | same {n : Nat} (e : Event) {es fs : List Event} :
      Relayed setup (e.depth n) es fs → Relayed setup n (e :: es) (e :: fs)
  | relay {n : Nat} (name : String) {as : Attributes} {hint : String} {es fs : List Event} :
      as.value? setup.config.hintAttribute = some hint → setup.Relays hint → Relayed setup (n + 2) es fs →
      Relayed setup (n + 1) (.start name as :: es)
        (.start name (as.without setup.config.hintAttribute) :: fs)

namespace Vocabulary

variable {setup : Setup} {c : Container} {as : Attributes} {hint : String}

/-- An element whose type hint names a relay is dispatched as without the hint, beside the relay. -/
theorem dispatch_relay (hinted : as.value? setup.config.hintAttribute = some hint) (relays : setup.Relays hint)
    (name : String) (d : Desk) : dispatch setup c name as d =
      dispatch setup c name (as.without setup.config.hintAttribute) (Desk.place (.ofShape .relay) d).2 := by
  obtain ⟨type, first, registered⟩ := relays
  obtain ⟨geometry, tokens⟩ := List.head?_eq_some_iff.mp first
  have made : setup.types.create (setup.translate type) = .ok (.ofShape .relay) := by
    simp only [TypeTable.create, registered]
    rfl
  rw [← takeOver_relay name ⟨d.items.size⟩]
  have created : createHinted setup type hint d = _ := createHinted_made made rfl d
  rw [dispatch, hinted]
  simp only [tokens]
  rw [Work.bind_ok created]
  rfl

end Vocabulary

namespace Handler

variable {p : Pairing} {setup : Setup} {n : Nat} {m t : Machine Handler Desk}

/-- So is its start, whoever the handler around it is, and elsewhere nobody looks at the hint. -/
theorem dispatch_start_relay (unread : setup.config.hintAttribute ∉ Attributes.asked) {as : Attributes}
    {hint : String} (hinted : as.value? setup.config.hintAttribute = some hint) (relays : setup.Relays hint)
    (paired : Machine.Paired p m t) (inside : Inside (n + 1) t) (name : String) :
    ∃ u, Machine.Paired p m u ∧ (behaviour setup).dispatch (.start name as) t =
      (behaviour setup).dispatch (.start name (as.without setup.config.hintAttribute)) u := by
  by_cases dispatched : ∃ frame rest c, t.frames = frame :: rest ∧ frame.handler.room? = some c
  · obtain ⟨frame, rest, c, frames, room⟩ := dispatched
    refine ⟨{ t with work := (Desk.place (.ofShape .relay) t.work).2 }, { paired with work := paired.work.relay }, ?_⟩
    rw [Behaviour.dispatch_start frames, Behaviour.dispatch_start (by exact frames), startElement_room setup room,
      startElement_room setup room, Work.bind_apply, Work.bind_apply, onWork_apply, onWork_apply,
      dispatch_relay hinted relays]
  · refine ⟨t, paired, dispatch_start_roomless unread as (fun frame rest frames => ⟨?_, ?_⟩) name⟩
    · exact (inside.inner frame (by simp [frames])).1
    · cases room : frame.handler.room? with
      | none => rfl
      | some c => exact absurd ⟨frame, rest, c, frames, room⟩ dispatched

/-- Events with and without type hints that name relays. -/
theorem dispatchAll_relayed (closed : setup.types.Closed) (unread : setup.config.hintAttribute ∉ Attributes.asked)
    {es fs : List Event} (relayed : Event.Relayed setup n es fs) (inside : Inside n t)
    (paired : Machine.Paired p m t) :
    Work.Outcomes Machine.Paired p (fun _ _ _ => True) ((behaviour setup).dispatchAll fs m)
      ((behaviour setup).dispatchAll es t) := by
  -- The pairing and the machines are those of the events before.
  induction relayed generalizing p m t with
  | nil => exact ⟨p, le_rfl, paired, .ok trivial⟩
  | same e _ ih =>
    exact (Behaviour.dispatch_lockstep closed e m t paired).bind fun q _ _ v u _ _ taken there _ =>
      ih (inside_of_dispatch inside taken) there
  | @relay n name as hint es fs hinted relays _ ih =>
    -- On the machine with the relay the element starts as on the other side.
    obtain ⟨u, beside, same⟩ := dispatch_start_relay unread hinted relays paired inside name
    have first := Behaviour.dispatch_lockstep closed (.start name (as.without setup.config.hintAttribute)) m u beside
    rw [← same] at first
    exact first.bind fun q _ _ v u _ _ taken there _ => ih (inside_of_dispatch inside taken) there

end Handler

/-! ## Outlines -/

section

variable {p : Pairing} {a b : Item} {d e : Desk}

theorem Item.Paired.loose (paired : a.Paired p b) : b.loose = a.loose := by
  cases paired with
  | thing => rfl
  | shape shapes =>
    obtain ⟨variants⟩ := shapes
    cases variants <;> rfl

theorem Item.Paired.parts (paired : a.Paired p b) : List.Forall₂ p a.parts b.parts := by
  cases paired with
  | thing => exact .nil
  | shape shapes =>
    obtain ⟨variants⟩ := shapes
    cases variants with
    | group plan children => exact children
    | edge path connections =>
      cases path with
      | none => exact .nil
      | some pair => exact .cons pair .nil
    | _ => exact .nil

/-- Paired objects look the same, with all that is drawn in them. -/
theorem walk_paired (paired : d.Paired p e) (levels : Nat) {path : List Nat} {ids others : List ItemId}
    (pairs : List.Forall₂ p ids others) :
    (Outline.walk e.items levels path others).map Place.figure =
      (Outline.walk d.items levels path ids).map Place.figure := by
  induction levels generalizing path ids others with
  | zero => rfl
  | succ levels ih =>
    suffices portions : ∀ start,
        ((others.zipIdx start).flatMap (Visits.portion e.items levels path)).map Place.figure =
          ((ids.zipIdx start).flatMap (Visits.portion d.items levels path)).map Place.figure from portions 0
    intro start
    induction pairs generalizing start with
    | nil => rfl
    | @cons i j _ _ pair _ after =>
      obtain ⟨a, b, left, right, both⟩ := paired.items i j pair
      have here : d.items[i.index]? = some a := left
      have there : e.items[j.index]? = some b := right
      have under : (Outline.walk e.items levels (path ++ [start]) b.parts).map Place.figure =
          (Outline.walk d.items levels (path ++ [start]) a.parts).map Place.figure := ih both.parts
      simp only [List.zipIdx_cons, List.flatMap_cons, List.map_append, after, List.append_cancel_right_eq]
      simp only [Visits.portion, here, there, List.map_cons, under, List.cons.injEq, and_true]
      simp [Place.figure, both.loose]

end

/-! ## Documents -/

theorem Machine.opened_paired (m : Machine Handler Desk) (opening : List Notice) (es fs : List Event)
    (ending : Option Fault) :
    Machine.Paired (fun _ _ => False) (m.opened .root ⟨opening, fs, ending⟩) (m.opened .root ⟨opening, es, ending⟩) := by
  refine ⟨rfl, rfl, .cons ⟨rfl, .root⟩ .nil, ?_⟩
  rw [opened_work, opened_work]
  refine ⟨⟨?_, ?_⟩, ?_, ?_, ?_, .nil, rfl, .none, rfl⟩
  · simp [Relator.LeftUnique]
  · simp [Relator.RightUnique]
  · simp
  · simp [Desk.item?, Desk.cleared, Desk.addNotices]
  · simp [Desk.item?, Desk.cleared, Desk.addNotices]

namespace Reader

/-- A document is read as without the type hints in it that name relays. -/
theorem parse_relayed {r : Reader} (idle : r.machine.reading = false) (closed : r.setup.types.Closed)
    (unread : r.setup.config.hintAttribute ∉ Attributes.asked) (opening : List Notice) {events bare : List Event}
    (relayed : Event.Relayed r.setup 0 events bare) (ending : Option Fault) :
    let full := parse .root ⟨opening, events, ending⟩ r
    let plain := parse .root ⟨opening, bare, ending⟩ r
    ∃ p, Results (Diagram.Paired p) plain.1 full.1 ∧ plain.2.desk.Paired p full.2.desk ∧
      full.2.depth = plain.2.depth := by
  intro full plain
  let b := Handler.behaviour r.setup
  have inside : Inside 0 (r.machine.opened .root ⟨opening, events, ending⟩) := ⟨rfl, by simp⟩
  have opened := r.machine.opened_paired opening events bare ending
  have read : Work.Outcomes Machine.Paired (fun _ _ => False) Diagram.Paired
      ((b.dispatchAll bare >>= fun _ => Behaviour.finish ending) (r.machine.opened .root ⟨opening, bare, ending⟩))
      ((b.dispatchAll events >>= fun _ => Behaviour.finish ending)
        (r.machine.opened .root ⟨opening, events, ending⟩)) :=
    (Handler.dispatchAll_relayed closed unread relayed inside opened).bind fun q _ _ v u _ _ _ there _ =>
      Behaviour.finish_lockstep ending v u there
  obtain ⟨p, _, machines, results⟩ := read
  obtain ⟨same, desks, depth⟩ := Behaviour.leave_paired machines results
  refine ⟨p, ?_⟩
  simp only [full, plain, parse, onMachine, Work.within, Behaviour.parse_idle idle]
  exact ⟨same, desks, depth⟩

/-- Objects that dispatch their elements themselves take over completely. What an element's dispatch comes to is
what the method of the object comes to that its type hint makes, in the same container and with the same name
and attributes, on the machine with that object on the desk and nothing else done to it. This is so for any
methods, for all elements and wherever they stand; those that objects have by their plans are some of them.
One plan, that of a relay, is to dispatch the element again without its type hint. A document in which any number
of elements inside the root, on any level, have hints that name relays is read as without these hints: it comes
to the same fault or to the same diagram, with the same notices, names and colours, and every outline shows the
same. The objects are those of the other reading one for one, and besides there are only the relays, untouched. -/
theorem parse_self_dispatching (r : Reader) :
    let setup := r.setup
    let hintAttribute := setup.config.hintAttribute
    (∀ c name as, onWork (Vocabulary.dispatch setup c name as) = dispatchBy (.ofPlans setup) setup c name as) ∧
    (∀ (methods : Methods) (c : Container) (name : String) (as : Attributes) (hint type : String)
      (geometry : List String) (drawing : Drawing) (item : Item) (method : Method) (m : Machine Handler Desk),
      as.value? hintAttribute = some hint → Attributes.hintTokens hint = type :: geometry →
      setup.types.create (setup.translate type) = .ok drawing → drawing.items[0]? = some item →
      methods ⟨⟨m.work.items.size⟩, item.shift m.work.items.size⟩ = some method →
      dispatchBy methods setup c name as m = method c name as
        { m with work.items := m.work.items ++ (drawing.items.map (·.shift m.work.items.size)).toArray }) ∧
    (∀ c name as id,
      takeOver setup c name as id .relay = Vocabulary.dispatch setup c name (as.without hintAttribute)) ∧
    (r.machine.reading = false → setup.types.Closed → hintAttribute ∉ Attributes.asked →
      ∀ opening events bare ending, Event.Relayed setup 0 events bare →
      let full := parse .root ⟨opening, events, ending⟩ r
      let plain := parse .root ⟨opening, bare, ending⟩ r
      (∃ p, Results (Diagram.Paired p) plain.1 full.1 ∧ plain.2.desk.Paired p full.2.desk) ∧
      full.2.notices = plain.2.notices ∧ full.2.desk.names.names = plain.2.desk.names.names ∧
      full.2.desk.colors = plain.2.desk.colors ∧ full.2.depth = plain.2.depth ∧ full.2.setup = plain.2.setup ∧
      ∀ g h levels, plain.1 = .ok g → full.1 = .ok h →
        (Outline.walk full.2.desk.items levels [] h.shapes).map Place.figure =
          (Outline.walk plain.2.desk.items levels [] g.shapes).map Place.figure) := by
  intro setup hintAttribute
  refine ⟨fun c name as => dispatch_eq_dispatchBy name, ?_, fun c name as id => takeOver_relay name id, ?_⟩
  · intro methods c name as hint type geometry drawing item method m hinted tokens made first method'
    exact dispatchBy_method hinted tokens made first method'
  · intro idle closed unread opening events bare ending relayed full plain
    obtain ⟨p, results, desks, depth⟩ := parse_relayed idle closed unread opening relayed ending
    refine ⟨⟨p, results, desks⟩, congrArg List.reverse desks.journal, desks.names.names, desks.colors, depth, rfl, ?_⟩
    intro g h levels left right
    change Results (Diagram.Paired p) plain.1 full.1 at results
    rw [left, right] at results
    cases results with
    | ok both =>
      obtain ⟨shapes, objects, rfl⟩ := both
      exact walk_paired desks levels objects

/-- Relays for a rectangle in a group, for a private element, for an ellipse in that and for an unknown element. -/
theorem parse_self_dispatching_of_relays :
    let setup : Setup := { Setup.plain with types := TypeTable.builtin.insert "relay" (.widget .relay) }
    let r : Reader := ⟨setup, ⟨[], false, Desk.fresh .builtin⟩⟩
    let events (cut : Attributes → Attributes) : List Event := [
      .start "pgml" [("name", "d")], .start "group" [("description", "group"), ("name", "g")],
      .start "rectangle" (cut [("description", "relay"), ("name", "a"), ("strokecolor", "red")]), .finish "rectangle",
      .start "private" (cut [("description", "relay;private")]), .characters "key=\"value\"",
      .start "ellipse" (cut [("name", "e"), ("description", "relay")]), .finish "ellipse", .finish "private",
      .start "star" (cut [("description", "relay")]), .finish "star", .finish "group", .finish "pgml"]
    let full := parse .root (.ofEvents (events id)) r
    let plain := parse .root (.ofEvents (events (·.without setup.config.hintAttribute))) r
    full.2.notices = plain.2.notices ∧ full.2.desk.names.names = plain.2.desk.names.names ∧
      full.2.desk.colors = plain.2.desk.colors ∧
      plain.2.notices = [.readingDiagram "d" none, .unrecognized "star", .readDiagram "d" 1] ∧
      plain.2.desk.names.names = ["g", "a", "e"] ∧
      plain.2.desk.items.toList.map Item.kind = ["Group", "Rectangle", "Ellipse"] ∧
      full.2.desk.items.toList.map Item.kind =
        ["Group", "Widget", "Rectangle", "Widget", "Widget", "Ellipse", "Widget"] := by
  intro setup r events full plain
  have relays : ∀ hint, (Attributes.hintTokens hint).head? = some "relay" → setup.Relays hint :=
    fun hint first => ⟨"relay", first, by decide⟩
  have relayed : Event.Relayed setup 0 (events id) (events (·.without setup.config.hintAttribute)) :=
    .same _ <| .same _ <| .relay _ (by decide) (relays "relay" (by decide)) <| .same _ <|
      .relay _ (by decide) (relays "relay;private" (by decide)) <| .same _ <|
      .relay _ (by decide) (relays "relay" (by decide)) <| .same _ <| .same _ <|
      .relay _ (by decide) (relays "relay" (by decide)) <| .same _ <| .same _ <| .same _ <| .nil _
  obtain ⟨_, notices, names, colors, _⟩ :=
    (parse_self_dispatching r).2.2.2 rfl (by decide) (by decide) [] _ _ none relayed
  exact ⟨notices, names, colors, by decide +kernel, by decide +kernel, by decide +kernel, by decide +kernel⟩

end Reader

end Pgml
