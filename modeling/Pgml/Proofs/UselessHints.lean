import Pgml.Proofs.HistoryIndependence
import Pgml.Proofs.InertAttributes

/-! Type hints that name nothing. A type hint without tokens, or whose first token stands for no type, is reported
where its element is dispatched and is of no other consequence: whatever tokens follow, the element is left to the
rule of its name as if it had no hint. From there on the two readings differ in that notice alone. -/
namespace Pgml

open Machine Vocabulary
open Work (Any)

/-- A type hint that names nothing: it has no tokens, or its first token stands for no type. -/
def Setup.Useless (s : Setup) (hint : String) : Prop :=
  ∀ type ∈ (Attributes.hintTokens hint).head?, s.types.get? (s.translate type) = none

/-- What there is to report on a type hint that names nothing. -/
def Notice.ofHint (hint element : String) : Notice :=
  if (Attributes.hintTokens hint).isEmpty then .emptyHint hint element else .unavailableType hint

theorem Attributes.agree_without {hidden : String} (unread : hidden ∉ asked) (as : Attributes) :
    Agree asked as (as.without hidden) := by
  intro key asked
  have other : key ≠ hidden := by
    rintro rfl
    exact unread asked
  rw [value?_without, if_neg other]

namespace Vocabulary

variable {setup : Setup} {c : Container} {as : Attributes} {hint : String}

/-- Without an object no rule looks at the other tokens of a type hint. -/
theorem applyRule_unhinted_geometry (name : String) (geometry : List String) :
    applyRule setup c name as none geometry = applyRule setup c name as none [] := by
  have same : rule setup c name as none geometry = rule setup c name as none [] := by
    unfold rule
    split <;> rfl
  simp only [applyRule, same]

/-- An element whose type hint names a type that nobody registered is left to the rule of its name, once that
is reported. -/
theorem dispatch_unregistered {type id : String} {geometry : List String}
    (hinted : as.value? setup.config.hintAttribute = some hint)
    (tokens : Attributes.hintTokens hint = type :: geometry)
    (unknown : setup.types.create (setup.translate type) = .error (.unknownType id)) (name : String) :
    dispatch setup c name as =
      (Desk.note (.unavailableType hint) >>= fun _ => dispatchUnhinted setup c name as) := by
  have created : createHinted setup type hint =
      (Desk.note (.unavailableType hint) >>= fun _ => pure none) := by
    simp only [createHinted, unknown]
  simp only [dispatch, hinted, tokens, created, bind_assoc, pure_bind, Option.bind_none]
  refine bind_congr fun _ => ?_
  exact applyRule_unhinted_geometry name geometry

theorem dispatch_bare (unread : setup.config.hintAttribute ∉ Attributes.asked) (name : String) :
    dispatch setup c name (as.without setup.config.hintAttribute) = dispatchUnhinted setup c name as := by
  have unhinted : (as.without setup.config.hintAttribute).value? setup.config.hintAttribute = none := by
    rw [Attributes.value?_without, if_pos rfl]
  simp only [dispatch, unhinted, dispatchUnhinted]
  exact (applyRule_agrees (Attributes.agree_without unread as) name none []).symm

/-- An element whose type hint names nothing is dispatched as without it, once that is reported. -/
theorem dispatch_useless (unread : setup.config.hintAttribute ∉ Attributes.asked)
    (hinted : as.value? setup.config.hintAttribute = some hint) (useless : setup.Useless hint) (name : String) :
    dispatch setup c name as = (Desk.note (.ofHint hint name) >>= fun _ =>
      dispatch setup c name (as.without setup.config.hintAttribute)) := by
  rw [dispatch_bare unread]
  unfold Setup.Useless at useless
  cases tokens : Attributes.hintTokens hint with
  | nil =>
    have reported : Notice.ofHint hint name = .emptyHint hint name := by simp [Notice.ofHint, tokens]
    simp only [dispatch, hinted, tokens, reported]
  | cons type geometry =>
    have reported : Notice.ofHint hint name = .unavailableType hint := by simp [Notice.ofHint, tokens]
    have unknown : setup.types.create (setup.translate type) = .error (.unknownType (setup.translate type)) := by
      have absent := useless type (by simp [tokens])
      simp [TypeTable.create, absent]
    rw [reported, dispatch_unregistered hinted tokens unknown]

end Vocabulary

/-! ## Two desks that differ in a notice -/

/-- A desk, and the same desk without a notice that came after some others. -/
def Desk.Quieter (n : Notice) (earlier : List Notice) (d e : Desk) : Prop :=
  ∃ later, d.journal = later ++ n :: earlier ∧ e = { d with journal := later ++ earlier }

namespace Desk

variable (n : Notice) (earlier : List Notice)

def quieterLink : Styling.Link where
  shapes s t := t = s
  journals j k := ∃ later, j = later ++ n :: earlier ∧ k = later ++ earlier
  style := Styling.Link.style_eq
  bounds := Styling.Link.bounds_eq
  unknown := by
    rintro value used _ _ ⟨later, rfl, rfl⟩
    exact ⟨.unknownColor value used :: later, rfl, rfl⟩

theorem style_quieter (id : ItemId) (defaults : ColorDefaults) (as : Attributes) :
    Unaware (Quieter n earlier) Any (style id (Styling.setCommon defaults as)) := by
  rintro d _ ⟨later, journal, rfl⟩
  have shape : ({ d with journal := later ++ earlier } : Desk).shape? id = d.shape? id := rfl
  simp only [style, shape]
  cases d.shape? id with
  | none => exact ⟨rfl, ⟨later, journal, rfl⟩, fun _ _ => trivial⟩
  | some s =>
    have alike : Work.Alike (Styling.Linked (quieterLink n earlier) d.colors.palette) Any
        (Styling.setCommon defaults as) (Styling.setCommon defaults as) := Styling.setCommon_linked as defaults
    obtain ⟨same, ⟨shapes, ⟨more, left, right⟩, colors, _⟩, _⟩ := alike ⟨s, d.colors, d.journal⟩
      ⟨s, d.colors, later ++ earlier⟩ ⟨rfl, ⟨later, journal, rfl⟩, rfl, rfl⟩
    refine ⟨same, ⟨more, left, ?_⟩, fun _ _ => trivial⟩
    simp only [quieterLink] at shapes
    simp only [shapes, right, colors]
    rfl

instance : Similar (Quieter n earlier) where
  items := by rintro d _ ⟨_, _, rfl⟩; rfl
  names := by rintro d _ ⟨_, _, rfl⟩; rfl
  diagram := by rintro d _ ⟨_, _, rfl⟩; rfl
  setItems := by rintro d _ items ⟨later, journal, rfl⟩; exact ⟨later, journal, rfl⟩
  setNames := by rintro d _ names ⟨later, journal, rfl⟩; exact ⟨later, journal, rfl⟩
  draw := by rintro d _ f ⟨later, journal, rfl⟩; exact ⟨later, journal, rfl⟩
  crown := by rintro d _ g _ ⟨later, journal, rfl⟩; exact ⟨later, journal, rfl⟩
  note := by
    rintro d _ other ⟨later, journal, rfl⟩
    exact ⟨other :: later, by simp [addNotices, journal], by simp [addNotices]⟩
  stow := by rintro d _ objects data ⟨later, journal, rfl⟩; exact ⟨later, journal, rfl⟩
  style := style_quieter n earlier

end Desk

/-! ## Documents -/

/-- Two machines that differ in a notice still do so once they have left the document. -/
theorem Behaviour.leave_quieter {n : Notice} {earlier : List Notice} {m t : Machine Handler Desk}
    (beside : Beside (Desk.Quieter n earlier) m t) (result : Except Fault Diagram) :
    (leave (result, t)).1 = (leave (result, m)).1 ∧
      ∃ later, (leave (result, m)).2.work.journal = later ++ n :: earlier ∧
        (leave (result, t)).2 = { (leave (result, m)).2 with work.journal := later ++ earlier } := by
  obtain ⟨later, journal, work⟩ := beside.work
  have same : t = { m with work.journal := later ++ earlier } := beside.eq.trans (by rw [work])
  subst same
  cases result with
  | ok diagram => exact ⟨rfl, later, journal, rfl⟩
  | error fault =>
    refine ⟨rfl, later, ?_⟩
    rcases fault.isInterrupt_cases with own | ⟨cause, rfl⟩
    · simp only [Behaviour.leave, stopped_of_fault _ own]
      exact ⟨journal, rfl⟩
    · exact ⟨journal, rfl⟩

/-- How many elements are open after some events. -/
def Event.depthAfter (events : List Event) : Nat := events.foldl (fun n e => e.depth n) 0

namespace Handler

variable {setup : Setup} {m t : Machine Handler Desk}

theorem inside_of_dispatchAll {n : Nat} (inside : Inside n m) {es : List Event}
    (taken : (behaviour setup).dispatchAll es m = (.ok (), t)) :
    Inside (es.foldl (fun n e => e.depth n) n) t := by
  induction es generalizing n m with
  | nil =>
    obtain rfl := congrArg Prod.snd taken
    exact inside
  | cons e es ih =>
    obtain ⟨_, u, first, rest⟩ := Work.bind_eq_ok taken
    exact ih (inside_of_dispatch inside first) rest

/-- The start of an element whose type hint names nothing, with room for objects around it. -/
theorem dispatch_start_useless (unread : setup.config.hintAttribute ∉ Attributes.asked) {as : Attributes}
    {hint : String} (hinted : as.value? setup.config.hintAttribute = some hint) (useless : setup.Useless hint)
    {frame : Frame Handler} {rest : List (Frame Handler)} {c : Container} (frames : m.frames = frame :: rest)
    (room : frame.handler.room? = some c) (name : String) :
    (behaviour setup).dispatch (.start name as) m =
      (behaviour setup).dispatch (.start name (as.without setup.config.hintAttribute))
        { m with work := m.work.addNotices [.ofHint hint name] } := by
  rw [Behaviour.dispatch_start frames, Behaviour.dispatch_start (by exact frames), startElement_room setup room,
    startElement_room setup room, Vocabulary.dispatch_useless unread hinted useless]
  rfl

/-- Elsewhere nobody looks at type hints, but for the handler of a root. -/
theorem dispatch_start_roomless (unread : setup.config.hintAttribute ∉ Attributes.asked) (as : Attributes)
    (roomless : ∀ frame rest, m.frames = frame :: rest → frame.handler ≠ .root ∧ frame.handler.room? = none)
    (name : String) :
    (behaviour setup).dispatch (.start name as) m =
      (behaviour setup).dispatch (.start name (as.without setup.config.hintAttribute)) m := by
  cases frames : m.frames with
  | nil => simp [Behaviour.dispatch, Behaviour.handleStart, Work.bind_apply, frames]
  | cons frame rest =>
    obtain ⟨inner, room⟩ := roomless frame rest frames
    rw [Behaviour.dispatch_start frames, Behaviour.dispatch_start frames,
      startElement_roomless (Attributes.agree_without unread as) inner room]

/-- From such an element on two readings, one with the hint and one without, differ in the notice on it. -/
theorem read_useless (unread : setup.config.hintAttribute ∉ Attributes.asked) {as : Attributes} {hint : String}
    (hinted : as.value? setup.config.hintAttribute = some hint) (useless : setup.Useless hint)
    (reading : m.reading = true) {frame : Frame Handler} {rest : List (Frame Handler)} {c : Container}
    (frames : m.frames = frame :: rest) (room : frame.handler.room? = some c) (name : String) (after : List Event)
    (ending : Option Fault) :
    let read (tag : Attributes) :=
      ((behaviour setup).dispatchAll (.start name tag :: after) >>= fun _ => Behaviour.finish ending) m
    (read as).1 = (read (as.without setup.config.hintAttribute)).1 ∧
      Beside (Desk.Quieter (.ofHint hint name) m.work.journal) (read as).2
        (read (as.without setup.config.hintAttribute)).2 := by
  intro read
  let noted : Machine Handler Desk := { m with work := m.work.addNotices [.ofHint hint name] }
  let bare := as.without setup.config.hintAttribute
  let step : Step Handler Desk Diagram :=
    (behaviour setup).dispatchAll (.start name bare :: after) >>= fun _ => Behaviour.finish ending
  have same : read as = step noted := by
    refine Work.bind_congr (Work.bind_congr ?_ fun _ _ _ => rfl) fun _ _ _ => rfl
    exact dispatch_start_useless unread hinted useless frames room name
  have unaware : Unaware (Desk.Quieter (.ofHint hint name) m.work.journal) Any step :=
    (Behaviour.dispatchAll_unaware (innerReading_unaware setup _) _).bind fun _ _ =>
      Behaviour.finish_unaware ending
  have start : Beside (Desk.Quieter (.ofHint hint name) m.work.journal) noted m :=
    ⟨reading, reading, rfl, [], rfl, rfl⟩
  obtain ⟨result, beside, _⟩ := unaware noted m start
  rw [same]
  exact ⟨result, beside⟩

end Handler

namespace Reader

/-- An element that is dispatched: after the events before it the machine is as said, and the handler on top has
room for objects. -/
def Dispatches (r : Reader) (initial : Handler) (opening : List Notice) (before : List Event)
    (t : Machine Handler Desk) : Prop :=
  r.machine.reading = false ∧
    (Handler.behaviour r.setup).dispatchAll before (r.machine.opened initial ⟨opening, [], none⟩) = (.ok (), t) ∧
    ∃ frame rest c, t.frames = frame :: rest ∧ frame.handler.room? = some c

/-- A type hint that names nothing is the same as none. If it is taken away from an element inside a root, the
reader comes to the same diagram or fault, with the same objects, names and colours, whatever the element, its
other tokens and all the rest of the document are. If the element is dispatched, one notice on the hint is missing
among the others; if it is not, even the notices are the same. -/
theorem parse_unhinted (initial : Handler) (r : Reader) {opening : List Notice} {before after : List Event}
    {ending : Option Fault} {name hint : String} {as : Attributes}
    (unread : r.setup.config.hintAttribute ∉ Attributes.asked) (inside : 0 < Event.depthAfter before)
    (hinted : as.value? r.setup.config.hintAttribute = some hint) (useless : r.setup.Useless hint) :
    let document (tag : Attributes) : Feed := ⟨opening, before ++ .start name tag :: after, ending⟩
    let full := parse initial (document as) r
    let bare := parse initial (document (as.without r.setup.config.hintAttribute)) r
    (∀ t, r.Dispatches initial opening before t →
      bare.1 = full.1 ∧ bare.2.forgetNotices = full.2.forgetNotices ∧
      ∃ later, full.2.notices = t.work.notices ++ .ofHint hint name :: later ∧
        bare.2.notices = t.work.notices ++ later) ∧
    ((∀ t, ¬ r.Dispatches initial opening before t) → bare = full) := by
  intro document full bare
  let b := Handler.behaviour r.setup
  cases idle : r.machine.reading with
  | true =>
    have same : bare = full := by simp [bare, full, parse_busy idle]
    exact ⟨fun t dispatches => by simp [Dispatches, idle] at dispatches, fun _ => same⟩
  | false =>
    -- Up to the element the two documents are one. A fault there is the fault of both.
    rcases ran : b.dispatchAll before (r.machine.opened initial ⟨opening, [], none⟩) with ⟨fault | ⟨⟩, t⟩
    · have same : bare = full := by
        simp only [bare, full, parse, onMachine, Work.within, document, b, Behaviour.parse_append idle ran]
      refine ⟨?_, fun _ => same⟩
      rintro u ⟨_, other, _⟩
      rw [ran] at other
      simp at other
    · let run (tag : Attributes) :=
        (b.dispatchAll (.start name tag :: after) >>= fun _ => Behaviour.finish ending) t
      have read (tag : Attributes) : parse initial (document tag) r =
          ((Behaviour.leave (run tag)).1, { r with machine := (Behaviour.leave (run tag)).2 }) := by
        simp only [parse, onMachine, Work.within, document, b, Behaviour.parse_append idle ran, run]
      have there : Inside (Event.depthAfter before) t :=
        Handler.inside_of_dispatchAll ⟨rfl, by simp⟩ ran
      refine ⟨?_, ?_⟩
      · rintro u ⟨_, other, frame, below, c, frames, room⟩
        obtain rfl : t = u := congrArg Prod.snd (ran.symm.trans other)
        obtain ⟨result, beside⟩ :=
          Handler.read_useless unread hinted useless there.reading frames room name after ending
        have unhinted : run (as.without r.setup.config.hintAttribute) =
            ((run as).1, (run (as.without r.setup.config.hintAttribute)).2) := Prod.ext result.symm rfl
        obtain ⟨same, later, journal, quieter⟩ := Behaviour.leave_quieter beside (run as).1
        simp only [full, bare, read]
        rw [unhinted]
        refine ⟨same, ?_, later.reverse, ?_, ?_⟩
        · rw [quieter]
          rfl
        · change (Behaviour.leave (run as)).2.work.journal.reverse = _
          rw [journal]
          simp [Desk.notices]
        · change (Behaviour.leave (H := Handler) (S := Desk) ((run as).1, _)).2.work.journal.reverse = _
          rw [quieter]
          simp [Desk.notices]
      · intro elsewhere
        have roomless (frame : Frame Handler) (below : List (Frame Handler)) (frames : t.frames = frame :: below) :
            frame.handler ≠ .root ∧ frame.handler.room? = none := by
          refine ⟨(there.inner frame ?_).1, ?_⟩
          · obtain ⟨n, depth⟩ := Nat.exists_eq_add_of_lt inside
            simp [frames, depth]
          · cases room : frame.handler.room? with
            | none => rfl
            | some c => exact absurd ⟨idle, ran, frame, below, c, frames, room⟩ (elsewhere t)
        have same : run (as.without r.setup.config.hintAttribute) = run as := by
          refine Work.bind_congr (Work.bind_congr ?_ fun _ _ _ => rfl) fun _ _ _ => rfl
          exact (Handler.dispatch_start_roomless unread as roomless name).symm
        simp only [bare, full, read, same]

/-- In a group a rectangle with a hint to a type that does not exist, and behind it a text whose hint is empty. -/
theorem parse_unhinted_of_frame :
    let r : Reader := ⟨.plain, ⟨[], false, Desk.fresh .builtin⟩⟩
    let before : List Event := [.start "pgml" [], .start "group" [("description", "group"), ("name", "g")]]
    let after : List Event := [.finish "rectangle", .start "text" [("description", ", ")], .finish "text",
      .finish "group", .finish "pgml"]
    let as : Attributes := [("x", "1"), ("description", "nothing, 1, 2"), ("name", "r")]
    let read (tag : Attributes) := parse .root (.ofEvents (before ++ .start "rectangle" tag :: after)) r
    let bare := as.without r.setup.config.hintAttribute
    bare = [("x", "1"), ("name", "r")] ∧ (read bare).1 = (read as).1 ∧
      (read bare).2.forgetNotices = (read as).2.forgetNotices ∧
      (read as).2.desk.names.names = ["g", "r"] ∧
      (read as).2.notices = [.readingDiagram "" none, .unavailableType "nothing, 1, 2", .emptyHint ", " "text",
        .readDiagram "" 1] ∧
      (read bare).2.notices = [.readingDiagram "" none, .emptyHint ", " "text", .readDiagram "" 1] := by
  intro r before after as read bare
  have useless : r.setup.Useless "nothing, 1, 2" := by
    intro type first
    have head : (Attributes.hintTokens "nothing, 1, 2").head? = some "nothing" := by decide +kernel
    obtain rfl : "nothing" = type := Option.some.inj (head.symm.trans first)
    decide +kernel
  have dispatches : ∃ t, r.Dispatches .root [] before t := by
    refine ⟨_, rfl, Prod.ext (by decide +kernel) rfl, ⟨some "group", .group ⟨0⟩ true⟩,
      [⟨some "pgml", .diagram⟩, ⟨none, .root⟩], .group ⟨0⟩, by decide +kernel, rfl⟩
  obtain ⟨t, dispatches⟩ := dispatches
  obtain ⟨same, others, _⟩ := (@parse_unhinted .root r [] before after none "rectangle" "nothing, 1, 2" as
    (by decide) (by decide) (by decide) useless).1 t dispatches
  exact ⟨by decide, same, others, by decide +kernel, by decide +kernel, by decide +kernel⟩

end Reader

end Pgml
