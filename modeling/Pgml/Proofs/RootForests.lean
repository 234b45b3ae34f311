import Pgml.Proofs.NumberFaults
import Pgml.Proofs.HistoryIndependence
import Pgml.Proofs.LedgerReading

/-! Sources with more than one root element. The frame of the initial handler stays below that of the root
element and is still there after it, so no start tag finds the machine without frames. An element behind
the root element goes to the initial handler as the root element did; the one that makes the diagram of
documents finds then that there is a diagram already. -/
namespace Pgml

open Machine
open Work (Any)

/-! ## Desks with a diagram -/

namespace Desk

/-- A desk that has a diagram, and the same desk. -/
structure Crowned (d e : Desk) : Prop where
  same : e = d
  set : d.diagram.isSome = true

/-- No work takes a diagram away. -/
instance : Similar Crowned where
  items := by rintro d _ ⟨rfl, _⟩; rfl
  names := by rintro d _ ⟨rfl, _⟩; rfl
  diagram := by rintro d _ ⟨rfl, _⟩; rfl
  setItems := by rintro d _ items ⟨rfl, set⟩; exact ⟨rfl, set⟩
  setNames := by rintro d _ names ⟨rfl, set⟩; exact ⟨rfl, set⟩
  draw := by rintro d _ f ⟨rfl, set⟩; exact ⟨rfl, by simpa [updateDiagram] using set⟩
  crown := by rintro d _ g _ ⟨rfl, _⟩; exact ⟨rfl, rfl⟩
  note := by rintro d _ n ⟨rfl, set⟩; exact ⟨rfl, set⟩
  stow := by rintro d _ objects data ⟨rfl, set⟩; exact ⟨rfl, set⟩
  style id defaults as := by
    rintro d _ ⟨rfl, set⟩
    refine ⟨rfl, ⟨rfl, ?_⟩, fun _ _ => trivial⟩
    unfold style
    split <;> exact set

end Desk

/-! ## Behind the root element -/

/-- Character data and then other content. -/
def Content.texts (data : List String) (rest : Content) : Content := data.foldr .text rest

theorem Content.texts_events (data : List String) (rest : Content) :
    (texts data rest).events = data.map .characters ++ rest.events := by
  induction data with
  | nil => rfl
  | cons text data ih => exact congrArg (.characters text :: ·) ih

theorem Content.texts_ownText (data : List String) (rest : Content) :
    (texts data rest).ownText = data ++ rest.ownText := by
  induction data with
  | nil => rfl
  | cons text data ih => exact congrArg (text :: ·) ih

namespace Behaviour

variable {H S : Type} {b : Behaviour H S} {calm : H → Prop} {m t : Machine H S} {h : H}
  {before between : List String} {root : String} {as : Attributes} {inner : Content}

/-- After a root element the initial handler is on top again, with the character data around the element. -/
theorem frames_of_document (leaves : b.LeavesFrames calm) (tame : calm h) (reading : m.reading = true)
    (frames : m.frames = [⟨none, h⟩])
    (taken : b.dispatchAll (document before root as inner between) m = (.ok (), t)) :
    t.frames = [⟨none, (before ++ between).foldl b.absorb h⟩] := by
  let c : Content := .texts before (.element root as inner (.texts between .empty))
  have word : document before root as inner between = c.events := by
    simp [document, c, Content.texts_events, Content.events]
  have own : c.ownText = before ++ between := by
    simp [c, Content.texts_ownText, Content.ownText]
  rw [word, Content.dispatchAll_content leaves c tame reading frames] at taken
  obtain ⟨done, u, finished, closed⟩ := Work.bind_eq_ok taken
  obtain ⟨_, answer⟩ := Content.evalAmid_yields leaves c none [] tame m reading
  rw [finished] at answer
  obtain ⟨_, rfl⟩ := answer done rfl
  obtain rfl := congrArg Prod.snd closed
  rw [own]
  rfl

variable [Workspace S] {feed : Feed} {name : String} {attributes : Attributes} {more : List Event}

/-- An element behind the root element is asked of the initial handler. -/
theorem parse_behind_root (leaves : b.LeavesFrames calm) (tame : calm h) (idle : m.reading = false)
    (word : feed.events = document before root as inner between ++ .start name attributes :: more)
    (taken : b.dispatchAll (document before root as inner between) (m.opened h feed) = (.ok (), t)) :
    b.parse h feed m = leave ((b.startElement ((before ++ between).foldl b.absorb h) name attributes >>=
      fun next => Machine.push (some name) (next.getD b.ignore) >>= fun _ =>
        b.dispatchAll more >>= fun _ => finish feed.ending) t) := by
  have frames := frames_of_document leaves tame rfl rfl taken
  rw [parse_idle idle, word]
  refine congrArg leave ?_
  rw [Work.bind_congr (dispatchAll_append _ _ _) fun _ _ _ => rfl, bind_assoc, Work.bind_ok taken,
    Work.bind_congr (dispatchAll_cons _ _ _) fun _ _ _ => rfl, bind_assoc,
    Work.bind_congr (dispatch_start frames name attributes) fun _ _ _ => rfl, bind_assoc]

end Behaviour

/-! ## The handler of documents -/

namespace Vocabulary

/-- What is wrong with a root element when there is a diagram already. -/
def rootRefusal (setup : Setup) (name : String) (as : Attributes) : Fault :=
  if name = setup.config.rootElement then
    match rootDiagram setup.config.hintAttribute as with
    | .ok _ => .misuse .diagramSet
    | .error fault => fault
  else .malformed (.wrongRoot setup.config.rootElement name)

/-- The refusal is that of a bad document if the element is no root element on its own. -/
theorem rootRefusal_malformed_iff (setup : Setup) (name : String) (as : Attributes) :
    (∃ cause, rootRefusal setup name as = .malformed cause) ↔
      name ≠ setup.config.rootElement ∨ ∃ fault, rootDiagram setup.config.hintAttribute as = .error fault := by
  unfold rootRefusal
  split
  next same =>
    cases made : rootDiagram setup.config.hintAttribute as with
    | ok diagram => simp [same]
    | error fault =>
      obtain ⟨text, rfl⟩ := rootDiagram_bad made
      simp
  next other => simp [other]

theorem startRoot_crowned (setup : Setup) (name : String) (as : Attributes) {d : Desk}
    (set : d.diagram.isSome = true) : (startRoot setup name as d).1 = .error (rootRefusal setup name as) := by
  obtain ⟨g, there⟩ := Option.isSome_iff_exists.mp set
  unfold startRoot rootRefusal
  split
  · cases rootDiagram setup.config.hintAttribute as with
    | error fault => rfl
    | ok diagram =>
      let noted := d.addNotices [.readingDiagram diagram.name diagram.kind]
      have refused : Desk.setDiagram diagram noted = (.error (.misuse .diagramSet), noted) := by
        simp [Desk.setDiagram, noted, Desk.addNotices, there]
      exact congrArg Prod.fst (Work.bind_error refused)
  · rfl

theorem startRoot_sets (setup : Setup) (name : String) (as : Attributes) {d e : Desk} {h : Handler}
    (opened : startRoot setup name as d = (.ok h, e)) : e.diagram.isSome = true := by
  unfold startRoot at opened
  split at opened
  · obtain ⟨diagram, u, _, opened⟩ := Work.bind_eq_ok opened
    obtain ⟨_, v, _, opened⟩ := Work.bind_eq_ok opened
    obtain ⟨_, w, crowned, opened⟩ := Work.bind_eq_ok opened
    obtain rfl : w = e := congrArg Prod.snd opened
    unfold Desk.setDiagram at crowned
    split at crowned
    · simp at crowned
    · obtain rfl := congrArg Prod.snd crowned
      rfl
  · simp at opened

end Vocabulary

namespace Handler

variable {setup : Setup} {name : String} {as : Attributes} {m v : Machine Handler Desk}

theorem startElement_root_refused (set : m.work.diagram.isSome = true) :
    ((behaviour setup).startElement .root name as m).1 = .error (Vocabulary.rootRefusal setup name as) := by
  have refused := Vocabulary.startRoot_crowned setup name as set
  have failed := Work.bind_error (f := fun h => (pure (some h) : Work Desk (Option Handler)))
    (Prod.ext refused rfl)
  exact congrArg Prod.fst failed

theorem startElement_root_sets {next : Option Handler}
    (asked : (behaviour setup).startElement .root name as m = (.ok next, v)) :
    v.work.diagram.isSome = true := by
  obtain ⟨answered, rfl⟩ := Prod.mk.inj asked
  obtain ⟨h, d, opened, made⟩ := Work.bind_eq_ok (Prod.ext answered rfl)
  obtain rfl := congrArg Prod.snd made
  exact Vocabulary.startRoot_sets setup name as opened

/-- After a root element that was read without fault there is a diagram. -/
theorem crowned_of_document {before between : List String} {inner : Content} (reading : m.reading = true)
    (frames : m.frames = [⟨none, .root⟩])
    (taken : (behaviour setup).dispatchAll (document before name as inner between) m = (.ok (), v)) :
    v.work.diagram.isSome = true := by
  have texts (data : List String) : (behaviour setup).dispatchAll (data.map .characters) m = (.ok (), m) := by
    induction data with
    | nil => rfl
    | cons text data ih =>
      have same : (behaviour setup).dispatch (.characters text) m = (.ok (), m) := by
        rw [Behaviour.dispatch_characters frames]
        obtain ⟨_, _, _⟩ := m
        obtain rfl := frames
        rfl
      exact (Work.bind_ok same).trans ih
  rw [document, Behaviour.dispatchAll_append, Work.bind_ok (texts before),
    Behaviour.dispatchAll_cons] at taken
  obtain ⟨_, u, started, taken⟩ := Work.bind_eq_ok taken
  rw [Behaviour.dispatch_start frames] at started
  obtain ⟨next, t, asked, pushed⟩ := Work.bind_eq_ok started
  obtain ⟨_, still, _⟩ := ((leavesFrames setup).startElement .root name as (by simp)).of_eq reading asked
  obtain ⟨work, busy⟩ : u.work = t.work ∧ u.reading = t.reading := by
    obtain rfl := congrArg Prod.snd pushed
    exact ⟨rfl, rfl⟩
  have kept : Unaware Desk.Crowned Any ((behaviour setup).dispatchAll
      (inner.events ++ .finish name :: between.map .characters)) :=
    Behaviour.dispatchAll_unaware (innerReading_unaware setup _) _
  have set : u.work.diagram.isSome = true := work ▸ startElement_root_sets asked
  obtain ⟨_, beside, _⟩ := kept u u ⟨busy ▸ still, busy ▸ still, rfl, rfl, set⟩
  rw [taken] at beside
  exact beside.work.set

end Handler

namespace Reader

/-- An element behind the root element is never refused for being there. Whoever the initial handler is, as
long as it leaves the frames alone, the element is asked of it once more, as if it were the root element. The
handler that makes diagrams refuses it, but as a bad document only if it could not be a root element on its
own; if nothing is wrong with it, it is refused as a second diagram. -/
theorem parse_forest {feed : Feed} {before between : List String} {root name : String}
    {as attributes : Attributes} {inner : Content} {more : List Event}
    (word : feed.events = document before root as inner between ++ .start name attributes :: more) :
    (∀ {H S : Type} [Workspace S] {b : Behaviour H S} {calm : H → Prop} {initial : H} {m t : Machine H S},
      b.LeavesFrames calm → calm initial → m.reading = false →
      b.dispatchAll (document before root as inner between) (m.opened initial feed) = (.ok (), t) →
      t.frames = [⟨none, (before ++ between).foldl b.absorb initial⟩] ∧
      b.parse initial feed m =
        Behaviour.leave ((b.startElement ((before ++ between).foldl b.absorb initial) name attributes >>=
          fun next => Machine.push (some name) (next.getD b.ignore) >>= fun _ =>
            b.dispatchAll more >>= fun _ => Behaviour.finish feed.ending) t)) ∧
    ∀ {r : Reader} {t : Machine Handler Desk}, r.machine.reading = false →
      (Handler.behaviour r.setup).dispatchAll (document before root as inner between)
        (r.machine.opened .root feed) = (.ok (), t) →
      (parse .root feed r).1 = .error (Vocabulary.rootRefusal r.setup name attributes) ∧
      ((∃ cause, (parse .root feed r).1 = .error (.malformed cause)) ↔
        name ≠ r.setup.config.rootElement ∨
          ∃ fault, Vocabulary.rootDiagram r.setup.config.hintAttribute attributes = .error fault) := by
  constructor
  · intro H S _ b calm initial m t leaves tame idle taken
    exact ⟨Behaviour.frames_of_document leaves tame rfl rfl taken,
      Behaviour.parse_behind_root leaves tame idle word taken⟩
  · intro r t idle taken
    have set := Handler.crowned_of_document rfl rfl taken
    have root : (before ++ between).foldl (Handler.behaviour r.setup).absorb .root = .root := by
      induction before ++ between with
      | nil => rfl
      | cons _ _ ih => exact ih
    have read := Behaviour.parse_behind_root (Handler.leavesFrames r.setup) (by simp) idle word taken
    rw [root] at read
    have refused : ((Handler.behaviour r.setup).startElement .root name attributes t).1 =
        .error (Vocabulary.rootRefusal r.setup name attributes) := Handler.startElement_root_refused set
    have result : (parse .root feed r).1 = .error (Vocabulary.rootRefusal r.setup name attributes) := by
      change ((Handler.behaviour r.setup).parse .root feed r.machine).1 = _
      rw [read, Work.bind_error (Prod.ext refused rfl)]
      rfl
    refine ⟨result, ?_⟩
    rw [result, ← Vocabulary.rootRefusal_malformed_iff]
    simp

/-- Two root elements, and a text between them. -/
def twins : Feed := .ofEvents
  [.start "pgml" [], .finish "pgml", .characters "\n", .start "pgml" [("scale", "2")], .finish "pgml"]

theorem parse_forest_of_twins :
    let r : Reader := ⟨.plain, ⟨[], false, Desk.fresh .builtin⟩⟩
    (parse .root twins r).1 = .error (.misuse .diagramSet) ∧
    ∃ t, (Handler.behaviour .plain).dispatchAll [.start "pgml" [], .finish "pgml", .characters "\n"]
        (r.machine.opened .flat twins) = (.ok (), t) ∧ t.frames = [⟨none, .flat⟩] := by
  intro r
  have word : twins.events = document [] "pgml" [] .empty ["\n"] ++
      [.start "pgml" [("scale", "2")], .finish "pgml"] := rfl
  obtain ⟨any, documents⟩ := parse_forest word
  have first : ((Handler.behaviour .plain).dispatchAll (document [] "pgml" [] .empty ["\n"])
      (r.machine.opened .root twins)).1 = .ok () := by rfl
  have flat : ((Handler.behaviour .plain).dispatchAll (document [] "pgml" [] .empty ["\n"])
      (r.machine.opened .flat twins)).1 = .ok () := by rfl
  obtain ⟨refused, _⟩ := documents (r := r) rfl (Prod.ext first rfl)
  refine ⟨refused.trans (by rfl), _, Prod.ext flat rfl, ?_⟩
  exact (any (Handler.leavesFrames .plain) (by simp) rfl (Prod.ext flat rfl)).1

/-- What a second root element comes to: another fault than that of an element after the end, or nothing. -/
theorem parse_second_root :
    let r : Reader := ⟨.plain, ⟨[], false, Desk.fresh .builtin⟩⟩
    (parse .root (.ofEvents [.start "pgml" [], .finish "pgml", .start "pgml" [], .finish "pgml"]) r).1 =
      .error (.misuse .diagramSet) ∧
    (parse .flat (.ofEvents [.start "a" [], .finish "a", .start "b" [], .finish "b"]) r).1 =
      .ok (.named "a") :=
  ⟨by rfl, by rfl⟩

end Reader

end Pgml
