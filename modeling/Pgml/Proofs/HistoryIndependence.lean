import Pgml.Proofs.DocumentHandlers
import Pgml.Proofs.CleanReading
import Pgml.Reader

/-! What is left of the past when a document is read. A document is read like on a fresh desk of the
same palette, in front of the notices and the tray from before. So after any history of errands a
reader reads a document as a newly built one with its types and translations does. -/
namespace Pgml

open Work (Any)

namespace Machine

/-- Machines that read, with the same frames, at desks that are related. -/
structure Beside (R : Desk → Desk → Prop) (m t : Machine Handler Desk) : Prop where
  left : m.reading = true
  right : t.reading = true
  frames : t.frames = m.frames
  work : R m.work t.work

/-- A step that comes to the same at related desks. -/
abbrev Unaware {α : Type} (R : Desk → Desk → Prop) (answer : α → Prop) (step : Step Handler Desk α) : Prop :=
  Work.Alike (Beside R) answer step step

variable {R : Desk → Desk → Prop}

theorem Beside.eq {m t : Machine Handler Desk} (beside : Beside R m t) : t = { m with work := t.work } := by
  obtain ⟨left, right, frames, _⟩ := beside
  rw [← frames, left, ← right]

theorem onWork_unaware {α : Type} {answer : α → Prop} {w : Work Desk α}
    (unaware : Desk.Unaware R answer w) : Unaware R answer (onWork w) := by
  intro m t beside
  obtain ⟨same, there, fits⟩ := unaware m.work t.work beside.work
  exact ⟨same, { beside with work := there }, fits⟩

theorem push_unaware (element : Option String) (handler : Handler) :
    Unaware R Any (push element handler) :=
  .update fun _ _ beside => { beside with frames := congrArg (⟨element, handler⟩ :: ·) beside.frames }

theorem pop_unaware : Unaware R Any (pop (H := Handler) (S := Desk)) := by
  intro m t beside
  simp only [pop, beside.frames]
  cases m.frames with
  | nil => exact ⟨rfl, beside, fun _ _ => trivial⟩
  | cons frame rest => exact ⟨rfl, { beside with frames := rfl }, fun _ _ => trivial⟩

end Machine

namespace Handler

open Machine Vocabulary

variable {R : Desk → Desk → Prop} [Desk.Similar R] (setup : Setup) {inner : Step Handler Desk Unit}

/-- No handler looks at the past, if the other reading that one of them starts does not. -/
theorem startElement_unaware (unaware : Unaware R Any inner) (h : Handler) (name : String)
    (as : Attributes) : Unaware R Any (startElement setup inner h name as) := by
  have dispatched (c : Container) : Unaware R Any (onWork (dispatch setup c name as)) :=
    onWork_unaware ((dispatch_unaware setup c as name).mono fun _ _ => trivial)
  cases h with
  | root => exact onWork_unaware ((startRoot_unaware setup as name).bind fun _ _ => .pure trivial)
  | anyRoot => exact onWork_unaware ((Desk.setDiagram_unaware _).bind fun _ _ => .pure trivial)
  | noRoot | ignore | text => exact .pure trivial
  | nestedReading => exact unaware.bind fun _ _ => .pure trivial
  | flat => exact onWork_unaware ((startFlat_unaware name).mono fun _ _ => trivial)
  | popping => exact onWork_unaware ((Desk.setDiagram_unaware _).bind fun _ _ => .pure trivial)
  | diagram => exact dispatched .diagram
  | group id => exact dispatched (.group id)
  | edge id => exact dispatched (.edge id)
  | line id => exact onWork_unaware ((startInLine_unaware as id name).bind fun _ _ => .pure trivial)
  | polygon id => exact onWork_unaware ((startInPath_unaware as id name).bind fun _ _ => .pure trivial)
  | wrapper c => exact dispatched c

omit [Desk.Similar R] in
theorem characters_unaware (h : Handler) (text : String) : Unaware R Any (characters h text) := by
  cases h with
  | popping => exact pop_unaware.bind fun _ _ => .pure trivial
  | _ => exact .pure trivial

theorem endElement_unaware (h : Handler) (name : String) : Unaware R Any (endElement h name) := by
  cases h with
  | group id derive =>
    cases derive with
    | true => exact onWork_unaware (Desk.calcBounds_unaware id)
    | false => exact .pure trivial
  | text id buffer => exact onWork_unaware (Desk.updateShape_unaware id _)
  | wrapper c buffer => exact onWork_unaware (endWrapper_unaware c buffer)
  | _ => exact .pure trivial

end Handler

/-! ## Reading a document -/

namespace Behaviour

open Machine

variable {R : Desk → Desk → Prop} [Desk.Similar R] {setup : Setup} {inner : Step Handler Desk Unit}

theorem dispatch_unaware (unaware : Unaware R Any inner) (e : Event) :
    Unaware R Any ((Handler.behaviourWith setup inner).dispatch e) := by
  cases e with
  | start name as =>
    refine .current fun m t beside => ?_
    rw [beside.frames]
    cases m.frames with
    | nil => exact .fail _
    | cons frame rest =>
      exact (Handler.startElement_unaware setup unaware frame.handler name as).bind fun _ _ =>
        push_unaware _ _
  | characters text =>
    refine .current fun m t beside => ?_
    rw [beside.frames]
    cases m.frames with
    | nil => exact .pure trivial
    | cons frame rest =>
      refine Work.Alike.bind (.update ?_) fun _ _ => Handler.characters_unaware frame.handler text
      exact fun _ _ beside => { beside with frames := rfl }
  | finish name =>
    refine .current fun m t beside => ?_
    rw [beside.frames]
    rcases m.frames with _ | ⟨frame, _ | ⟨below, rest⟩⟩
    · exact .fail _
    · exact .fail _
    · dsimp only
      split
      · exact (Handler.endElement_unaware frame.handler name).bind fun _ _ =>
          pop_unaware.bind fun _ _ => .pure trivial
      · exact .fail _
  | alien => exact .fail _

theorem dispatchAll_unaware (unaware : Unaware R Any inner) (es : List Event) :
    Unaware R Any ((Handler.behaviourWith setup inner).dispatchAll es) := by
  induction es with
  | nil => exact .pure trivial
  | cons e es ih => exact (dispatch_unaware unaware e).bind fun _ _ => ih

theorem finish_unaware (ending : Option Fault) : Unaware R Any (finish ending) := by
  cases ending with
  | some fault => exact .fail fault
  | none =>
    refine .current fun m t beside => ?_
    have depth : t.depth = m.depth := congrArg List.length beside.frames
    rw [depth]
    split
    · refine pop_unaware.bind fun _ _ => .current fun m t beside => ?_
      have same : Workspace.diagram t.work = Workspace.diagram m.work := Desk.Similar.diagram beside.work
      rw [same]
      cases Workspace.diagram m.work with
      | none => exact .fail _
      | some diagram => exact (onWork_unaware (Desk.note_unaware _)).bind fun _ _ => .pure trivial
    · exact .fail _

theorem opened_since (m : Machine Handler Desk) (initial : Handler) (feed : Feed) :
    Beside (Desk.Since m.work.past m.work.colors.palette)
      (Machine.opened initial feed ⟨[], false, Desk.fresh m.work.colors.palette⟩)
      (m.opened initial feed) := by
  let fresh : Machine Handler Desk := ⟨[], false, Desk.fresh m.work.colors.palette⟩
  have desks : (m.opened initial feed).work = (fresh.opened initial feed).work.since m.work.past := by
    rw [opened_work, opened_work]
    simp [fresh, Desk.since, Desk.fresh, Desk.past, Tray.empty, Desk.cleared, Desk.addNotices,
      Resolver.reset, Resolver.ofPalette]
  refine ⟨rfl, rfl, rfl, desks, ?_⟩
  rw [opened_work]
  rfl

theorem leave_since (past : Past) (ran : Except Fault Diagram × Machine Handler Desk) :
    leave (ran.1, { ran.2 with work := ran.2.work.since past }) =
      ((leave ran).1, { (leave ran).2 with work := (leave ran).2.work.since past }) ∧
    (leave ran).2.reading = false ∧
    (leave ran).2.work.colors.palette = ran.2.work.colors.palette := by
  rcases ran with ⟨fault | diagram, t⟩
  · rcases fault.isInterrupt_cases with own | ⟨cause, rfl⟩
    · simp only [leave, stopped_of_fault _ own, true_and]
      exact ⟨rfl, rfl⟩
    · exact ⟨rfl, rfl, rfl⟩
  · exact ⟨rfl, rfl, rfl⟩

/-- A document is read as on a fresh desk of the same palette, in front of the past. -/
theorem parse_since (setup : Setup) (unaware : ∀ past p, Unaware (Desk.Since past p) Any inner)
    (initial : Handler) (feed : Feed) {m : Machine Handler Desk} (idle : m.reading = false) :
    ∃ result after,
      (Handler.behaviourWith setup inner).parse initial feed
        ⟨[], false, Desk.fresh m.work.colors.palette⟩ = (result, after) ∧
      (Handler.behaviourWith setup inner).parse initial feed m =
        (result, { after with work := after.work.since m.work.past }) ∧
      after.reading = false ∧ after.work.colors.palette = m.work.colors.palette := by
  let read := (Handler.behaviourWith setup inner).dispatchAll feed.events >>= fun _ => finish feed.ending
  have alike : Unaware (Desk.Since m.work.past m.work.colors.palette) Any read :=
    (dispatchAll_unaware (unaware _ _) feed.events).bind fun _ _ => finish_unaware feed.ending
  obtain ⟨same, beside, _⟩ := alike _ _ (opened_since m initial feed)
  let fresh := read (Machine.opened initial feed ⟨[], false, Desk.fresh m.work.colors.palette⟩)
  have ran : read (m.opened initial feed) =
      (fresh.1, { fresh.2 with work := fresh.2.work.since m.work.past }) := by
    refine Prod.ext same.symm (beside.eq.trans ?_)
    rw [beside.work.same]
  obtain ⟨left, idle', kept⟩ := leave_since m.work.past fresh
  refine ⟨(leave fresh).1, (leave fresh).2, parse_idle rfl initial feed, ?_, idle', kept.trans beside.work.palette⟩
  rw [parse_idle idle]
  change leave (read (m.opened initial feed)) = _
  rw [ran, left]

end Behaviour

theorem Handler.innerReading_unaware (setup : Setup) (R : Desk → Desk → Prop) :
    Machine.Unaware R Any (Handler.innerReading setup) := by
  intro m t beside
  rw [innerReading_refused setup beside.left, innerReading_refused setup beside.right]
  exact ⟨rfl, beside, fun _ _ => trivial⟩

/-! ## Errands -/

/-- What handlers of any kind can change while a document is read: all of a reader but its
configuration, the owners, the palette and the default colours. -/
structure Bench where
  types : TypeTable
  translations : Table String
  items : Array Item
  names : Table ItemId
  used : Table Color
  diagram : Option Diagram
  tray : Tray
  journal : List Notice

instance : Workspace Bench where
  cleared s := { s with items := #[], names := .empty, used := .empty, diagram := none }
  diagram := Bench.diagram
  abandoned s := { s with diagram := none }
  note n s := { s with journal := n :: s.journal }
  diagram_cleared _ := rfl
  diagram_abandoned _ := rfl

/-- A step on a reader between two documents, or the reading of one. Asking for shapes, owners,
translations or the diagram is no errand, for it changes nothing; asking for a colour is one. -/
inductive Errand : Type 1 where
  | parse (initial : Handler) (feed : Feed)
  /-- A document read by handlers of any kind, which may fail anywhere and change all there is on
  the bench, translations and types included. -/
  | parseBy {H : Type} (b : Behaviour H Bench) (initial : H) (feed : Feed)
  | setDiagram (diagram : Diagram)
  | pushHandler (element : Option String) (handler : Handler)
  | popHandler
  | place (drawing : Drawing)
  | registerShape (name : String) (id : ItemId)
  | setAttributes (id : ItemId) (as : Attributes)
  | dispatch (c : Container) (name : String) (as : Attributes)
  | findColor (value : String) (default : Color)
  | addTranslation (name type : String)
  | registerType (id : String) (recipe : Recipe)

namespace Reader

def bench (r : Reader) : Bench :=
  ⟨r.setup.types, r.setup.translations, r.desk.items, r.desk.names, r.desk.colors.used, r.desk.diagram,
    r.desk.tray, r.desk.journal⟩

/-- The reader after handlers of any kind were at its bench. What frames they leave, as they do when they are
interrupted, keep their elements; no reading comes back to the handlers in them. -/
def withBench {H : Type} (r : Reader) (after : Machine H Bench) : Reader :=
  let s := after.work
  { setup := { r.setup with types := s.types, translations := s.translations }
    machine := ⟨after.frames.map fun frame => ⟨frame.element, .ignore⟩, after.reading,
      ⟨s.items, s.names, ⟨r.desk.colors.palette, s.used⟩, s.diagram, s.tray, s.journal⟩⟩ }

/-- The reader after an errand, whether it succeeded or failed. -/
def run (r : Reader) : Errand → Reader
  | .parse initial feed => (Reader.parse initial feed r).2
  | .parseBy b initial feed =>
    if r.machine.reading then r
    else r.withBench (b.parse initial feed ⟨[], false, r.bench⟩).2
  | .setDiagram diagram => (setDiagram diagram r).2
  | .pushHandler element handler => (pushHandler element handler r).2
  | .popHandler => (popHandler r).2
  | .place drawing => (place drawing r).2
  | .registerShape name id => (registerShape name id r).2
  | .setAttributes id as => (setAttributes id as r).2
  | .dispatch c name as => (dispatch c name as r).2
  | .findColor value default =>
    let (_, colors, notices) := r.desk.colors.resolve value default
    { r with
      machine.work.colors := colors
      machine.work.journal := notices ++ r.desk.journal }
  | .addTranslation name type => (addTranslation name type r).2
  | .registerType id recipe => (registerType id recipe r).2

structure Kept (built r : Reader) : Prop where
  idle : r.machine.reading = false
  config : r.setup.config = built.setup.config
  owners : r.setup.owners = built.setup.owners
  defaults : r.setup.defaults = built.setup.defaults
  palette : r.desk.colors.palette = built.desk.colors.palette

theorem kept_onDesk {α : Type} {answer : α → Prop} {w : Work Desk α}
    (unaware : ∀ p, Desk.Unaware (Desk.Since ⟨[], .empty⟩ p) answer w) {built r : Reader} (kept : Kept built r) :
    Kept built (onDesk w r).2 := by
  obtain ⟨_, ⟨_, palette⟩, _⟩ := unaware r.desk.colors.palette r.desk _ ⟨rfl, rfl⟩
  exact ⟨kept.idle, kept.config, kept.owners, kept.defaults, palette.trans kept.palette⟩

theorem parse_since (initial : Handler) (feed : Feed) {r : Reader} (idle : r.machine.reading = false) :
    ∃ result after,
      (Handler.behaviour r.setup).parse initial feed ⟨[], false, Desk.fresh r.desk.colors.palette⟩ =
        (result, after) ∧
      Reader.parse initial feed r =
        (result, ⟨r.setup, { after with work := after.work.since r.desk.past }⟩) ∧
      after.reading = false ∧ after.work.colors.palette = r.desk.colors.palette := by
  obtain ⟨result, after, fresh, ran, idle', palette⟩ :=
    Behaviour.parse_since r.setup (fun _ _ => Handler.innerReading_unaware r.setup _) initial feed idle
  refine ⟨result, after, fresh, ?_, idle', palette⟩
  simp only [Reader.parse, onMachine, Work.within, Handler.behaviour, ran]
  rfl

theorem palette_resolve (colors : Resolver) (value : String) (default : Color) :
    (colors.resolve value default).2.1.palette = colors.palette := by
  unfold Resolver.resolve
  split
  · rfl
  · split <;> rfl

theorem kept_run {built r : Reader} (kept : Kept built r) (e : Errand) : Kept built (r.run e) := by
  cases e with
  | parse initial feed =>
    obtain ⟨result, after, _, ran, idle, palette⟩ := parse_since initial feed kept.idle
    simp only [run, ran]
    exact ⟨idle, kept.config, kept.owners, kept.defaults, palette.trans kept.palette⟩
  | parseBy b initial feed =>
    have idle := Behaviour.reading_of_parse (m := ⟨[], false, r.bench⟩) rfl b initial feed
    simp only [run, kept.idle]
    exact ⟨idle, kept.config, kept.owners, kept.defaults, kept.palette⟩
  | setDiagram diagram => exact kept_onDesk (fun _ => Desk.setDiagram_unaware diagram) kept
  | pushHandler element handler => exact ⟨kept.idle, kept.config, kept.owners, kept.defaults, kept.palette⟩
  | popHandler =>
    obtain ⟨setup, ⟨frames, reading, desk⟩⟩ := r
    cases frames <;> exact ⟨kept.idle, kept.config, kept.owners, kept.defaults, kept.palette⟩
  | place drawing => exact kept_onDesk (fun _ => Desk.place_unaware drawing) kept
  | registerShape name id => exact kept_onDesk (fun _ => Desk.registerName_unaware name id) kept
  | setAttributes id as => exact kept_onDesk (fun _ => Vocabulary.setAttributes_unaware r.setup as id) kept
  | dispatch c name as => exact kept_onDesk (fun _ => Vocabulary.dispatch_unaware r.setup c as name) kept
  | findColor value default =>
    have palette := palette_resolve r.desk.colors value default
    exact ⟨kept.idle, kept.config, kept.owners, kept.defaults, palette.trans kept.palette⟩
  | addTranslation name type => exact ⟨kept.idle, kept.config, kept.owners, kept.defaults, kept.palette⟩
  | registerType id recipe => exact ⟨kept.idle, kept.config, kept.owners, kept.defaults, kept.palette⟩

theorem kept_history {built r : Reader} (kept : Kept built r) (history : List Errand) :
    Kept built (history.foldl run r) := by
  induction history generalizing r with
  | nil => exact kept
  | cons e history ih => exact ih (kept_run kept e)

/-- Readers of one setup and one palette read alike, whatever was before. -/
theorem parse_alike {r s : Reader} (idle : r.machine.reading = false)
    (idle' : s.machine.reading = false) (setup : s.setup = r.setup)
    (palette : s.desk.colors.palette = r.desk.colors.palette) (initial : Handler) (feed : Feed) :
    let here := Reader.parse initial feed r
    let there := Reader.parse initial feed s
    here.1 = there.1 ∧ here.2.diagram? = there.2.diagram? ∧ here.2.desk.items = there.2.desk.items ∧
    here.2.desk.names = there.2.desk.names ∧ here.2.desk.colors = there.2.desk.colors ∧
    here.2.depth = there.2.depth ∧
    (∃ log, here.2.notices = r.notices ++ log ∧ there.2.notices = s.notices ++ log) ∧
    here.2.setup = r.setup ∧ there.2.setup = r.setup := by
  obtain ⟨result, after, base, ran, _, _⟩ := parse_since initial feed idle
  obtain ⟨result', after', base', ran', _, _⟩ := parse_since initial feed idle'
  rw [setup, palette, base, Prod.mk.injEq] at base'
  obtain ⟨rfl, rfl⟩ := base'
  dsimp only
  rw [ran, ran']
  refine ⟨rfl, rfl, rfl, rfl, rfl, rfl, ⟨after.work.journal.reverse, ?_, ?_⟩, rfl, setup⟩
  · exact List.reverse_append
  · exact List.reverse_append

/-- The types that a reader is built with are of no consequence to the rest of it. -/
theorem build_types {config : Configuration} {owners : Table Value} {types : TypeTable} {built : Reader}
    (start : Reader.build config owners types = .ok built) :
    built.setup.config = config ∧ built.setup.owners = owners ∧ built.machine.reading = false ∧
    ∀ other, Reader.build config owners other = .ok { built with setup.types := other } := by
  unfold Reader.build at start ⊢
  cases named : Palette.withExtra config.colors.entries with
  | error bad => simp [named] at start
  | ok palette =>
    simp only [named, except_ok_bind, except_pure, Except.ok.injEq] at start ⊢
    subst start
    exact ⟨rfl, rfl, rfl, fun _ => rfl⟩

/-- Reading does not depend on history. After any errands a reader reads any source as a reader does
that is built for the purpose, with the types and translations there are by then: the diagram or
the fault is the same, and so are the notices of the reading, all objects, their names, the colours
in use and the depth; the reader's setup stays as it is. -/
theorem parse_after_history {config : Configuration} {owners : Table Value} {types : TypeTable}
    {built : Reader} (start : Reader.build config owners types = .ok built) (history : List Errand)
    (feed : Feed) :
    let r := history.foldl run built
    r.setup.config = config ∧ r.setup.owners = owners ∧
    ∃ new, Reader.build config owners r.setup.types = .ok new ∧
      let fresh : Reader := { new with setup.translations := r.setup.translations }
      let here := Reader.parse .root feed r
      let there := Reader.parse .root feed fresh
      here.1 = there.1 ∧ here.2.diagram? = there.2.diagram? ∧ here.2.desk.items = there.2.desk.items ∧
      here.2.desk.names = there.2.desk.names ∧ here.2.desk.colors = there.2.desk.colors ∧
      here.2.depth = there.2.depth ∧
      (∃ log, here.2.notices = r.notices ++ log ∧ there.2.notices = fresh.notices ++ log) ∧
      here.2.setup = r.setup ∧ there.2.setup = r.setup := by
  intro r
  obtain ⟨config', owners', idle, other⟩ := build_types start
  have kept : Kept built r := kept_history ⟨idle, rfl, rfl, rfl, rfl⟩ history
  refine ⟨kept.config.trans config', kept.owners.trans owners', _, other r.setup.types, ?_⟩
  let fresh : Reader :=
    { built with setup := { built.setup with types := r.setup.types, translations := r.setup.translations } }
  have setup : fresh.setup = r.setup := by
    simp only [fresh, ← kept.config, ← kept.owners, ← kept.defaults]
  have palette : fresh.desk.colors.palette = r.desk.colors.palette := kept.palette.symm
  exact parse_alike (s := fresh) kept.idle idle setup palette .root feed

/-- A document that breaks off in an ellipse, then a diagram, a name, a frame, a translation and a
type from outside of any document. -/
def brokenOff : List Errand := [
  .parse .root (.ofEvents [.start "pgml" [], .start "ellipse" [("name", "a"), ("strokecolor", "red")]]),
  .setDiagram (.named "left over"),
  .registerShape "b" ⟨0⟩,
  .pushHandler none .flat,
  .addTranslation "box" "rectangle",
  .registerType "star" (.borrowed "polygon")]

theorem parse_after_brokenOff :
    let feed : Feed := .ofEvents [.start "pgml" [], .start "text" [("description", "box")], .finish "text",
      .finish "pgml"]
    ∃ built new, Reader.build .initial .empty .builtin = .ok built ∧
      let r := brokenOff.foldl run built
      Reader.build .initial .empty r.setup.types = .ok new ∧
      (Reader.parse .root feed r).1 =
        (Reader.parse .root feed { new with setup.translations := r.setup.translations }).1 ∧
      (Reader.parse .root feed r).2.desk.items.map (·.kind) = #["Rectangle"] ∧
      (Reader.parse .root feed r).2.desk.names.names = [] := by
  intro feed
  obtain ⟨built, start⟩ : ∃ built, Reader.build .initial .empty .builtin = .ok built := ⟨_, rfl⟩
  obtain ⟨_, _, new, again, same, _⟩ := parse_after_history start brokenOff feed
  refine ⟨built, new, start, again, same, ?_, ?_⟩
  · cases start
    decide +kernel
  · cases start
    decide +kernel

end Reader

end Pgml
