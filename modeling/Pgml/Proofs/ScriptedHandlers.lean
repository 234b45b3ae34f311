import Pgml.Proofs.DocumentHandlers
import Pgml.Proofs.CleanReading

/-! Handlers of any kind. A script is all that a callback can do with the reader that calls it: look at
it, work on what it keeps, push and pop handlers, set the diagram, start to read another document, and go
on after any of these however it ended. Whatever the scripts, a reading that is started inside another one
is refused and leaves no trace. -/
namespace Pgml

open Work (Any Yields)

instance : Workspace.Lawful Desk := ⟨fun _ _ => rfl⟩

/-- Work that may fail, and goes on either way with what came of it. -/
def Work.attempt {σ α : Type} (w : Work σ α) : Work σ (Except Fault α) := fun s =>
  let (result, t) := w s
  (.ok result, t)

/-- What a reader keeps apart from the place of its diagram: the diagrams that were made, among others. -/
class Ground (W : Type) where
  cleared : W → W
  note : Notice → W → W
  diagramAt : W → ItemId → Diagram
  diagramAt_note : ∀ n w id, diagramAt (note n w) id = diagramAt w id

/-- What handlers work on. -/
structure Slate (W : Type) where
  diagram : Option ItemId
  /-- All diagrams that were set since the document was opened. Nothing reads it. -/
  history : List ItemId
  rest : W
  deriving DecidableEq, Repr

namespace Slate

variable {W : Type}

instance [Ground W] : Workspace (Slate W) where
  cleared s := ⟨none, [], Ground.cleared s.rest⟩
  diagram s := s.diagram.map (Ground.diagramAt s.rest)
  abandoned s := { s with diagram := none }
  note n s := { s with rest := Ground.note n s.rest }
  diagram_cleared _ := rfl
  diagram_abandoned _ := rfl

instance [Ground W] : Workspace.Lawful (Slate W) where
  diagram_note n s := congrArg (fun f => Option.map f s.diagram) (funext (Ground.diagramAt_note n s.rest))

/-- The diagram can be set only once. -/
def setDiagram (id : ItemId) : Work (Slate W) Unit := fun s =>
  match s.diagram with
  | some _ => (.error (.misuse .diagramSet), s)
  | none => (.ok (), { s with diagram := some id, history := s.history ++ [id] })

/-- A slate whose diagram is the only one that was set. -/
def Told (s : Slate W) : Prop := s.history = s.diagram.toList

theorem told_setDiagram {s : Slate W} (told : s.Told) (id : ItemId) : (setDiagram id s).2.Told := by
  unfold setDiagram
  cases set : s.diagram with
  | some other => exact told
  | none =>
    have none : s.history = [] := by simpa [Told, set] using told
    simp [Told, none]

end Slate

inductive Script (H W α : Type) where
  | done (a : α)
  | raise (e : Fault)
  | look (next : Machine H (Slate W) → Script H W α)
  | work (f : W → W) (next : Script H W α)
  | push (element : Option String) (handler : H) (next : Script H W α)
  | pop (next : Except Fault H → Script H W α)
  | setDiagram (id : ItemId) (next : Except Fault Unit → Script H W α)
  /-- To read a document with an initial handler of its own. -/
  | parse (initial : H) (feed : Feed) (next : Except Fault Diagram → Script H W α)

namespace Script

variable {H W α : Type}

/-- What a script does to a machine. The behaviour is that of all handlers of a reading that it starts. -/
def run [Ground W] (nested : Behaviour H (Slate W)) : Script H W α → Step H (Slate W) α
  | done a => pure a
  | raise e => .fail e
  | look next => fun m => run nested (next m) m
  | work f next => do
    .update fun m => { m with work.rest := f m.work.rest }
    run nested next
  | push element handler next => do
    Machine.push element handler
    run nested next
  | pop next => do
    let popped ← Machine.pop.attempt
    run nested (next popped)
  | setDiagram id next => do
    let set ← (Machine.onWork (Slate.setDiagram id)).attempt
    run nested (next set)
  | parse initial feed next => do
    let read ← (nested.parse initial feed).attempt
    run nested (next read)

/-- The script that never starts to read, and takes each time the refusal instead. -/
def unnested : Script H W α → Script H W α
  | done a => done a
  | raise e => raise e
  | look next => look fun m => (next m).unnested
  | work f next => work f next.unnested
  | push element handler next => push element handler next.unnested
  | pop next => pop fun popped => (next popped).unnested
  | setDiagram id next => setDiagram id fun set => (next set).unnested
  | parse _ _ next => (next (.error (.misuse .alreadyReading))).unnested

end Script

/-- A machine that reads and whose diagram is the only one that was set. -/
def Machine.Told {H W : Type} (m : Machine H (Slate W)) : Prop := m.reading = true ∧ m.work.Told

namespace Script

variable {H W α : Type} [Ground W] (nested other : Behaviour H (Slate W))

theorem attempt_refused {m : Machine H (Slate W)} (reading : m.reading = true) (initial : H) (feed : Feed) :
    (nested.parse initial feed).attempt m = (.ok (.error (.misuse .alreadyReading)), m) := by
  simp [Work.attempt, Behaviour.parse, reading]

/-- A callback's run keeps the mark of reading, and its nested readings make no difference. -/
theorem run_unnested (script : Script H W α) (m : Machine H (Slate W)) (told : m.Told) :
    (script.run nested m).2.Told ∧ script.run nested m = script.unnested.run other m := by
  induction script generalizing m with
  | done a => exact ⟨told, rfl⟩
  | raise e => exact ⟨told, rfl⟩
  | look next ih => exact ih m m told
  | work f next ih => exact ih _ told
  | push element handler next ih => exact ih _ told
  | pop next ih =>
    obtain ⟨frames, reading, work⟩ := m
    cases frames with
    | nil => exact ih _ _ told
    | cons frame rest => exact ih _ _ told
  | setDiagram id next ih => exact ih _ _ ⟨told.1, Slate.told_setDiagram told.2 id⟩
  | parse initial feed next ih =>
    obtain ⟨kept, same⟩ := ih (.error (.misuse .alreadyReading)) m told
    have refused := attempt_refused nested told.1 initial feed
    have ran : (Script.parse initial feed next).run nested m =
        (next (.error (.misuse .alreadyReading))).run nested m := Work.bind_ok refused
    rw [ran]
    exact ⟨kept, same⟩

end Script

/-- Handlers whose callbacks are scripts. -/
structure Scripts (H W : Type) where
  startElement : H → String → Attributes → Script H W (Option H)
  absorb : H → String → H
  characters : H → String → Script H W Unit
  endElement : H → String → Script H W Unit
  ignore : H

namespace Scripts

variable {H W : Type} [Ground W]

def behaviour (scripts : Scripts H W) (nested : Behaviour H (Slate W)) : Behaviour H (Slate W) where
  startElement h name as := (scripts.startElement h name as).run nested
  absorb := scripts.absorb
  characters h text := (scripts.characters h text).run nested
  endElement h name := (scripts.endElement h name).run nested
  ignore := scripts.ignore

def unnested (scripts : Scripts H W) : Scripts H W where
  startElement h name as := (scripts.startElement h name as).unnested
  absorb := scripts.absorb
  characters h text := (scripts.characters h text).unnested
  endElement h name := (scripts.endElement h name).unnested
  ignore := scripts.ignore

variable (scripts : Scripts H W) (nested other : Behaviour H (Slate W))

theorem steady : (scripts.behaviour nested).Steady Machine.Told where
  frames _ _ told := told
  startElement _ _ _ m told := ⟨(Script.run_unnested nested nested _ m told).1, fun _ _ => trivial⟩
  characters _ _ m told := ⟨(Script.run_unnested nested nested _ m told).1, fun _ _ => trivial⟩
  endElement _ _ m told := ⟨(Script.run_unnested nested nested _ m told).1, fun _ _ => trivial⟩

theorem agrees : Behaviour.Agrees Machine.Told (scripts.behaviour nested) (scripts.unnested.behaviour other) where
  absorb := rfl
  ignore := rfl
  startElement _ _ _ m told := (Script.run_unnested nested other _ m told).2
  characters _ _ m told := (Script.run_unnested nested other _ m told).2
  endElement _ _ m told := (Script.run_unnested nested other _ m told).2

theorem told_opened (initial : H) (feed : Feed) (m : Machine H (Slate W)) :
    (m.opened initial feed).Told := by
  refine ⟨rfl, ?_⟩
  have noted (notices : List Notice) (s : Slate W) (told : s.Told) :
      (notices.foldl (fun s n => Workspace.note n s) s).Told := by
    induction notices generalizing s with
    | nil => exact told
    | cons n notices ih => exact ih _ told
  exact noted feed.opening _ rfl

/-- The diagram of a document is the only one that was set while the document was read. -/
theorem set_of_parse {initial : H} {feed : Feed} {m after : Machine H (Slate W)} {diagram : Diagram}
    (read : (scripts.behaviour nested).parse initial feed m = (.ok diagram, after)) :
    ∃ id, after.work.history = [id] ∧ after.work.diagram = some id ∧
      Ground.diagramAt after.work.rest id = diagram := by
  obtain ⟨t, taken, _, set, _, _, work⟩ := Behaviour.closed_of_parse read
  obtain ⟨_, told⟩ : t.Told := by
    have kept := ((scripts.steady nested).dispatchAll feed.events _ (told_opened initial feed m)).1
    rwa [taken] at kept
  obtain ⟨id, there, found⟩ := Option.map_eq_some_iff.mp set
  refine ⟨id, ?_, ?_, ?_⟩
  · rw [work]
    have history : t.work.history = t.work.diagram.toList := told
    rw [there] at history
    exact history
  · rw [work]
    exact there
  · rw [work, ← found]
    exact Ground.diagramAt_note _ _ id

end Scripts

namespace Behaviour

/-- A reading is complete in itself. No way out of it leaves the machine reading, so that the next reading is
not refused, and that one finds nothing of the frames that may be left. Every way out leaves a clean machine,
unless an interrupt comes from a handler or from the source: this leaves the frames and the diagram as they are
then. A reading that is started on a machine that reads is refused and changes nothing; so whatever handlers do,
the document is read as if they had started none, and the diagram that comes of it is the only one that was set
meanwhile. -/
theorem parse_self_contained {H S W : Type} [Workspace S] [Workspace.Lawful S] [Ground W] :
    (∀ (b : Behaviour H S) initial feed (m : Machine H S), m.reading = false →
      let read := b.readAll initial feed { m with reading := true }
      let result := (b.parse initial feed m).1
      let after := (b.parse initial feed m).2
      result = read.1 ∧ after.reading = false ∧
      ((∀ cause, result ≠ .error (.interrupt cause)) → Machine.Clean result after) ∧
      (∀ cause, result = .error (.interrupt cause) → after = { read.2 with reading := false }) ∧
      ∀ (next : Behaviour H S) again more,
        next.parse again more after = leave (next.readAll again more { after with reading := true }) ∧
        ∀ frames, next.parse again more { after with frames := frames } = next.parse again more after) ∧
    (∀ (b : Behaviour H S) initial feed (m : Machine H S), m.reading = true →
      b.parse initial feed m = (.error (.misuse .alreadyReading), m)) ∧
    ∀ (scripts : Scripts H W) (nested other : Behaviour H (Slate W)) initial feed m,
      (scripts.behaviour nested).parse initial feed m =
        (scripts.unnested.behaviour other).parse initial feed m ∧
      ∀ diagram after, (scripts.behaviour nested).parse initial feed m = (.ok diagram, after) →
        ∃ id, after.work.history = [id] ∧ after.work.diagram = some id ∧
          Ground.diagramAt after.work.rest id = diagram := by
  refine ⟨?_, ?_, ?_⟩
  · intro b initial feed m idle read result after
    have still : after.reading = false := reading_of_parse idle b initial feed
    refine ⟨result_of_parse idle b initial feed, still, clean_of_parse idle,
      fun cause broken => machine_of_interrupt idle broken, fun next again more => ?_⟩
    have later := parse_idle (b := next) still again more
    exact ⟨later, fun frames => (parse_idle (by exact still) again more).trans later.symm⟩
  · intro b initial feed m reading
    simp [parse, reading]
  · intro scripts nested other initial feed m
    refine ⟨?_, fun diagram after read => scripts.set_of_parse nested read⟩
    exact (scripts.steady nested).parse_agrees (scripts.agrees nested other) initial feed m
      (Scripts.told_opened initial feed m)

instance : Ground (List Diagram) where
  cleared _ := []
  note _ diagrams := diagrams
  diagramAt diagrams id := diagrams[id.index]?.getD (.named "")
  diagramAt_note _ _ _ := rfl

/-- A handler that starts another reading at every element, shrugs at the refusal, and makes a diagram if
there is none. -/
def meddler : Scripts Unit (List Diagram) where
  startElement _ name _ := .parse () (.ofEvents []) fun
    | .ok _ => .raise .unable
    | .error _ => .look fun m =>
      if m.work.diagram.isSome then .done none
      else .work (· ++ [.named name]) (.setDiagram ⟨0⟩ fun _ => .done none)
  absorb _ _ := ()
  characters _ _ := .done ()
  endElement _ _ := .done ()
  ignore := ()

/-- Handlers that do nothing. -/
def inert {H S : Type} (h : H) : Behaviour H S where
  startElement _ _ _ := pure none
  absorb h _ := h
  characters _ _ := pure ()
  endElement _ _ := pure ()
  ignore := h

/-- The same handler, but for elements named `b`, at which the program is to end. -/
def quitter : Scripts Unit (List Diagram) where
  startElement h name as := if name = "b" then .raise (.interrupt .exit) else meddler.startElement h name as
  absorb := meddler.absorb
  characters := meddler.characters
  endElement := meddler.endElement
  ignore := meddler.ignore

/-- Not every way out leaves a clean machine: where the program is to end, two frames and a diagram are left. -/
theorem parse_broken_off :
    let b : Behaviour Unit (Slate (List Diagram)) := quitter.behaviour (inert ())
    let feed : Feed := .ofEvents [.start "a" [], .start "b" [], .finish "b", .finish "a"]
    let start : Machine Unit (Slate (List Diagram)) := ⟨[], false, ⟨none, [], []⟩⟩
    ∃ after, b.parse () feed start = (.error (.interrupt .exit), after) ∧ after.depth = 2 ∧
      Workspace.diagram after.work = some (.named "a") ∧
      ¬ Machine.Clean (.error (.interrupt .exit)) after := by
  intro b feed start
  refine ⟨_, rfl, rfl, rfl, fun clean => ?_⟩
  exact absurd clean.frames (by decide)

theorem parse_self_contained_of_meddler :
    let b : Behaviour Unit (Slate (List Diagram)) := meddler.behaviour (inert ())
    let c : Behaviour Unit (Slate (List Diagram)) := quitter.behaviour (inert ())
    let feed : Feed := .ofEvents [.start "a" [], .start "b" [], .finish "b", .finish "a"]
    let start : Machine Unit (Slate (List Diagram)) := ⟨[⟨some "left", ()⟩], false, ⟨some ⟨4⟩, [⟨4⟩], []⟩⟩
    (∃ after, b.parse () feed start = (.ok (.named "a"), after) ∧ after.frames = [] ∧
      after.reading = false ∧ after.work.history = [⟨0⟩] ∧
      (meddler.unnested.behaviour (inert ())).parse () feed start = (.ok (.named "a"), after) ∧
      b.parse () feed { after with reading := true } =
        (.error (.misuse .alreadyReading), { after with reading := true })) ∧
    ∃ after, c.parse () feed start = (.error (.interrupt .exit), after) ∧ after.depth = 2 ∧
      after.reading = false ∧ b.parse () feed after = b.parse () feed { after with frames := [] } := by
  intro b c feed start
  have ran : b.parse () feed start =
      (.ok (.named "a"), ⟨[], false, ⟨some ⟨0⟩, [⟨0⟩], [.named "a"]⟩⟩) := rfl
  obtain ⟨ways, refused, scripted⟩ :=
    parse_self_contained (H := Unit) (S := Slate (List Diagram)) (W := List Diagram)
  constructor
  · have clean := (ways b () feed start rfl).2.2.1 (by simp [ran])
    obtain ⟨same, set⟩ := scripted meddler (inert ()) (inert ()) () feed start
    obtain ⟨id, history, place, _⟩ := set _ _ ran
    rw [ran] at clean
    refine ⟨_, ran, clean.frames, clean.idle, ?_, same.symm.trans ran, refused b () feed _ rfl⟩
    obtain rfl : ⟨0⟩ = id := Option.some.inj place
    exact history
  · obtain ⟨_, still, _, _, next⟩ := ways c () feed start rfl
    exact ⟨_, rfl, rfl, still, ((next b () feed).2 []).symm⟩

end Behaviour

end Pgml
