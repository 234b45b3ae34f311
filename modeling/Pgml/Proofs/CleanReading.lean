import Pgml.Proofs.FrameDiscipline

/-! What handlers of any kind leave as it is, and what reading a document leaves. An invariant that does
not look at the frames and that no callback disturbs holds from event to event. However a document ends,
the machine does not read then. It has no frames either, and the diagram that was answered, if any, unless an
interrupt ended the document; this leaves the frames and the diagram that there were. -/
namespace Pgml

open Work (Any Yields)

/-- Workspaces whose notices do not touch the diagram. -/
class Workspace.Lawful (S : Type) [Workspace S] : Prop where
  diagram_note : ∀ (n : Notice) (s : S), Workspace.diagram (Workspace.note n s) = Workspace.diagram s

namespace Machine

variable {H S : Type}

/-- A machine between two documents, the first of which ended by itself. -/
structure Clean [Workspace S] (result : Except Fault Diagram) (m : Machine H S) : Prop where
  frames : m.frames = []
  idle : m.reading = false
  diagram : Workspace.diagram m.work = result.toOption

end Machine

namespace Behaviour

open Machine

variable {H S : Type} {b other : Behaviour H S} {invariant : Machine H S → Prop}

/-- What no callback disturbs, whatever the frames are. -/
structure Steady (b : Behaviour H S) (invariant : Machine H S → Prop) : Prop where
  frames : ∀ m frames, invariant m → invariant { m with frames := frames }
  startElement : ∀ h name as, Yields invariant Any (b.startElement h name as)
  characters : ∀ h text, Yields invariant Any (b.characters h text)
  endElement : ∀ h name, Yields invariant Any (b.endElement h name)

/-- Two behaviours that are the same as long as an invariant holds. -/
structure Agrees (invariant : Machine H S → Prop) (b other : Behaviour H S) : Prop where
  absorb : other.absorb = b.absorb
  ignore : other.ignore = b.ignore
  startElement : ∀ h name as m, invariant m → b.startElement h name as m = other.startElement h name as m
  characters : ∀ h text m, invariant m → b.characters h text m = other.characters h text m
  endElement : ∀ h name m, invariant m → b.endElement h name m = other.endElement h name m

namespace Steady

variable (steady : b.Steady invariant)

include steady

theorem push (element : Option String) (h : H) : Yields invariant Any (Machine.push element h : Step H S Unit) :=
  fun m holds => ⟨steady.frames m _ holds, fun _ _ => trivial⟩

theorem pop : Yields invariant Any (Machine.pop : Step H S H) := by
  rintro ⟨frames, reading, work⟩ holds
  cases frames with
  | nil => exact ⟨holds, fun _ _ => trivial⟩
  | cons frame rest => exact ⟨steady.frames _ rest holds, fun _ _ => trivial⟩

/-- One event. -/
theorem dispatch (e : Event) : Yields invariant Any (b.dispatch e) := by
  intro m holds
  cases e with
  | start name as =>
    cases frames : m.frames with
    | nil => simp [Behaviour.dispatch, handleStart, Work.bind_apply, frames, holds]
    | cons frame rest =>
      rw [dispatch_start frames]
      exact (steady.startElement frame.handler name as).bind (fun _ _ => steady.push _ _) m holds
  | characters text =>
    cases frames : m.frames with
    | nil => simp [Behaviour.dispatch, handleCharacters, Work.bind_apply, frames, holds]
    | cons frame rest =>
      rw [dispatch_characters frames]
      exact steady.characters frame.handler text _ (steady.frames m _ holds)
  | finish name =>
    rcases frames : m.frames with _ | ⟨frame, _ | ⟨below, rest⟩⟩
    · simp [Behaviour.dispatch, handleFinish, Work.bind_apply, frames, holds]
    · simp [Behaviour.dispatch, handleFinish, Work.bind_apply, frames, holds]
    · by_cases same : frame.element = some name
      · rw [dispatch_finish frames same]
        exact (steady.endElement frame.handler name).bind
          (fun _ _ => steady.pop.bind fun _ _ => .pure trivial) m holds
      · simp [Behaviour.dispatch, handleFinish, Work.bind_apply, frames, same, holds]
  | alien => exact ⟨holds, by simp [Behaviour.dispatch]⟩

theorem dispatchAll (es : List Event) : Yields invariant Any (b.dispatchAll es) := by
  induction es with
  | nil => exact .pure trivial
  | cons e es ih => exact (steady.dispatch e).bind fun _ _ => ih

variable (agrees : Agrees invariant b other)

include agrees

theorem dispatch_agrees (e : Event) (m : Machine H S) (holds : invariant m) :
    b.dispatch e m = other.dispatch e m := by
  cases e with
  | start name as =>
    cases frames : m.frames with
    | nil => simp [Behaviour.dispatch, handleStart, Work.bind_apply, frames]
    | cons frame rest =>
      rw [dispatch_start frames, dispatch_start frames, agrees.ignore]
      exact Work.bind_congr (agrees.startElement _ _ _ m holds) fun _ _ _ => rfl
  | characters text =>
    cases frames : m.frames with
    | nil => simp [Behaviour.dispatch, handleCharacters, Work.bind_apply, frames]
    | cons frame rest =>
      rw [dispatch_characters frames, dispatch_characters frames, agrees.absorb]
      exact agrees.characters _ _ _ (steady.frames m _ holds)
  | finish name =>
    rcases frames : m.frames with _ | ⟨frame, _ | ⟨below, rest⟩⟩
    · simp [Behaviour.dispatch, handleFinish, Work.bind_apply, frames]
    · simp [Behaviour.dispatch, handleFinish, Work.bind_apply, frames]
    · by_cases same : frame.element = some name
      · rw [dispatch_finish frames same, dispatch_finish frames same]
        exact Work.bind_congr (agrees.endElement _ _ m holds) fun _ _ _ => rfl
      · simp [Behaviour.dispatch, handleFinish, Work.bind_apply, frames, same]
  | alien => rfl

theorem dispatchAll_agrees (es : List Event) (m : Machine H S) (holds : invariant m) :
    b.dispatchAll es m = other.dispatchAll es m := by
  induction es generalizing m with
  | nil => rfl
  | cons e es ih =>
    refine Work.bind_congr (steady.dispatch_agrees agrees e m holds) fun a t ran => ih t ?_
    have kept := (steady.dispatch e m holds).1
    rwa [ran] at kept

/-- Behaviours that agree from the start of a document on read it alike. -/
theorem parse_agrees [Workspace S] (initial : H) (feed : Feed) (m : Machine H S)
    (start : invariant (m.opened initial feed)) : b.parse initial feed m = other.parse initial feed m :=
  parse_congr rfl rfl (steady.dispatchAll_agrees agrees feed.events _ start)

end Steady

/-! ## What a document leaves -/

variable [Workspace S] {m : Machine H S}

theorem reading_leave (ran : Except Fault Diagram × Machine H S) : (leave ran).2.reading = false := by
  rcases ran with ⟨fault | diagram, t⟩
  · exact t.reading_stopped fault
  · rfl

/-- No way out of reading leaves the machine reading. -/
theorem reading_of_parse (idle : m.reading = false) (b : Behaviour H S) (initial : H) (feed : Feed) :
    (b.parse initial feed m).2.reading = false := by
  rw [parse_idle idle]
  exact reading_leave _

/-- Every way out of reading but an interrupt leaves a clean machine. -/
theorem clean_of_parse [Workspace.Lawful S] (idle : m.reading = false) {initial : H} {feed : Feed}
    (own : ∀ cause, (b.parse initial feed m).1 ≠ .error (.interrupt cause)) :
    Clean (b.parse initial feed m).1 (b.parse initial feed m).2 := by
  rcases read : b.parse initial feed m with ⟨fault | diagram, t⟩
  · have still : fault.isInterrupt = false := by
      refine fault.isInterrupt_cases.resolve_right ?_
      rintro ⟨cause, rfl⟩
      exact own cause (congrArg Prod.fst read)
    rw [parse_idle idle] at read
    rcases ran : (b.dispatchAll feed.events >>= fun _ => finish feed.ending) (m.opened initial feed) with
      ⟨other | diagram, v⟩
    · obtain ⟨rfl, rfl⟩ : other = fault ∧ v.stopped other = t := by simpa [ran, leave] using read
      rw [v.stopped_of_fault still]
      exact ⟨rfl, rfl, Workspace.diagram_abandoned v.work⟩
    · simp [ran, leave] at read
  · obtain ⟨u, _, _, set, frames, idle, work⟩ := closed_of_parse read
    refine ⟨frames, idle, ?_⟩
    rw [work, Workspace.Lawful.diagram_note, set]
    rfl

/-- What reading comes to is what the events and the source come to, an interrupt included. -/
theorem result_of_parse (idle : m.reading = false) (b : Behaviour H S) (initial : H) (feed : Feed) :
    (b.parse initial feed m).1 = (b.readAll initial feed { m with reading := true }).1 := by
  simp only [parse, idle]
  rcases b.readAll initial feed { m with reading := true } with ⟨_ | _, _⟩ <;> rfl

/-- An interrupt leaves the machine as it stands when it comes, but for the mark of reading. -/
theorem machine_of_interrupt (idle : m.reading = false) {initial : H} {feed : Feed} {cause : Interrupt}
    (broken : (b.parse initial feed m).1 = .error (.interrupt cause)) :
    (b.parse initial feed m).2 = { (b.readAll initial feed { m with reading := true }).2 with reading := false } := by
  rw [result_of_parse idle] at broken
  rcases read : b.readAll initial feed { m with reading := true } with ⟨fault | _, t⟩
  · obtain rfl : fault = .interrupt cause := by simpa [read] using broken
    simp [parse, idle, read, Machine.stopped_interrupt]
  · simp [read] at broken

end Behaviour

end Pgml
