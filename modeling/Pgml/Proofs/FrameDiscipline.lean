import Pgml.Proofs.Nesting
import Pgml.Proofs.Work

/-! Handlers that leave the machine's frames alone. Under such handlers the frames are those of
the open elements over the frame of the initial handler, so that a machine checks the nesting of
elements exactly: it refuses what `Nesting.follow` refuses, for the same cause. -/
namespace Pgml

namespace Machine

variable {H S α : Type}

/-- A step that leaves the frames as they are while a document is read, and whose answers are
of a kind. -/
def Leaves (answer : α → Prop) (step : Step H S α) : Prop :=
  ∀ m : Machine H S, m.reading = true →
    (step m).2.frames = m.frames ∧ (step m).2.reading = true ∧ ∀ a, (step m).1 = .ok a → answer a

theorem Leaves.of_eq {answer : α → Prop} {step : Step H S α} {m t : Machine H S}
    {result : Except Fault α} (leaves : Leaves answer step) (reading : m.reading = true)
    (ran : step m = (result, t)) :
    t.frames = m.frames ∧ t.reading = true ∧ ∀ a, result = .ok a → answer a := by
  simpa [ran] using leaves m reading

theorem Leaves.mono {answer more : α → Prop} {step : Step H S α} (leaves : Leaves answer step)
    (weaker : ∀ a, answer a → more a) : Leaves more step := by
  intro m reading
  obtain ⟨frames, there, answers⟩ := leaves m reading
  exact ⟨frames, there, fun a same => weaker a (answers a same)⟩

def Succeeds (step : Step H S α) : Prop :=
  ∀ m : Machine H S, m.reading = true → ∃ a, (step m).1 = .ok a

/-- A step that no interrupt ends. -/
def Unbroken (step : Step H S α) : Prop :=
  ∀ m : Machine H S, m.reading = true → ∀ cause, (step m).1 ≠ .error (.interrupt cause)

theorem Leaves.ends {answer : α → Prop} {step : Step H S α} (leaves : Leaves answer step)
    (unbroken : Unbroken step) :
    Work.Ends (fun m => m.reading = true) (fun e _ => e.isInterrupt = false) step
      fun a m => answer a ∧ m.reading = true := by
  intro m reading
  obtain ⟨_, there, answers⟩ := leaves m reading
  have own := unbroken m reading
  rcases ran : step m with ⟨e | a, t⟩
  · refine e.isInterrupt_cases.resolve_right ?_
    rintro ⟨cause, rfl⟩
    exact own cause (by rw [ran])
  · rw [ran] at there answers
    exact ⟨answers a rfl, there⟩

/-- Machines that read and differ in their frames at most. -/
structure Apart (m t : Machine H S) : Prop where
  left : m.reading = true
  right : t.reading = true
  work : m.work = t.work

/-- The machine when the first event of a document comes. -/
def opened [Workspace S] (initial : H) (feed : Feed) (m : Machine H S) : Machine H S :=
  ⟨[⟨none, initial⟩], true,
    feed.opening.foldl (fun s n => Workspace.note n s) (Workspace.cleared m.work)⟩

/-- The frames of some open elements, the innermost first, over the frame of the initial
handler; all handlers are of one class. -/
structure Stands (calm : H → Prop) (names : List String) (m : Machine H S) : Prop where
  reading : m.reading = true
  elements : m.frames.map (·.element) = names.map some ++ [none]
  handlers : ∀ frame ∈ m.frames, calm frame.handler

namespace Stands

variable {calm : H → Prop} {names : List String} {m : Machine H S}

theorem opened [Workspace S] {initial : H} (tame : calm initial) (feed : Feed) (m : Machine H S) :
    Stands calm [] (m.opened initial feed) :=
  ⟨rfl, rfl, by simpa [Machine.opened] using tame⟩

theorem bottom (stands : Stands calm [] m) : ∃ frame, m.frames = [frame] := by
  have elements := stands.elements
  simp only [List.map_nil, List.nil_append, List.map_eq_singleton_iff] at elements
  obtain ⟨frame, frames, _⟩ := elements
  exact ⟨frame, frames⟩

theorem inside {name : String} (stands : Stands calm (name :: names) m) :
    ∃ frame below rest, m.frames = frame :: below :: rest ∧ frame.element = some name ∧
      (below :: rest).map (·.element) = names.map some ++ [none] := by
  have elements := stands.elements
  simp only [List.map_cons, List.cons_append, List.map_eq_cons_iff] at elements
  obtain ⟨frame, more, frames, top, under⟩ := elements
  cases more with
  | nil => simp at under
  | cons below rest => exact ⟨frame, below, rest, frames, top, under⟩

theorem top (stands : Stands calm names m) :
    ∃ frame rest, m.frames = frame :: rest ∧ calm frame.handler := by
  cases names with
  | nil =>
    obtain ⟨frame, frames⟩ := stands.bottom
    exact ⟨frame, [], frames, stands.handlers frame (by simp [frames])⟩
  | cons name names =>
    obtain ⟨frame, below, rest, frames, _⟩ := stands.inside
    exact ⟨frame, below :: rest, frames, stands.handlers frame (by simp [frames])⟩

theorem depth (stands : Stands calm names m) : m.depth = names.length + 1 := by
  have lengths := congrArg List.length stands.elements
  simpa [Machine.depth] using lengths

end Stands

end Machine

namespace Behaviour

open Machine

variable {H S : Type}

/-- A class of handlers that neither push nor pop frames. Whatever they answer is of the class
again. -/
structure LeavesFrames (b : Behaviour H S) (calm : H → Prop) : Prop where
  ignore : calm b.ignore
  absorb : ∀ h text, calm h → calm (b.absorb h text)
  startElement : ∀ h name as, calm h →
    Leaves (fun next => ∀ child, next = some child → calm child) (b.startElement h name as)
  characters : ∀ h text, calm h → Leaves (fun _ => True) (b.characters h text)
  endElement : ∀ h name, calm h → Leaves (fun _ => True) (b.endElement h name)

theorem LeavesFrames.child {b : Behaviour H S} {calm : H → Prop} (leaves : b.LeavesFrames calm)
    {next : Option H} (answered : ∀ child, next = some child → calm child) :
    calm (next.getD b.ignore) := by
  cases next with
  | none => exact leaves.ignore
  | some h => exact answered h rfl

/-- A class of handlers that do not look at the frames either. -/
structure Blind (b : Behaviour H S) (calm : H → Prop) : Prop where
  startElement : ∀ h name as, calm h →
    Work.Alike Apart (fun _ => True) (b.startElement h name as) (b.startElement h name as)
  characters : ∀ h text, calm h →
    Work.Alike Apart (fun _ => True) (b.characters h text) (b.characters h text)
  endElement : ∀ h name, calm h →
    Work.Alike Apart (fun _ => True) (b.endElement h name) (b.endElement h name)

/-- A class of handlers that never fail. -/
structure NeverFails (b : Behaviour H S) (calm : H → Prop) : Prop where
  startElement : ∀ h name as, calm h → Succeeds (b.startElement h name as)
  characters : ∀ h text, calm h → Succeeds (b.characters h text)
  endElement : ∀ h name, calm h → Succeeds (b.endElement h name)

/-- A class of handlers that no interrupt comes from. -/
structure NeverInterrupts (b : Behaviour H S) (calm : H → Prop) : Prop where
  startElement : ∀ h name as, calm h → Unbroken (b.startElement h name as)
  characters : ∀ h text, calm h → Unbroken (b.characters h text)
  endElement : ∀ h name, calm h → Unbroken (b.endElement h name)

/-! ## One event -/

variable {b : Behaviour H S} {m : Machine H S} {frame : Frame H} {rest : List (Frame H)}

theorem dispatch_start (frames : m.frames = frame :: rest) (name : String) (as : Attributes) :
    b.dispatch (.start name as) m =
      (b.startElement frame.handler name as >>= fun next =>
        Machine.push (some name) (next.getD b.ignore)) m := by
  simp [dispatch, handleStart, Work.bind_apply, frames]

theorem dispatch_characters (frames : m.frames = frame :: rest) (text : String) :
    b.dispatch (.characters text) m =
      b.characters frame.handler text
        { m with frames := ⟨frame.element, b.absorb frame.handler text⟩ :: rest } := by
  simp [dispatch, handleCharacters, Work.bind_apply, frames]

theorem dispatch_finish {below : Frame H} {name : String}
    (frames : m.frames = frame :: below :: rest) (same : frame.element = some name) :
    b.dispatch (.finish name) m =
      (b.endElement frame.handler name >>= fun _ => Machine.pop >>= fun _ => pure ()) m := by
  simp [dispatch, handleFinish, Work.bind_apply, frames, same]

theorem dispatchAll_cons (e : Event) (es : List Event) (m : Machine H S) :
    b.dispatchAll (e :: es) m = (b.dispatch e >>= fun _ => b.dispatchAll es) m := rfl

theorem dispatchAll_append (es fs : List Event) (m : Machine H S) :
    b.dispatchAll (es ++ fs) m = (b.dispatchAll es >>= fun _ => b.dispatchAll fs) m := by
  induction es generalizing m with
  | nil => rfl
  | cons e es ih =>
    simp only [List.cons_append, dispatchAll_cons, Work.bind_apply]
    rcases b.dispatch e m with ⟨_ | _, t⟩
    · rfl
    · simpa [Work.bind_apply] using ih t

/-! ## A word of events -/

variable {calm : H → Prop} {names more : List String}

/-- An event that is taken is one that the stack of names takes. -/
theorem stands_of_dispatch (leaves : b.LeavesFrames calm) (stands : Stands calm names m)
    {e : Event} {t : Machine H S} (taken : b.dispatch e m = (.ok (), t)) :
    ∃ more, Nesting.step names e = .ok more ∧ Stands calm more t := by
  obtain ⟨frame, rest, frames, tame⟩ := stands.top
  cases e with
  | start name as =>
    rw [dispatch_start frames] at taken
    obtain ⟨next, u, answered, pushed⟩ := Work.bind_eq_ok taken
    obtain ⟨same, reading, child⟩ := (leaves.startElement _ name as tame).of_eq stands.reading answered
    refine ⟨name :: names, rfl, ?_⟩
    obtain rfl : { u with frames := ⟨some name, next.getD b.ignore⟩ :: u.frames } = t :=
      congrArg Prod.snd pushed
    refine ⟨reading, by simp [same, stands.elements], ?_⟩
    intro f member
    rcases List.mem_cons.mp member with rfl | member
    · exact leaves.child (child next rfl)
    · exact stands.handlers f (same ▸ member)
  | characters text =>
    rw [dispatch_characters frames] at taken
    obtain ⟨same, reading, _⟩ := (leaves.characters _ text tame).of_eq (by exact stands.reading) taken
    refine ⟨names, by cases names <;> rfl, reading, ?_, ?_⟩
    · simpa [same, frames] using stands.elements
    · intro f member
      rw [same] at member
      rcases List.mem_cons.mp member with rfl | member
      · exact leaves.absorb _ _ tame
      · exact stands.handlers f (by simp [frames, member])
  | finish name =>
    cases names with
    | nil =>
      obtain ⟨frame, frames⟩ := stands.bottom
      simp [dispatch, handleFinish, Work.bind_apply, frames] at taken
    | cons opened names =>
      obtain ⟨frame, below, rest, frames, top, under⟩ := stands.inside
      by_cases same : opened = name
      · rw [dispatch_finish frames (same ▸ top)] at taken
        obtain ⟨_, u, ended, popped⟩ := Work.bind_eq_ok taken
        obtain ⟨_, v, pop, last⟩ := Work.bind_eq_ok popped
        have tame := stands.handlers frame (by simp [frames])
        obtain ⟨kept, reading, _⟩ := (leaves.endElement _ name tame).of_eq stands.reading ended
        obtain rfl : v = t := congrArg Prod.snd last
        simp only [Machine.pop, kept, frames, Prod.mk.injEq] at pop
        obtain ⟨_, rfl⟩ := pop
        refine ⟨names, by simp [Nesting.step, same], reading, under, ?_⟩
        intro f member
        exact stands.handlers f (by rw [frames]; exact List.mem_cons_of_mem _ member)
      · simp [dispatch, handleFinish, Work.bind_apply, frames, top, same] at taken
  | alien => simp [dispatch] at taken

/-- An event that the stack of names refuses is refused for the same cause, and nothing else
happens. -/
theorem dispatch_of_step_error (stands : Stands calm names m) {e : Event} {cause : Malformed}
    (refused : Nesting.step names e = .error cause) :
    b.dispatch e m = (.error (.malformed cause), m) := by
  cases e with
  | finish name =>
    cases names with
    | nil =>
      obtain ⟨frame, frames⟩ := stands.bottom
      obtain rfl : .unexpectedEnd name = cause := Except.error.inj refused
      simp [dispatch, handleFinish, Work.bind_apply, frames]
    | cons opened names =>
      obtain ⟨frame, below, rest, frames, top, _⟩ := stands.inside
      simp only [Nesting.step] at refused
      split at refused
      · contradiction
      next other =>
        obtain rfl := Except.error.inj refused
        simp [dispatch, handleFinish, Work.bind_apply, frames, top, other]
  | start | characters | alien => cases names <;> simp [Nesting.step] at refused

/-- Handlers that never fail take every event that the stack of names takes. -/
theorem dispatch_succeeds (leaves : b.LeavesFrames calm) (never : b.NeverFails calm)
    (stands : Stands calm names m) {e : Event} (event : e ≠ .alien)
    (taken : Nesting.step names e = .ok more) : (b.dispatch e m).1 = .ok () := by
  obtain ⟨frame, rest, frames, tame⟩ := stands.top
  cases e with
  | start name as =>
    obtain ⟨next, answered⟩ := never.startElement _ name as tame m stands.reading
    rw [dispatch_start frames, Work.bind_ok (Prod.ext answered rfl)]
    rfl
  | characters text =>
    rw [dispatch_characters frames]
    obtain ⟨_, answered⟩ := never.characters _ text tame
      { m with frames := ⟨frame.element, b.absorb frame.handler text⟩ :: rest } stands.reading
    exact answered
  | finish name =>
    cases names with
    | nil => simp [Nesting.step] at taken
    | cons opened names =>
      obtain ⟨frame, below, rest, frames, top, _⟩ := stands.inside
      have tame := stands.handlers frame (by simp [frames])
      simp only [Nesting.step] at taken
      split at taken
      next same =>
        obtain ⟨_, ended⟩ := never.endElement _ name tame m stands.reading
        obtain ⟨kept, _⟩ := leaves.endElement _ name tame m stands.reading
        rw [dispatch_finish frames (same ▸ top), Work.bind_ok (Prod.ext ended rfl)]
        simp [Work.bind_apply, Machine.pop, kept, frames]
      · contradiction
  | alien => contradiction

theorem stands_of_dispatchAll (leaves : b.LeavesFrames calm) (stands : Stands calm names m)
    {es : List Event} {t : Machine H S} (taken : b.dispatchAll es m = (.ok (), t)) :
    ∃ more, Nesting.follow names es = .ok more ∧ Stands calm more t := by
  induction es generalizing names m with
  | nil =>
    obtain rfl : m = t := congrArg Prod.snd taken
    exact ⟨names, rfl, stands⟩
  | cons e es ih =>
    obtain ⟨_, u, first, rest⟩ := Work.bind_eq_ok taken
    obtain ⟨middle, next, there⟩ := stands_of_dispatch leaves stands first
    obtain ⟨more, followed, last⟩ := ih there rest
    exact ⟨more, by simp [Nesting.follow, next, followed], last⟩

theorem dispatchAll_result (leaves : b.LeavesFrames calm) (never : b.NeverFails calm)
    (stands : Stands calm names m) {es : List Event} (events : ∀ e ∈ es, e ≠ .alien) :
    (b.dispatchAll es m).1 =
      match Nesting.follow names es with
      | .ok _ => .ok ()
      | .error cause => .error (.malformed cause) := by
  induction es generalizing names m with
  | nil => rfl
  | cons e es ih =>
    simp only [dispatchAll_cons, Nesting.follow]
    cases next : Nesting.step names e with
    | error cause => rw [Work.bind_error (dispatch_of_step_error stands next)]
    | ok more =>
      have first := dispatch_succeeds leaves never stands (events e (by simp)) next
      obtain ⟨more', again, there⟩ := stands_of_dispatch leaves stands (Prod.ext first rfl)
      obtain rfl : more = more' := Except.ok.inj (next.symm.trans again)
      rw [Work.bind_ok (Prod.ext first rfl)]
      exact ih there fun e member => events e (by simp [member])

theorem events_of_dispatchAll {es : List Event} {t : Machine H S}
    (taken : b.dispatchAll es m = (.ok (), t)) : ∀ e ∈ es, e ≠ .alien := by
  induction es generalizing m with
  | nil => simp
  | cons e es ih =>
    obtain ⟨_, u, first, rest⟩ := Work.bind_eq_ok taken
    intro other member
    rcases List.mem_cons.mp member with rfl | member
    · rintro rfl
      simp [dispatch] at first
    · exact ih rest other member

/-! ## A document -/

variable [Workspace S]

def finish : Option Fault → Step H S Diagram
  | some fault => .fail fault
  | none => close

def leave : Except Fault Diagram × Machine H S → Except Fault Diagram × Machine H S
  | (.ok diagram, m) => (.ok diagram, { m with reading := false })
  | (.error fault, m) => (.error fault, m.stopped fault)

theorem parse_idle (idle : m.reading = false) (initial : H) (feed : Feed) :
    b.parse initial feed m =
      leave ((b.dispatchAll feed.events >>= fun _ => finish feed.ending) (m.opened initial feed)) := by
  have read : b.readAll initial feed { m with reading := true } =
      (b.dispatchAll feed.events >>= fun _ => finish feed.ending) (m.opened initial feed) := rfl
  simp only [parse, idle, read]
  rcases (b.dispatchAll feed.events >>= fun _ => finish feed.ending) (m.opened initial feed) with
    ⟨_ | diagram, t⟩ <;> rfl

/-- Documents that are opened and end alike are read alike if the same comes of their events. -/
theorem parse_congr {other : Behaviour H S} {initial : H} {feed feed' : Feed}
    (opening : feed'.opening = feed.opening) (ending : feed'.ending = feed.ending)
    (same : other.dispatchAll feed'.events (m.opened initial feed) =
      b.dispatchAll feed.events (m.opened initial feed)) :
    other.parse initial feed' m = b.parse initial feed m := by
  cases idle : m.reading with
  | true => simp [parse, idle]
  | false =>
    have opened : m.opened initial feed' = m.opened initial feed := by simp only [Machine.opened, opening]
    rw [parse_idle idle, parse_idle idle, opened, ending]
    exact congrArg leave (Work.bind_congr same fun _ _ _ => rfl)

/-- A document of which the first events are known to end in some way. -/
theorem parse_append (idle : m.reading = false) {initial : H} {opening : List Notice} {before : List Event}
    {result : Except Fault Unit} {t : Machine H S}
    (ran : b.dispatchAll before (m.opened initial ⟨opening, before, none⟩) = (result, t))
    (after : List Event) (ending : Option Fault) :
    b.parse initial ⟨opening, before ++ after, ending⟩ m =
      leave (match result with
        | .ok _ => (b.dispatchAll after >>= fun _ => finish ending) t
        | .error fault => (.error fault, t)) := by
  have opened : m.opened initial ⟨opening, before ++ after, ending⟩ =
      m.opened initial ⟨opening, before, none⟩ := rfl
  rw [parse_idle idle, opened, Work.bind_apply, dispatchAll_append, Work.bind_apply, ran]
  cases result <;> rfl

theorem close_bottom (frames : m.frames = [frame]) :
    close m = match Workspace.diagram m.work with
      | none => (.error (.misuse .noDiagram), { m with frames := [] })
      | some diagram => (.ok diagram, { m with
          frames := []
          work := Workspace.note (.readDiagram diagram.name diagram.shapes.length) m.work }) := by
  have depth : m.depth = 1 := by simp [Machine.depth, frames]
  have popped : Machine.pop m = (.ok frame.handler, { m with frames := [] }) := by
    simp [Machine.pop, frames]
  unfold close
  rw [Work.bind_ok (Work.current_apply m), if_pos depth, Work.bind_ok popped,
    Work.bind_ok (Work.current_apply _)]
  cases Workspace.diagram m.work <;> rfl

theorem close_open (open' : m.depth ≠ 1) : close m = (.error (.malformed (.openElements (m.depth - 1))), m) := by
  unfold close
  rw [Work.bind_ok (Work.current_apply m), if_neg open']
  rfl

theorem close_inside {name : String} (stands : Stands calm (name :: names) m) :
    close m = (.error (.malformed (.openElements (names.length + 1))), m) := by
  have depth := stands.depth
  rw [close_open (by simp [depth]), depth]
  simp

theorem close_ok {t : Machine H S} {diagram : Diagram} (closed : close m = (.ok diagram, t)) :
    m.depth = 1 ∧ t.frames = [] ∧ Workspace.diagram m.work = some diagram ∧
      t.work = Workspace.note (.readDiagram diagram.name diagram.shapes.length) m.work := by
  by_cases depth : m.depth = 1
  · obtain ⟨frame, frames⟩ := List.length_eq_one_iff.mp depth
    rw [close_bottom frames] at closed
    cases set : Workspace.diagram m.work with
    | none => simp [set] at closed
    | some other =>
      simp only [set, Prod.mk.injEq, Except.ok.injEq] at closed
      obtain ⟨rfl, rfl⟩ := closed
      exact ⟨depth, rfl, rfl, rfl⟩
  · simp [close, Work.bind_apply, depth] at closed

/-- A document that was read without fault was read to its end and closed. -/
theorem closed_of_parse {initial : H} {feed : Feed} {diagram : Diagram} {after : Machine H S}
    (read : b.parse initial feed m = (.ok diagram, after)) :
    ∃ t, b.dispatchAll feed.events (m.opened initial feed) = (.ok (), t) ∧ t.depth = 1 ∧
      Workspace.diagram t.work = some diagram ∧ after.frames = [] ∧ after.reading = false ∧
      after.work = Workspace.note (.readDiagram diagram.name diagram.shapes.length) t.work := by
  cases idle : m.reading with
  | true => simp [parse, idle] at read
  | false =>
    rw [parse_idle idle] at read
    rcases ran : (b.dispatchAll feed.events >>= fun _ => finish feed.ending) (m.opened initial feed) with
      ⟨_ | closing, u⟩
    · simp [ran, leave] at read
    · simp only [ran, leave, Prod.mk.injEq, Except.ok.injEq] at read
      obtain ⟨rfl, rfl⟩ := read
      obtain ⟨_, t, taken, closed⟩ := Work.bind_eq_ok ran
      cases ending : feed.ending with
      | some fault => simp [ending, finish] at closed
      | none =>
        obtain ⟨depth, frames, set, work⟩ := close_ok (by simpa [ending, finish] using closed)
        exact ⟨t, taken, depth, set, frames, rfl, work⟩

/-- A source that was read to its end, with nothing left open. -/
theorem read_of_parse (leaves : b.LeavesFrames calm) {initial : H} (tame : calm initial) {feed : Feed}
    {diagram : Diagram} {after : Machine H S} (read : b.parse initial feed m = (.ok diagram, after)) :
    ∃ t, b.dispatchAll feed.events (m.opened initial feed) = (.ok (), t) ∧
      Nesting.Balanced feed.events ∧ Workspace.diagram t.work = some diagram ∧
      after.work = Workspace.note (.readDiagram diagram.name diagram.shapes.length) t.work := by
  obtain ⟨t, taken, depth, set, _, _, work⟩ := closed_of_parse read
  have events := events_of_dispatchAll taken
  obtain ⟨names, followed, stands⟩ := stands_of_dispatchAll leaves (.opened tame feed m) taken
  have word := (Nesting.follow_eq_ok_iff events names).mp followed
  obtain rfl : names = [] := by
    have more := stands.depth
    exact List.eq_nil_of_length_eq_zero (by omega)
  exact ⟨t, taken, (Nesting.opens_nil_iff _).mp word, set, work⟩

end Behaviour

end Pgml
