import Pgml.Proofs.DocumentHandlers
import Pgml.Reader

/-! Documents read by recursion over their content instead of by a stack of frames. An element's
handler is asked for, is given the element's content in order, character data itself and nested
elements by the recursion, and is told the end. `evalAmid` shows handlers the frames of the calls
that they are nested in; `eval` is the same for handlers that never look at frames. -/
namespace Pgml

open Machine

variable {H S : Type}

namespace Machine

def amid {α : Type} (frames : List (Frame H)) (step : Step H S α) : Step H S α :=
  fun m => step { m with frames := frames }

end Machine

namespace Content

/-- Content given to the handler of its element, which may keep character data. -/
def eval (b : Behaviour H S) (h : H) : Content → Step H S H
  | empty => return h
  | text data rest => do
    b.characters h data
    rest.eval b (b.absorb h data)
  | element name as inner rest => do
    let child ← b.startElement h name as
    let done ← inner.eval b (child.getD b.ignore)
    b.endElement done name
    rest.eval b h

/-- Content given to the handler of its element among the frames of the elements around. -/
def evalAmid (b : Behaviour H S) (name : Option String) (around : List (Frame H)) (h : H) :
    Content → Step H S H
  | empty => return h
  | text data rest => do
    let more := b.absorb h data
    amid (⟨name, more⟩ :: around) (b.characters h data)
    rest.evalAmid b name around more
  | element nested as inner rest => do
    let here := ⟨name, h⟩ :: around
    let child ← amid here (b.startElement h nested as)
    let done ← inner.evalAmid b (some nested) here (child.getD b.ignore)
    amid (⟨some nested, done⟩ :: here) (b.endElement done nested)
    rest.evalAmid b name around h

def conclude [Workspace S] : Except Fault H × Machine H S → Except Fault Diagram × Machine H S
  | (.ok _, m) =>
    match Workspace.diagram m.work with
    | some diagram =>
      (.ok diagram, ⟨[], false, Workspace.note (.readDiagram diagram.name diagram.shapes.length) m.work⟩)
    | none => (.error (.misuse .noDiagram), ⟨[], false, Workspace.abandoned m.work⟩)
  | (.error fault, m) => (.error fault, m.stopped fault)

/-- A document read by recursion, with no frames at all. A machine that is already reading
refuses as it does for events. -/
def parse [Workspace S] (b : Behaviour H S) (initial : H) (c : Content) : Step H S Diagram := fun m =>
  if m.reading then (.error (.misuse .alreadyReading), m)
  else conclude (c.eval b initial ⟨[], true, Workspace.cleared m.work⟩)

def parseAmid [Workspace S] (b : Behaviour H S) (initial : H) (c : Content) : Step H S Diagram := fun m =>
  if m.reading then (.error (.misuse .alreadyReading), m)
  else conclude (c.evalAmid b none [] initial ⟨[⟨none, initial⟩], true, Workspace.cleared m.work⟩)

/-! ## The stack and the recursion -/

variable {b : Behaviour H S} {calm : H → Prop}

theorem yields_amid {α : Type} {answer : α → Prop} {step : Step H S α} (leaves : Leaves answer step)
    (frames : List (Frame H)) :
    Work.Yields (fun m : Machine H S => m.reading = true) answer (amid frames step) :=
  fun m reading => (leaves { m with frames := frames } reading).2

/-- The recursion gives the handler back with the character data in it. -/
theorem evalAmid_yields (leaves : b.LeavesFrames calm) (c : Content) (name : Option String)
    (around : List (Frame H)) {h : H} (tame : calm h) :
    Work.Yields (fun m : Machine H S => m.reading = true)
      (fun done => calm done ∧ done = c.ownText.foldl b.absorb h) (c.evalAmid b name around h) := by
  induction c generalizing name around h with
  | empty => exact .pure ⟨tame, rfl⟩
  | text data rest ih =>
    refine (yields_amid (leaves.characters h data tame) _).bind fun _ _ => ?_
    exact ih name around (leaves.absorb h data tame)
  | element nested as inner rest inside ih =>
    refine (yields_amid (leaves.startElement h nested as tame) _).bind fun next child => ?_
    have tameChild := leaves.child child
    refine (inside (some nested) _ tameChild).bind fun done finished => ?_
    refine (yields_amid (leaves.endElement done nested finished.1) _).bind fun _ _ => ?_
    exact ih name around tame

/-- If no interrupt comes from the handlers, none comes of the recursion. -/
theorem eval_ends (leaves : b.LeavesFrames calm) (never : b.NeverInterrupts calm) (c : Content) {h : H}
    (tame : calm h) : Work.Ends (fun m : Machine H S => m.reading = true) (fun e _ => e.isInterrupt = false)
      (c.eval b h) fun done m => calm done ∧ m.reading = true := by
  induction c generalizing h with
  | empty => exact .pure fun m reading => ⟨tame, reading⟩
  | text data rest ih =>
    refine ((leaves.characters h data tame).ends (never.characters h data tame)).bind fun _ => .given fun _ => ?_
    exact ih (leaves.absorb h data tame)
  | element nested as inner rest inside ih =>
    refine ((leaves.startElement h nested as tame).ends (never.startElement h nested as tame)).bind fun next =>
      .given fun child => ?_
    refine (inside (leaves.child child)).bind fun done => .given fun tameDone => ?_
    refine ((leaves.endElement done nested tameDone).ends (never.endElement done nested tameDone)).bind fun _ =>
      .given fun _ => ?_
    exact ih tame

theorem amid_of_frames {α : Type} (step : Step H S α) {frames : List (Frame H)} {m : Machine H S}
    (stands : m.frames = frames) : amid frames step m = step m := by
  subst stands
  rfl

/-- The events of content among other events: the machine does what the recursion does and goes
on with the handler that the recursion gives back. -/
theorem dispatchAll_events (leaves : b.LeavesFrames calm) (c : Content) (name : Option String)
    (around : List (Frame H)) {h : H} (tame : calm h) (rest : List Event) {m : Machine H S}
    (reading : m.reading = true) :
    amid (⟨name, h⟩ :: around) (b.dispatchAll (c.events ++ rest)) m =
      (c.evalAmid b name around h >>= fun done =>
        amid (⟨name, done⟩ :: around) (b.dispatchAll rest)) m := by
  -- Inside an element the rest of the word starts with its end and goes on with what follows it.
  induction c generalizing name around h m rest with
  | empty => rfl
  | text data more ih =>
    let here : Machine H S := { m with frames := ⟨name, h⟩ :: around }
    change (b.dispatch (.characters data) >>= fun _ => b.dispatchAll (more.events ++ rest)) here = _
    simp only [evalAmid, bind_assoc]
    refine Work.bind_congr (b.dispatch_characters (m := here) rfl data) fun _ t ran => ?_
    rw [b.dispatch_characters (m := here) rfl data] at ran
    obtain ⟨frames, still, _⟩ := (leaves.characters h data tame).of_eq (by exact reading) ran
    rw [← ih name around (leaves.absorb h data tame) rest still, amid_of_frames _ frames]
  | element nested as inner more inside ih =>
    let here : Machine H S := { m with frames := ⟨name, h⟩ :: around }
    have word : (element nested as inner more).events ++ rest =
        .start nested as :: (inner.events ++ .finish nested :: (more.events ++ rest)) := by
      simp [events]
    rw [word]
    change (b.dispatch (.start nested as) >>= fun _ => b.dispatchAll _) here = _
    simp only [evalAmid, bind_assoc]
    rw [Work.bind_congr (b.dispatch_start (m := here) rfl nested as) fun _ _ _ => rfl, bind_assoc]
    refine Work.bind_congr rfl fun next t opened => ?_
    obtain ⟨frames, still, child⟩ :=
      (leaves.startElement h nested as tame).of_eq (by exact reading) opened
    have tameChild := leaves.child (child next rfl)
    change amid (⟨some nested, next.getD b.ignore⟩ :: t.frames) (b.dispatchAll _) t = _
    rw [frames, inside (some nested) here.frames tameChild _ still]
    refine Work.bind_congr rfl fun done u finished => ?_
    obtain ⟨still, answer⟩ := evalAmid_yields leaves inner (some nested) here.frames tameChild t still
    rw [finished] at still answer
    obtain ⟨tameDone, _⟩ := answer done rfl
    let there : Machine H S := { u with frames := ⟨some nested, done⟩ :: here.frames }
    change (b.dispatch (.finish nested) >>= fun _ => b.dispatchAll _) there = _
    rw [Work.bind_congr (b.dispatch_finish (m := there) rfl rfl) fun _ _ _ => rfl, bind_assoc]
    refine Work.bind_congr rfl fun _ v ended => ?_
    obtain ⟨kept, still, _⟩ := (leaves.endElement done nested tameDone).of_eq (by exact still) ended
    have popped : pop v = (.ok done, { v with frames := here.frames }) := by simp [pop, kept, there]
    rw [bind_assoc, Work.bind_ok popped]
    exact ih name around tame rest still

theorem alike_amid {α : Type} {answer : α → Prop} {step : Step H S α}
    (blind : Work.Alike Apart (fun _ => True) step step) (leaves : Leaves answer step)
    (frames : List (Frame H)) : Work.Alike Apart answer (amid frames step) step := by
  intro m t apart
  obtain ⟨same, there, _⟩ := blind { m with frames := frames } t ⟨apart.left, apart.right, apart.work⟩
  exact ⟨same, there, (leaves { m with frames := frames } apart.left).2.2⟩

/-- The recursion without frames runs like the recursion among the frames of its calls. -/
theorem evalAmid_alike (leaves : b.LeavesFrames calm) (blind : b.Blind calm) (c : Content)
    (name : Option String) (around : List (Frame H)) {h : H} (tame : calm h) :
    Work.Alike Apart calm (c.evalAmid b name around h) (c.eval b h) := by
  induction c generalizing name around h with
  | empty => exact .pure tame
  | text data rest ih =>
    refine (alike_amid (blind.characters h data tame) (leaves.characters h data tame) _).bind
      fun _ _ => ?_
    exact ih name around (leaves.absorb h data tame)
  | element nested as inner rest inside ih =>
    refine (alike_amid (blind.startElement h nested as tame) (leaves.startElement h nested as tame)
      _).bind fun next child => ?_
    refine (inside (some nested) _ (leaves.child child)).bind fun done tameDone => ?_
    refine (alike_amid (blind.endElement done nested tameDone) (leaves.endElement done nested tameDone)
      _).bind fun _ _ => ?_
    exact ih name around tame

theorem dispatchAll_content (leaves : b.LeavesFrames calm) (c : Content) {name : Option String}
    {around : List (Frame H)} {h : H} (tame : calm h) {m : Machine H S} (reading : m.reading = true)
    (frames : m.frames = ⟨name, h⟩ :: around) :
    b.dispatchAll c.events m =
      (c.evalAmid b name around h >>= fun done =>
        .update fun t => { t with frames := ⟨name, done⟩ :: around }) m := by
  have word := dispatchAll_events leaves c name around tame [] reading
  rw [List.append_nil, amid_of_frames _ frames] at word
  exact word

/-! ## Documents -/

variable [Workspace S]

theorem leave_finish (done : H) (m : Machine H S) :
    Behaviour.leave (Behaviour.finish none { m with frames := [⟨none, done⟩] }) = conclude (.ok done, m) := by
  have closed := Behaviour.close_bottom (m := { m with frames := [⟨none, done⟩] }) rfl
  simp only [Behaviour.finish, closed, conclude]
  cases Workspace.diagram m.work <;> rfl

/-- Outcomes that are the same, or that leave different frames at the same interrupt. -/
def Outcomes (ran other : Except Fault Diagram × Machine H S) : Prop :=
  ran = other ∨ ∃ cause frames, other.1 = .error (.interrupt cause) ∧
    ran = (.error (.interrupt cause), { other.2 with frames := frames })

theorem conclude_apart {m t : Machine H S} (result : Except Fault H) (apart : Apart m t) :
    Outcomes (conclude (result, m)) (conclude (result, t)) := by
  have same : m.work = t.work := apart.work
  cases result with
  | ok done => exact .inl (by simp [conclude, same])
  | error fault =>
    rcases fault.isInterrupt_cases with own | ⟨cause, rfl⟩
    · exact .inl (by simp [conclude, stopped_of_fault, own, same])
    · exact .inr ⟨cause, m.frames, rfl, by simp [conclude, stopped_interrupt, same]⟩

theorem parse_eq_parseAmid (leaves : b.LeavesFrames calm) {initial : H} (tame : calm initial)
    (c : Content) : b.parse initial (.ofEvents c.events) = c.parseAmid b initial := by
  funext m
  cases busy : m.reading with
  | true => simp [Behaviour.parse, parseAmid, busy]
  | false =>
    let opened : Machine H S := ⟨[⟨none, initial⟩], true, Workspace.cleared m.work⟩
    have word := dispatchAll_content leaves c tame (m := opened) rfl rfl
    have read : b.parse initial (.ofEvents c.events) m =
        Behaviour.leave ((b.dispatchAll c.events >>= fun _ => Behaviour.finish none) opened) :=
      b.parse_idle busy initial (.ofEvents c.events)
    have recursion : c.parseAmid b initial m = conclude (c.evalAmid b none [] initial opened) := by
      simp [parseAmid, busy, opened]
    rw [read, recursion, Work.bind_apply, word, Work.bind_apply]
    rcases c.evalAmid b none [] initial opened with ⟨fault | done, t⟩
    · simp [Behaviour.leave, conclude]
    · exact leave_finish done t

theorem parseAmid_apart (leaves : b.LeavesFrames calm) (blind : b.Blind calm) {initial : H}
    (tame : calm initial) (c : Content) (m : Machine H S) :
    Outcomes (c.parseAmid b initial m) (c.parse b initial m) := by
  cases busy : m.reading with
  | true => exact .inl (by simp [parse, parseAmid, busy])
  | false =>
    obtain ⟨same, apart, _⟩ := evalAmid_alike leaves blind c none [] tame
      ⟨[⟨none, initial⟩], true, Workspace.cleared m.work⟩ ⟨[], true, Workspace.cleared m.work⟩ ⟨rfl, rfl, rfl⟩
    simp only [parse, parseAmid, busy]
    rw [← Prod.eta (c.eval b initial _), ← same]
    exact conclude_apart _ apart

/-- What was read to its end is content, and the recursion succeeds on it. -/
theorem eval_of_parse (leaves : b.LeavesFrames calm) (blind : b.Blind calm) {initial : H}
    (tame : calm initial) {feed : Feed} {m after : Machine H S} {diagram : Diagram}
    (read : b.parse initial feed m = (.ok diagram, after)) :
    ∃ (c : Content) (done : H) (t : Machine H S), feed.events = c.events ∧
      c.eval b initial ⟨[], true, (m.opened initial feed).work⟩ = (.ok done, t) ∧
      Workspace.diagram t.work = some diagram ∧
      after.work = Workspace.note (.readDiagram diagram.name diagram.shapes.length) t.work := by
  obtain ⟨t, taken, balanced, set, closed⟩ := Behaviour.read_of_parse leaves tame read
  obtain ⟨c, word⟩ := (Nesting.balanced_iff _).mp balanced
  rw [word, dispatchAll_content leaves c tame rfl rfl] at taken
  obtain ⟨done, u, finished, replaced⟩ := Work.bind_eq_ok taken
  obtain rfl := congrArg Prod.snd replaced
  -- The recursion took the last frame along so far; it can do without.
  obtain ⟨same, apart, _⟩ := evalAmid_alike leaves blind c none [] tame (m.opened initial feed)
    ⟨[], true, (m.opened initial feed).work⟩ ⟨rfl, rfl, rfl⟩
  rcases ran : c.eval b initial ⟨[], true, (m.opened initial feed).work⟩ with ⟨result, v⟩
  rw [finished, ran] at same apart
  obtain rfl : .ok done = result := same
  have work : u.work = v.work := apart.work
  exact ⟨c, done, v, word, ran, work ▸ set, work ▸ closed⟩

/-- The stack machine refines the recursion. Whatever the handlers do, whether they relay, ignore,
keep or fail, as long as they leave the frames alone, the machine comes to the diagram or the fault
of the recursion and leaves the same work behind; handlers that do not look at the frames need no
frames in the recursion, and only where an interrupt comes do those of the machine stay. After
content, wherever it stands, the stack is as before, and the handler on top has kept the character
data that stands directly in the content. -/
theorem parse_events (leaves : b.LeavesFrames calm) {initial : H} (tame : calm initial)
    (c : Content) :
    b.parse initial (.ofEvents c.events) = c.parseAmid b initial ∧
    (b.Blind calm → ∀ m, b.parse initial (.ofEvents c.events) m = c.parse b initial m ∨
      ∃ cause frames, (c.parse b initial m).1 = .error (.interrupt cause) ∧
        b.parse initial (.ofEvents c.events) m =
          (.error (.interrupt cause), { (c.parse b initial m).2 with frames := frames })) ∧
    ∀ name h around m after, calm h → m.reading = true → m.frames = ⟨name, h⟩ :: around →
      b.dispatchAll c.events m = (.ok (), after) →
      after.frames = ⟨name, c.ownText.foldl b.absorb h⟩ :: around := by
  have amidst := parse_eq_parseAmid (b := b) leaves tame c
  refine ⟨amidst, ?_, ?_⟩
  · intro blind m
    rw [amidst]
    exact parseAmid_apart leaves blind tame c m
  · intro name h around m after tame reading frames ran
    rw [dispatchAll_content leaves c tame reading frames] at ran
    obtain ⟨done, t, finished, closed⟩ := Work.bind_eq_ok ran
    obtain ⟨_, answer⟩ := evalAmid_yields leaves c name around tame m reading
    rw [finished] at answer
    obtain ⟨_, rfl⟩ := answer done rfl
    obtain rfl := congrArg Prod.snd closed
    rfl

/-- A root element with a text, and an ellipse and data in a private element. -/
def plan : Content :=
  .element "pgml" [("name", "plan")]
    (.element "text" [("name", "title")] (.text "three" (.text " words" .empty))
      (.element "private" [] (.element "ellipse" [] .empty (.text "k=\"v\"" .empty)) .empty)) .empty

theorem parse_events_of_plan :
    let b := Handler.behaviour .plain
    let rested : Machine Handler Desk := ⟨[], false, Desk.fresh .builtin⟩
    b.parse .root (.ofEvents plan.events) rested = plan.parse b .root rested ∧
    (plan.parse b .root rested).2.work.items.map (·.kind) = #["Text", "Ellipse"] ∧
    (plan.parse b .root rested).2.work.names.names = ["title"] := by
  intro b rested
  have read : (plan.parse b .root rested).1.isOk = true := by decide +kernel
  have calm : Handler.root ≠ .popping := by decide
  refine ⟨?_, by decide +kernel, by decide +kernel⟩
  refine ((parse_events (Handler.leavesFrames .plain) calm plan).2.1 (Handler.blind .plain) rested).resolve_right ?_
  rintro ⟨cause, _, broken, _⟩
  rw [broken] at read
  exact Bool.false_ne_true read

end Content

end Pgml
