import Pgml.Proofs.ScriptedHandlers

/-! A controller that is safe against its handlers. Handlers of any kind may push and pop frames in every
callback, so that nothing is known of the frames between two steps of a machine. Each of its own reads of the
innermost frame is guarded by the depth at that moment, and all that it raises by itself is told here. -/
namespace Pgml

namespace Machine

variable {H S : Type}

/-- The innermost frame. What comes of reading it where there is none is left open. -/
def top (unread : Step H S (Frame H)) : Step H S (Frame H) := fun m =>
  match m.frames with
  | [] => unread m
  | frame :: _ => (.ok frame, m)

/-- A handler popped with a read of the innermost frame, behind a look at the depth. -/
def popBy (unread : Step H S (Frame H)) : Step H S H := do
  if (← .current).depth = 0 then .fail (.misuse .noHandler)
  else
    let frame ← top unread
    .update fun m => { m with frames := m.frames.tail }
    return frame.handler

theorem popBy_eq (unread : Step H S (Frame H)) : popBy unread = pop := by
  funext m
  cases frames : m.frames with
  | nil => simp [popBy, pop, Work.bind_apply, depth, frames]
  | cons frame rest =>
    have read : top unread m = (.ok frame, m) := by simp [top, frames]
    have deep : m.depth ≠ 0 := by simp [depth, frames]
    unfold popBy
    rw [Work.bind_ok (Work.current_apply m), if_neg deep, Work.bind_ok read, Work.bind_ok (Work.update_apply _ _)]
    simp [pop, frames]

end Machine

namespace Behaviour

open Machine

variable {H S : Type} (b : Behaviour H S)

/-- A frame with character data given to its handler. -/
def gather (text : String) (frame : Frame H) : Frame H := ⟨frame.element, b.absorb frame.handler text⟩

/-- An event taken with reads of the innermost frame, each behind a look at the depth. -/
def dispatchBy (unread : Step H S (Frame H)) : Event → Step H S Unit
  | .start name as => do
    if (← .current).depth = 0 then .fail (.malformed (.afterEnd name))
    else
      let frame ← top unread
      let next ← b.startElement frame.handler name as
      Machine.push (some name) (next.getD b.ignore)
  | .characters text => do
    if (← .current).depth = 0 then return ()
    else
      let frame ← top unread
      .update fun m => { m with frames := m.frames.modifyHead (b.gather text) }
      b.characters frame.handler text
  | .finish name => do
    if (← .current).depth ≤ 1 then .fail (.malformed (.unexpectedEnd name))
    else
      let frame ← top unread
      if frame.element = some name then
        b.endElement frame.handler name
        let _ ← popBy unread
      else .fail (.malformed (.crossed frame.element name))
  | .alien => .fail .noEvent

/-- No event makes a machine read the innermost frame where there is none, whatever would come of it. -/
theorem dispatchBy_eq (unread : Step H S (Frame H)) (event : Event) :
    b.dispatchBy unread event = b.dispatch event := by
  funext m
  cases event with
  | start name as =>
    cases frames : m.frames with
    | nil => simp [dispatchBy, dispatch, handleStart, Work.bind_apply, depth, frames]
    | cons frame rest => simp [dispatchBy, dispatch, handleStart, Work.bind_apply, depth, top, frames]
  | characters text =>
    cases frames : m.frames with
    | nil => simp [dispatchBy, dispatch, handleCharacters, Work.bind_apply, depth, frames]
    | cons frame rest => simp [dispatchBy, dispatch, handleCharacters, Work.bind_apply, depth, top, gather, frames]
  | finish name =>
    rcases frames : m.frames with _ | ⟨frame, _ | ⟨below, rest⟩⟩
    · simp [dispatchBy, dispatch, handleFinish, Work.bind_apply, depth, frames]
    · simp [dispatchBy, dispatch, handleFinish, Work.bind_apply, depth, frames]
    · simp [dispatchBy, dispatch, handleFinish, Work.bind_apply, depth, top, frames, popBy_eq]
  | alien => rfl

/-- What a machine raises by itself at an event: it refuses elements without any frame, ends without a frame
for an element, and crossed ends; and the callback at an end may leave no frame to pop. -/
def Refuses (m : Machine H S) : Event → Fault → Prop
  | .start name _, e => m.depth = 0 ∧ e = .malformed (.afterEnd name)
  | .characters _, _ => False
  | .finish name, e =>
    if m.depth < 2 then e = .malformed (.unexpectedEnd name)
    else ∃ frame, m.frames.head? = some frame ∧
      if frame.element = some name then
        ∃ t, b.endElement frame.handler name m = (.ok (), t) ∧ t.depth = 0 ∧ e = .misuse .noHandler
      else e = .malformed (.crossed frame.element name)
  | .alien, e => e = .noEvent

/-- What the callback raises that answers an event. -/
def Raises (m : Machine H S) : Event → Fault → Prop
  | .start name as, e => ∃ frame, m.frames.head? = some frame ∧
      (b.startElement frame.handler name as m).1 = .error e
  | .characters text, e => ∃ frame, m.frames.head? = some frame ∧
      (b.characters frame.handler text { m with frames := m.frames.modifyHead (b.gather text) }).1 = .error e
  | .finish name, e => 2 ≤ m.depth ∧ ∃ frame, m.frames.head? = some frame ∧ frame.element = some name ∧
      (b.endElement frame.handler name m).1 = .error e
  | .alien, _ => False

variable {b} {m : Machine H S} {e : Fault}

theorem pop_error_iff : ((pop >>= fun _ => pure ()) m : Except Fault Unit × Machine H S).1 = .error e ↔
    m.depth = 0 ∧ e = .misuse .noHandler := by
  cases frames : m.frames with
  | nil => simp [Work.bind_apply, pop, depth, frames, eq_comm]
  | cons frame rest => simp [Work.bind_apply, pop, depth, frames]

/-- An event fails if and only if the machine refuses it or the callback raises something. -/
theorem dispatch_error_iff (event : Event) :
    (b.dispatch event m).1 = .error e ↔ b.Refuses m event e ∨ b.Raises m event e := by
  cases event with
  | start name as =>
    cases frames : m.frames with
    | nil => simp [dispatch, handleStart, Work.bind_apply, Refuses, Raises, depth, frames, eq_comm]
    | cons frame rest =>
      rw [dispatch_start frames, Work.bind_error_iff]
      simp [Refuses, Raises, push, depth, frames]
  | characters text =>
    cases frames : m.frames with
    | nil => simp [dispatch, handleCharacters, Work.bind_apply, Refuses, Raises, frames]
    | cons frame rest =>
      rw [dispatch_characters frames]
      simp [Refuses, Raises, gather, frames]
  | finish name =>
    rcases frames : m.frames with _ | ⟨frame, _ | ⟨below, rest⟩⟩
    · simp [dispatch, handleFinish, Work.bind_apply, Refuses, Raises, depth, frames, eq_comm]
    · simp [dispatch, handleFinish, Work.bind_apply, Refuses, Raises, depth, frames, eq_comm]
    · have deep : 2 ≤ m.depth := by simp [depth, frames]
      have enough : ¬ m.depth < 2 := by omega
      by_cases same : frame.element = some name
      · -- The pop comes after the callback, so it is the depth that the callback leaves that counts.
        rw [dispatch_finish frames same, Work.bind_error_iff, or_comm]
        refine or_congr ?_ ?_
        · simp only [pop_error_iff]
          simp only [Refuses, frames, same, enough, if_false, if_true, List.head?_cons, Option.some.injEq,
            exists_eq_left']
          constructor
          · rintro ⟨_, t, ended, left⟩
            exact ⟨t, ended, left⟩
          · rintro ⟨t, ended, left⟩
            exact ⟨(), t, ended, left⟩
        · simp [Raises, frames, same, deep]
      · simp [dispatch, handleFinish, Work.bind_apply, Refuses, Raises, frames, same, enough, eq_comm]
  | alien => simp [dispatch, Refuses, Raises, eq_comm]

/-- A fault in a word of events is that of one of them, behind others that were taken. -/
theorem dispatchAll_error_iff {events : List Event} : (b.dispatchAll events m).1 = .error e ↔
    ∃ before event after t, events = before ++ event :: after ∧ b.dispatchAll before m = (.ok (), t) ∧
      (b.Refuses t event e ∨ b.Raises t event e) := by
  induction events generalizing m with
  | nil => simp [dispatchAll]
  | cons first rest ih =>
    rw [dispatchAll_cons, Work.bind_error_iff]
    constructor
    · rintro (failed | ⟨_, u, taken, failed⟩)
      · exact ⟨[], first, rest, m, rfl, rfl, (dispatch_error_iff first).mp failed⟩
      · obtain ⟨before, event, after, t, rfl, followed, cause⟩ := ih.mp failed
        refine ⟨first :: before, event, after, t, rfl, ?_, cause⟩
        rw [dispatchAll_cons, Work.bind_ok taken, followed]
    · rintro ⟨before, event, after, t, split, followed, cause⟩
      cases before with
      | nil =>
        obtain ⟨rfl, rfl⟩ := List.cons.inj split
        obtain rfl : m = t := congrArg Prod.snd followed
        exact .inl ((dispatch_error_iff _).mpr cause)
      | cons _ before =>
        obtain ⟨rfl, rfl⟩ := List.cons.inj split
        obtain ⟨_, u, taken, followed⟩ := Work.bind_eq_ok followed
        exact .inr ⟨(), u, taken, ih.mpr ⟨before, event, after, t, rfl, followed, cause⟩⟩

/-! ## Documents -/

variable [Workspace S]

/-- What ends the reading of a document whose first event comes to the machine: an event that fails, the fault
at the end of the source, elements that are open then, or a diagram that was never set. -/
inductive Fails (b : Behaviour H S) (m : Machine H S) (feed : Feed) : Fault → Prop where
  | event {before after : List Event} {event : Event} {t : Machine H S} {e : Fault} :
      feed.events = before ++ event :: after → b.dispatchAll before m = (.ok (), t) →
      b.Refuses t event e ∨ b.Raises t event e → Fails b m feed e
  | ending {t : Machine H S} {e : Fault} : b.dispatchAll feed.events m = (.ok (), t) → feed.ending = some e →
      Fails b m feed e
  | openElements {t : Machine H S} : b.dispatchAll feed.events m = (.ok (), t) → feed.ending = none →
      t.depth ≠ 1 → Fails b m feed (.malformed (.openElements (t.depth - 1)))
  | noDiagram {t : Machine H S} : b.dispatchAll feed.events m = (.ok (), t) → feed.ending = none → t.depth = 1 →
      Workspace.diagram t.work = none → Fails b m feed (.misuse .noDiagram)

theorem close_error_iff : ((close m) : Except Fault Diagram × Machine H S).1 = .error e ↔
    m.depth ≠ 1 ∧ e = .malformed (.openElements (m.depth - 1)) ∨
      m.depth = 1 ∧ Workspace.diagram m.work = none ∧ e = .misuse .noDiagram := by
  by_cases bottom : m.depth = 1
  · obtain ⟨frame, frames⟩ := List.length_eq_one_iff.mp bottom
    rw [close_bottom frames]
    cases set : Workspace.diagram m.work <;> simp [bottom, eq_comm]
  · simp [close_open bottom, bottom, eq_comm]

theorem fst_leave (ran : Except Fault Diagram × Machine H S) : (leave ran).1 = ran.1 := by
  rcases ran with ⟨_ | _, t⟩ <;> rfl

/-- A document fails for exactly these causes. -/
theorem parse_error_iff (b : Behaviour H S) (initial : H) (feed : Feed) (m : Machine H S) (e : Fault) :
    (b.parse initial feed m).1 = .error e ↔
      m.reading = true ∧ e = .misuse .alreadyReading ∨
      m.reading = false ∧ b.Fails (m.opened initial feed) feed e := by
  cases idle : m.reading with
  | true => simp [parse, idle, eq_comm]
  | false =>
    rw [parse_idle idle, fst_leave, Work.bind_error_iff, dispatchAll_error_iff]
    simp only [Bool.false_eq_true, false_and, true_and, false_or]
    constructor
    · rintro (⟨before, event, after, t, split, taken, cause⟩ | ⟨_, t, taken, ended⟩)
      · exact .event split taken cause
      · cases ending : feed.ending with
        | some fault =>
          obtain rfl : fault = e := by simpa [ending, finish] using ended
          exact .ending taken ending
        | none =>
          rw [ending] at ended
          obtain ⟨open', rfl⟩ | ⟨bottom, unset, rfl⟩ := close_error_iff.mp ended
          · exact .openElements taken ending open'
          · exact .noDiagram taken ending bottom unset
    · rintro (⟨split, taken, cause⟩ | ⟨taken, ending⟩ | ⟨taken, ending, open'⟩ | ⟨taken, ending, bottom, unset⟩)
      · exact .inl ⟨_, _, _, _, split, taken, cause⟩
      · exact .inr ⟨(), _, taken, by simp [ending, finish]⟩
      · exact .inr ⟨(), _, taken, by rw [ending]; exact close_error_iff.mpr (.inl ⟨open', rfl⟩)⟩
      · exact .inr ⟨(), _, taken, by rw [ending]; exact close_error_iff.mpr (.inr ⟨bottom, unset, rfl⟩)⟩

/-- A document is read if and only if all its events are taken, its source ends without a fault, only the frame
of the initial handler is left then, and a diagram was set. -/
theorem parse_ok_iff (b : Behaviour H S) (initial : H) (feed : Feed) (m : Machine H S) (diagram : Diagram) :
    (b.parse initial feed m).1 = .ok diagram ↔
      m.reading = false ∧ feed.ending = none ∧
      ∃ t, b.dispatchAll feed.events (m.opened initial feed) = (.ok (), t) ∧ t.depth = 1 ∧
        Workspace.diagram t.work = some diagram := by
  cases idle : m.reading with
  | true => simp [parse, idle]
  | false =>
    rw [parse_idle idle, fst_leave]
    constructor
    · intro read
      obtain ⟨_, t, taken, ended⟩ := Work.bind_eq_ok (Prod.ext read rfl)
      cases ending : feed.ending with
      | some fault => simp [ending, finish] at ended
      | none =>
        rw [ending] at ended
        obtain ⟨bottom, _, set, _⟩ := close_ok ended
        exact ⟨rfl, rfl, t, taken, bottom, set⟩
    · rintro ⟨_, ending, t, taken, bottom, set⟩
      obtain ⟨frame, frames⟩ := List.length_eq_one_iff.mp bottom
      rw [Work.bind_ok taken, ending]
      simp [finish, close_bottom frames, set]

end Behaviour

/-! ## Whose fault it is -/

/-- The faults that a machine comes to by itself: a document that is not well formed, a misuse of the machine,
and an item that is no event. -/
inductive Fault.OfMachine : Fault → Prop where
  | afterEnd (name : String) : OfMachine (.malformed (.afterEnd name))
  | unexpectedEnd (name : String) : OfMachine (.malformed (.unexpectedEnd name))
  | crossed (opened : Option String) (closed : String) : OfMachine (.malformed (.crossed opened closed))
  | openElements (count : Int) : OfMachine (.malformed (.openElements count))
  | misuse (cause : Misuse) : OfMachine (.misuse cause)
  | noEvent : OfMachine .noEvent

theorem Behaviour.Refuses.ofMachine {H S : Type} {b : Behaviour H S} {m : Machine H S} {event : Event} {e : Fault}
    (refuses : b.Refuses m event e) : e.OfMachine := by
  cases event with
  | start name as =>
    obtain ⟨_, rfl⟩ := refuses
    exact .afterEnd name
  | characters text => exact refuses.elim
  | finish name =>
    simp only [Refuses] at refuses
    split at refuses
    · subst refuses
      exact .unexpectedEnd name
    · obtain ⟨frame, _, refuses⟩ := refuses
      split at refuses
      · obtain ⟨_, _, _, rfl⟩ := refuses
        exact .misuse .noHandler
      · subst refuses
        exact .crossed frame.element name
  | alien =>
    obtain rfl := refuses
    exact .noEvent

namespace Script

variable {H W α : Type}

/-- What a script may raise: faults of its own, and behind a refusal of the machine that refusal too. -/
def Throws : Script H W α → (Fault → Prop) → Prop
  | done _, _ => True
  | raise e, own => own e
  | look next, own => ∀ m, (next m).Throws own
  | work _ next, own => next.Throws own
  | push _ _ next, own => next.Throws own
  | pop next, own => (∀ h, (next (.ok h)).Throws own) ∧
      (next (.error (.misuse .noHandler))).Throws fun e => own e ∨ e = .misuse .noHandler
  | setDiagram _ next, own => (next (.ok ())).Throws own ∧
      (next (.error (.misuse .diagramSet))).Throws fun e => own e ∨ e = .misuse .diagramSet
  | parse _ _ next, own =>
      (next (.error (.misuse .alreadyReading))).Throws fun e => own e ∨ e = .misuse .alreadyReading

theorem fault_of_run [Ground W] (nested : Behaviour H (Slate W)) {script : Script H W α} {own : Fault → Prop}
    (throws : script.Throws own) {m : Machine H (Slate W)} (reading : m.reading = true) {e : Fault}
    (failed : (script.run nested m).1 = .error e) : own e ∨ e.OfMachine := by
  -- Behind a refusal the script's own faults are widened by that refusal, which is the machine's.
  have passed {own : Fault → Prop} {cause : Misuse} (told : (own e ∨ e = .misuse cause) ∨ e.OfMachine) :
      own e ∨ e.OfMachine := by
    rcases told with (mine | rfl) | machine
    · exact .inl mine
    · exact .inr (.misuse cause)
    · exact .inr machine
  induction script generalizing m own with
  | done a => simp [run] at failed
  | raise fault =>
    obtain rfl : fault = e := by simpa [run] using failed
    exact .inl throws
  | look next ih => exact ih m (throws m) reading failed
  | work f next ih => exact ih throws (by exact reading) failed
  | push element handler next ih => exact ih throws (by exact reading) failed
  | pop next ih =>
    obtain ⟨frames, _, work⟩ := m
    cases frames with
    | nil => exact passed (ih _ throws.2 (by exact reading) failed)
    | cons frame rest => exact ih _ (throws.1 frame.handler) (by exact reading) failed
  | setDiagram id next ih =>
    obtain ⟨frames, _, ⟨diagram, history, rest⟩⟩ := m
    cases diagram with
    | some other => exact passed (ih _ throws.2 (by exact reading) failed)
    | none => exact ih _ throws.1 (by exact reading) failed
  | parse initial feed next ih =>
    have ran : (Script.parse initial feed next).run nested m =
        (next (.error (.misuse .alreadyReading))).run nested m :=
      Work.bind_ok (attempt_refused nested reading initial feed)
    rw [ran] at failed
    exact passed (ih _ throws reading failed)

end Script

/-- What the callbacks of some scripts may raise. -/
structure Scripts.Throw {H W : Type} (scripts : Scripts H W) (own : Fault → Prop) : Prop where
  startElement : ∀ h name as, (scripts.startElement h name as).Throws own
  characters : ∀ h text, (scripts.characters h text).Throws own
  endElement : ∀ h name, (scripts.endElement h name).Throws own

/-- A document fails for a fault of its handlers, of its source or of the machine. -/
theorem Scripts.fault_of_parse {H W : Type} [Ground W] {scripts : Scripts H W} (nested : Behaviour H (Slate W))
    {own : Fault → Prop} (throws : scripts.Throw own) {initial : H} {feed : Feed} {m : Machine H (Slate W)}
    {e : Fault} (failed : ((scripts.behaviour nested).parse initial feed m).1 = .error e) :
    own e ∨ feed.ending = some e ∨ e.OfMachine := by
  obtain ⟨_, rfl⟩ | ⟨_, cause⟩ := (Behaviour.parse_error_iff _ initial feed m e).mp failed
  · exact .inr (.inr (.misuse .alreadyReading))
  · cases cause with
    | @event before after event t _ split taken cause =>
      have reading : t.reading = true := by
        have kept := ((scripts.steady nested).dispatchAll before _ (told_opened initial feed m)).1
        rw [taken] at kept
        exact kept.1
      have raised {α : Type} {script : Script H W α} {u : Machine H (Slate W)} (may : script.Throws own)
          (there : u.reading = true) (ran : (script.run nested u).1 = .error e) :
          own e ∨ feed.ending = some e ∨ e.OfMachine :=
        (Script.fault_of_run nested may there ran).imp id .inr
      rcases cause with refused | raises
      · exact .inr (.inr refused.ofMachine)
      · cases event with
        | start name as =>
          obtain ⟨frame, _, ran⟩ := raises
          exact raised (throws.startElement frame.handler name as) reading ran
        | characters text =>
          obtain ⟨frame, _, ran⟩ := raises
          exact raised (throws.characters frame.handler text) (by exact reading) ran
        | finish name =>
          obtain ⟨_, frame, _, _, ran⟩ := raises
          exact raised (throws.endElement frame.handler name) reading ran
        | alien => exact raises.elim
    | ending _ ending => exact .inr (.inl ending)
    | openElements => exact .inr (.inr (.openElements _))
    | noDiagram => exact .inr (.inr (.misuse .noDiagram))

namespace Behaviour

open Machine

/-- A machine is safe against handlers of any kind. It never reads the innermost frame where there is none:
whatever would come of that read, each event and each pop comes to the same. Without any frame it refuses
elements and drops character data, and with fewer than two it refuses ends. It fails for exactly the causes in
`Fails`, and succeeds if and only if all is read, one frame is left and a diagram was set. Of the faults none is
its own but a document that is not well formed, a misuse and an item that is no event. -/
theorem parse_guarded {H S W : Type} [Workspace S] [Ground W] :
    (∀ (b : Behaviour H S) (unread : Step H S (Frame H)),
      popBy unread = pop ∧ ∀ event, b.dispatchBy unread event = b.dispatch event) ∧
    (∀ (b : Behaviour H S) (m : Machine H S),
      (m.depth = 0 → ∀ name as, b.dispatch (.start name as) m = (.error (.malformed (.afterEnd name)), m)) ∧
      (m.depth = 0 → ∀ text, b.dispatch (.characters text) m = (.ok (), m)) ∧
      (m.depth < 2 → ∀ name, b.dispatch (.finish name) m = (.error (.malformed (.unexpectedEnd name)), m))) ∧
    (∀ (b : Behaviour H S) initial feed m e, (b.parse initial feed m).1 = .error e ↔
      m.reading = true ∧ e = .misuse .alreadyReading ∨
      m.reading = false ∧ b.Fails (m.opened initial feed) feed e) ∧
    (∀ (b : Behaviour H S) initial feed m diagram, (b.parse initial feed m).1 = .ok diagram ↔
      m.reading = false ∧ feed.ending = none ∧
      ∃ t, b.dispatchAll feed.events (m.opened initial feed) = (.ok (), t) ∧ t.depth = 1 ∧
        Workspace.diagram t.work = some diagram) ∧
    ∀ (scripts : Scripts H W) (nested : Behaviour H (Slate W)) own, scripts.Throw own → ∀ initial feed m e,
      ((scripts.behaviour nested).parse initial feed m).1 = .error e →
      own e ∨ feed.ending = some e ∨ e.OfMachine := by
  refine ⟨?_, ?_, parse_error_iff, parse_ok_iff, ?_⟩
  · intro b unread
    exact ⟨popBy_eq unread, b.dispatchBy_eq unread⟩
  · intro b m
    refine ⟨?_, ?_, ?_⟩
    · intro empty name as
      have frames : m.frames = [] := List.eq_nil_of_length_eq_zero empty
      simp [dispatch, handleStart, Work.bind_apply, frames]
    · intro empty text
      have frames : m.frames = [] := List.eq_nil_of_length_eq_zero empty
      simp [dispatch, handleCharacters, Work.bind_apply, frames]
    · intro few name
      rcases frames : m.frames with _ | ⟨frame, _ | ⟨below, rest⟩⟩
      · simp [dispatch, handleFinish, Work.bind_apply, frames]
      · simp [dispatch, handleFinish, Work.bind_apply, frames]
      · exact absurd few (by simp [depth, frames])
  · intro scripts nested own throws initial feed m e failed
    exact Scripts.fault_of_parse nested throws failed

/-- Handlers that shrug when the diagram is set already, pop a frame at character data and two at the end of
an element named `b`. -/
def raider : Scripts Unit (List Diagram) where
  startElement _ name _ := .work (· ++ [.named name]) (.setDiagram ⟨0⟩ fun _ => .done none)
  absorb _ _ := ()
  characters _ _ := .pop fun
    | .ok _ => .done ()
    | .error e => .raise e
  endElement _ name := if name = "b" then .pop fun _ => .pop fun _ => .done () else .done ()
  ignore := ()

theorem parse_guarded_of_raider :
    let b : Behaviour Unit (Slate (List Diagram)) := raider.behaviour (inert ())
    let rested : Machine Unit (Slate (List Diagram)) := ⟨[], false, ⟨none, [], []⟩⟩
    let read (events : List Event) := (b.parse () (.ofEvents events) rested).1
    (∀ events e, read events = .error e → e.OfMachine) ∧
      b.dispatch (.characters "x") rested = (.ok (), rested) ∧
      read [.start "a" [], .start "c" [], .finish "c", .finish "a"] = .ok (.named "a") ∧
      read [.start "a" [], .characters "x", .characters "x", .characters "x", .start "c" []] =
        .error (.malformed (.afterEnd "c")) ∧
      read [.start "a" [], .characters "x", .finish "a"] = .error (.malformed (.unexpectedEnd "a")) ∧
      read [.start "b" [], .finish "b"] = .error (.misuse .noHandler) ∧
      b.Fails (rested.opened () (.ofEvents [.start "b" [], .finish "b"])) (.ofEvents [.start "b" [], .finish "b"])
        (.misuse .noHandler) := by
  intro b rested read
  have throws : raider.Throw fun _ => False := by
    refine ⟨fun _ _ _ => ⟨trivial, trivial⟩, fun _ _ => ⟨fun _ => trivial, .inr rfl⟩, fun _ name => ?_⟩
    by_cases last : name = "b"
    · simp [raider, last, Script.Throws]
    · simp [raider, last, Script.Throws]
  obtain ⟨_, refusals, failures, _, blame⟩ :=
    parse_guarded (H := Unit) (S := Slate (List Diagram)) (W := List Diagram)
  have lost : read [.start "b" [], .finish "b"] = .error (.misuse .noHandler) := rfl
  refine ⟨?_, (refusals b rested).2.1 rfl "x", rfl, rfl, rfl, lost, ?_⟩
  · intro events e failed
    rcases blame raider (inert ()) _ throws () _ rested e failed with mine | ended | machine
    · exact mine.elim
    · simp [Feed.ofEvents] at ended
    · exact machine
  · rcases (failures b () _ rested _).mp lost with ⟨busy, _⟩ | ⟨_, fails⟩
    · simp [rested] at busy
    · exact fails

end Behaviour

end Pgml
