import Pgml.Proofs.DocumentHandlers

/-! Which words of events a machine accepts. Handlers that never fail and leave the frames alone
make no difference: the machine takes exactly the beginnings of balanced words, its frames are the
open elements over the initial handler, and a document is malformed exactly if its word has a
flaw, which is what the fault says. -/
namespace Pgml.Behaviour

open Machine Nesting

variable {H S : Type} {b : Behaviour H S} {calm : H → Prop} {m : Machine H S}

theorem dispatchAll_ok_iff (leaves : b.LeavesFrames calm) (never : b.NeverFails calm)
    (stands : Stands calm [] m) {word : List Event} (events : ∀ e ∈ word, e ≠ .alien) :
    (b.dispatchAll word m).1 = .ok () ↔ ∃ names, Opens word names := by
  rw [dispatchAll_result leaves never stands events]
  constructor
  · intro taken
    cases followed : follow [] word with
    | error cause => simp [followed] at taken
    | ok names => exact ⟨names, (follow_eq_ok_iff events names).mp followed⟩
  · rintro ⟨names, word⟩
    simp [follow_opens word]

theorem frames_of_opens (leaves : b.LeavesFrames calm) (stands : Stands calm [] m)
    {word : List Event} {names : List String} (opened : Opens word names) {after : Machine H S}
    (taken : b.dispatchAll word m = (.ok (), after)) :
    after.frames.map (·.element) = names.map some ++ [none] ∧
    (after.depth : Int) = 1 + word.countP Event.isStart - word.countP Event.isFinish := by
  obtain ⟨more, followed, there⟩ := stands_of_dispatchAll leaves stands taken
  obtain rfl : names = more := Except.ok.inj ((follow_opens opened).symm.trans followed)
  refine ⟨there.elements, ?_⟩
  have count := count_of_opens opened
  have depth := there.depth
  omega

/-- At an end that the stack of names refuses the machine stops, with the work that was done
before. -/
theorem dispatchAll_stops (leaves : b.LeavesFrames calm) (never : b.NeverFails calm)
    (stands : Stands calm [] m) {before after : List Event} {name : String} {names : List String}
    {cause : Malformed} (events : ∀ e ∈ before, e ≠ .alien) (opened : Opens before names)
    (refused : step names (.finish name) = .error cause) :
    b.dispatchAll (before ++ .finish name :: after) m =
      (.error (.malformed cause), (b.dispatchAll before m).2) := by
  have taken := (dispatchAll_ok_iff leaves never stands events).mpr ⟨names, opened⟩
  obtain ⟨more, followed, there⟩ := stands_of_dispatchAll leaves stands (Prod.ext taken rfl)
  obtain rfl : names = more := Except.ok.inj ((follow_opens opened).symm.trans followed)
  rw [dispatchAll_append, Work.bind_ok (Prod.ext taken rfl), dispatchAll_cons,
    Work.bind_error (dispatch_of_step_error there refused)]

variable [Workspace S]

/-- How a document ends, told by the stack of names. -/
theorem parse_result (leaves : b.LeavesFrames calm) (never : b.NeverFails calm) {initial : H}
    (tame : calm initial) (idle : m.reading = false) {es : List Event}
    (events : ∀ e ∈ es, e ≠ .alien) :
    (b.parse initial (.ofEvents es) m).1 =
      match follow [] es with
      | .error cause => .error (.malformed cause)
      | .ok (_ :: names) => .error (.malformed (.openElements (names.length + 1)))
      | .ok [] =>
        match Workspace.diagram (b.dispatchAll es (m.opened initial (.ofEvents es))).2.work with
        | some diagram => .ok diagram
        | none => .error (.misuse .noDiagram) := by
  have stands := Stands.opened tame (.ofEvents es) m
  have result := dispatchAll_result leaves never stands events
  have read : b.parse initial (.ofEvents es) m =
      leave ((b.dispatchAll es >>= fun _ => finish none) (m.opened initial (.ofEvents es))) :=
    b.parse_idle idle initial (.ofEvents es)
  rw [read]
  cases followed : follow [] es with
  | error cause =>
    rw [followed] at result
    rw [Work.bind_error (Prod.ext result rfl)]
    rfl
  | ok names =>
    rw [followed] at result
    obtain ⟨more, again, there⟩ := stands_of_dispatchAll leaves stands (Prod.ext result rfl)
    obtain rfl : names = more := Except.ok.inj (followed.symm.trans again)
    rw [Work.bind_ok (Prod.ext result rfl)]
    cases names with
    | nil =>
      obtain ⟨frame, frames⟩ := there.bottom
      simp only [finish, close_bottom frames]
      cases Workspace.diagram (b.dispatchAll es (m.opened initial (.ofEvents es))).2.work <;> rfl
    | cons name names =>
      simp only [finish, close_inside there]
      rfl

/-- Nesting is checked exactly. The machine takes the words after which some elements are open, and
its frames are then those elements, the innermost on top, over the initial handler. A document is
malformed exactly if its word is not balanced, the cause is the word's flaw, and an end that is a
flaw is where the machine stops; a balanced document fails only if no diagram was set. -/
theorem nesting_checked (leaves : b.LeavesFrames calm) (never : b.NeverFails calm) {initial : H}
    (tame : calm initial) (idle : m.reading = false) {es : List Event}
    (events : ∀ e ∈ es, e ≠ .alien) :
    let start := m.opened initial (.ofEvents es)
    let outcome := (b.parse initial (.ofEvents es) m).1
    (∀ word, word <+: es → ((b.dispatchAll word start).1 = .ok () ↔ ∃ names, Opens word names)) ∧
    (∀ word names after, word <+: es → Opens word names →
      b.dispatchAll word start = (.ok (), after) →
      after.frames.map (·.element) = names.map some ++ [none] ∧
      (after.depth : Int) = 1 + word.countP Event.isStart - word.countP Event.isFinish) ∧
    (∀ before name after, es = before ++ .finish name :: after →
      (Balanced before → b.dispatchAll es start =
        (.error (.malformed (.unexpectedEnd name)), (b.dispatchAll before start).2)) ∧
      ∀ opened names, Opens before (opened :: names) → opened ≠ name → b.dispatchAll es start =
        (.error (.malformed (.crossed (some opened) name)), (b.dispatchAll before start).2)) ∧
    (∀ cause, outcome = .error (.malformed cause) ↔ Flaw es cause) ∧
    ((∃ cause, outcome = .error (.malformed cause)) ↔ ¬ Balanced es) ∧
    (Balanced es → outcome =
      match Workspace.diagram (b.dispatchAll es start).2.work with
      | some diagram => .ok diagram
      | none => .error (.misuse .noDiagram)) := by
  have stands := Stands.opened tame (.ofEvents es) m
  have result := parse_result leaves never tame idle events
  have flaws (cause : Malformed) :
      (b.parse initial (.ofEvents es) m).1 = .error (.malformed cause) ↔ Flaw es cause := by
    rw [result, flaw_iff events]
    rcases follow [] es with found | (_ | ⟨name, names⟩)
    · simp
    · cases Workspace.diagram (b.dispatchAll es (m.opened initial (.ofEvents es))).2.work <;> simp
    · simp only [Except.error.injEq, Fault.malformed.injEq, Except.ok.injEq, List.cons.injEq,
        reduceCtorEq, false_or]
      constructor
      · rintro rfl
        exact ⟨name, names, ⟨rfl, rfl⟩, rfl⟩
      · rintro ⟨_, _, ⟨rfl, rfl⟩, rfl⟩
        rfl
  refine ⟨?_, ?_, ?_, flaws, ?_, ?_⟩
  · intro word front
    exact dispatchAll_ok_iff leaves never stands fun e member => events e (front.subset member)
  · intro word names after _ opened taken
    exact frames_of_opens leaves stands opened taken
  · rintro before name after rfl
    have front : ∀ e ∈ before, e ≠ .alien := fun e member => events e (by simp [member])
    constructor
    · intro balanced
      exact dispatchAll_stops leaves never stands front (.balanced balanced) rfl
    · intro opened names within other
      exact dispatchAll_stops leaves never stands front within (by simp [step, other])
  · rw [← exists_flaw_iff events]
    exact exists_congr flaws
  · intro balanced
    rw [result, follow_balanced balanced]

/-! ## A handler that takes everything -/

theorem flat_leaves (setup : Setup) :
    (Handler.behaviour setup).LeavesFrames fun h => h = .flat ∨ h = .ignore where
  ignore := .inr rfl
  absorb := by
    rintro _ text (rfl | rfl)
    · exact .inl rfl
    · exact .inr rfl
  startElement := by
    rintro _ name as (rfl | rfl)
    · exact leaves_unaware ((Vocabulary.startFlat_unaware name).mono (by rintro _ rfl; simp))
    · exact leaves_pure (by simp)
  characters := by rintro _ text (rfl | rfl) <;> exact leaves_pure trivial
  endElement := by rintro _ name (rfl | rfl) <;> exact leaves_pure trivial

theorem flat_never (setup : Setup) :
    (Handler.behaviour setup).NeverFails fun h => h = .flat ∨ h = .ignore where
  startElement := by
    rintro _ name as (rfl | rfl) m _
    · refine ⟨some .flat, ?_⟩
      have named : m.work.diagram = none → (Desk.setDiagram (.named name) m.work).1 = .ok () := by
        intro unset
        simp [Desk.setDiagram, unset]
      simp only [Handler.behaviour, Handler.behaviourWith, Handler.startElement, onWork_apply,
        Work.bind_apply, Work.current_apply]
      cases set : m.work.diagram with
      | some diagram => rfl
      | none => exact congrArg Prod.fst (Work.bind_ok (Prod.ext (named set) rfl))
    · exact ⟨none, rfl⟩
  characters := by rintro _ text (rfl | rfl) m _ <;> exact ⟨(), rfl⟩
  endElement := by rintro _ name (rfl | rfl) m _ <;> exact ⟨(), rfl⟩

theorem nesting_checked_of_crossing :
    let es : List Event := [.start "a" [], .characters "x", .start "b" [], .finish "a", .finish "b"]
    let rested : Machine Handler Desk := ⟨[], false, Desk.fresh .builtin⟩
    Flaw es (.crossed (some "b") "a") ∧ ¬ Balanced es ∧
    ((Handler.behaviour .plain).parse .flat (.ofEvents es) rested).1 =
      .error (.malformed (.crossed (some "b") "a")) := by
  intro es rested
  have outcome : ((Handler.behaviour .plain).parse .flat (.ofEvents es) rested).1 =
      .error (.malformed (.crossed (some "b") "a")) := by rfl
  have events : ∀ e ∈ es, e ≠ .alien := by decide
  obtain ⟨_, _, _, flaws, balance, _⟩ := nesting_checked (m := rested)
    (flat_leaves .plain) (flat_never .plain) (.inl rfl) rfl events
  exact ⟨(flaws _).mp outcome, balance.mp ⟨_, outcome⟩, outcome⟩

end Pgml.Behaviour
