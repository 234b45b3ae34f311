import Pgml.Proofs.FrameDiscipline
import Pgml.Proofs.SimilarRules

/-! The handlers of documents among handlers of any kind. All of them but the one that pops
frames leave the frames alone and do not look at them, so documents can be read by recursion. -/
namespace Pgml

open Machine
open Work (Any)

/-- The setup of a reader that nothing was set for. -/
def Setup.plain : Setup := ⟨.initial, .empty, .builtin, .empty, ⟨.pureBlue, .white⟩⟩

namespace Machine

variable {H S α : Type}

theorem onWork_apply (w : Work S α) (m : Machine H S) :
    onWork w m = ((w m.work).1, { m with work := (w m.work).2 }) := rfl

theorem leaves_onWork {answer : α → Prop} {w : Work S α} (yields : Work.Yields Any answer w) :
    Leaves answer (onWork w : Step H S α) :=
  fun m reading => ⟨rfl, reading, (yields m.work trivial).2⟩

theorem leaves_any (w : Work S α) : Leaves Any (onWork w : Step H S α) :=
  leaves_onWork fun _ _ => ⟨trivial, fun _ _ => trivial⟩

theorem leaves_unaware {answer : α → Prop} {w : Work Desk α}
    (unaware : Desk.Unaware Eq answer w) : Leaves answer (onWork w : Step H Desk α) :=
  leaves_onWork fun d _ => ⟨trivial, (unaware d d rfl).2.2⟩

theorem leaves_pure {answer : α → Prop} {a : α} (fits : answer a) :
    Leaves answer (pure a : Step H S α) := by
  intro m reading
  refine ⟨rfl, reading, ?_⟩
  rintro _ ⟨⟩
  exact fits

theorem alike_onWork (w : Work S α) : Work.Alike Apart Any (onWork w : Step H S α) (onWork w) := by
  intro m t apart
  rw [onWork_apply, onWork_apply, apart.work]
  exact ⟨rfl, ⟨apart.left, apart.right, rfl⟩, fun _ _ => trivial⟩

theorem opened_work (initial : Handler) (feed : Feed) (m : Machine Handler Desk) :
    (m.opened initial feed).work = m.work.cleared.addNotices feed.opening := by
  suffices noted : ∀ (opening : List Notice) (d : Desk),
      opening.foldl (fun s n => Workspace.note n s) d = d.addNotices opening from noted _ _
  intro opening
  induction opening with
  | nil => exact fun _ => rfl
  | cons n opening ih =>
    intro d
    rw [List.foldl_cons, ih]
    simp [Workspace.note, Desk.addNotices]

end Machine

namespace Handler

open Vocabulary

variable (setup : Setup)

/-- The container that gets the shapes made inside a handler's element. -/
def room? : Handler → Option Container
  | .diagram => some .diagram
  | .group id _ => some (.group id)
  | .edge id => some (.edge id)
  | .wrapper c _ => some c
  | _ => none

theorem startElement_room {h : Handler} {c : Container} (room : h.room? = some c) (name : String)
    (as : Attributes) :
    (behaviour setup).startElement h name as = onWork (dispatch setup c name as) := by
  cases h with
  | diagram | group | edge | wrapper =>
    obtain rfl := Option.some.inj room
    rfl
  | _ => contradiction

theorem innerReading_refused {m : Machine Handler Desk} (reading : m.reading = true) :
    innerReading setup m = (.error (.misuse .alreadyReading), m) := by
  refine Work.bind_error ?_
  simp [Behaviour.parse, reading]

/-- A handler that elements inside a root can have: none that makes a diagram, nor the one that pops
frames. -/
def isInner (h : Handler) : Prop := h ≠ .root ∧ h ≠ .popping

theorem isInner_of_nests {next : Option Handler} (nests : Nests next) :
    ∀ child, next = some child → child.isInner := by
  intro child answered
  have nested := nests child answered
  refine ⟨?_, ?_⟩
  · rintro rfl
    simp [isNested] at nested
  · rintro rfl
    simp [isNested] at nested

/-- At a start tag every handler leaves the frames alone and answers an inner handler. -/
theorem startElement_leaves (h : Handler) (name : String) (as : Attributes) :
    Leaves (fun next : Option Handler => ∀ child, next = some child → child.isInner)
      ((behaviour setup).startElement h name as) := by
  have answers (c : Container) :
      Leaves (fun next : Option Handler => ∀ child, next = some child → child.isInner)
        (onWork (dispatch setup c name as) : Step Handler Desk _) :=
    leaves_unaware ((dispatch_unaware setup c as name).mono fun _ => isInner_of_nests)
  cases h with
  | popping =>
    exact leaves_unaware ((Desk.setDiagram_unaware _).bind fun _ _ => .pure (by simp))
  | root =>
    refine leaves_unaware ((startRoot_unaware setup as name).bind ?_)
    rintro _ rfl
    exact .pure (by simp [isInner])
  | nestedReading =>
    intro m reading
    have refused : (behaviour setup).startElement .nestedReading name as m =
        (.error (.misuse .alreadyReading), m) := Work.bind_error (innerReading_refused setup reading)
    simp [refused, reading]
  | noRoot | ignore | text => exact leaves_pure (by simp)
  | anyRoot =>
    exact leaves_unaware ((Desk.setDiagram_unaware _).bind fun _ _ => .pure (by simp [isInner]))
  | flat => exact leaves_unaware ((startFlat_unaware name).mono (by rintro _ rfl; simp [isInner]))
  | diagram => exact answers .diagram
  | group id => exact answers (.group id)
  | edge id => exact answers (.edge id)
  | wrapper c => exact answers c
  | line id =>
    exact leaves_unaware ((startInLine_unaware as id name).bind fun _ _ => .pure (by simp))
  | polygon id =>
    exact leaves_unaware ((startInPath_unaware as id name).bind fun _ _ => .pure (by simp))

/-- So does every handler at an end tag. -/
theorem endElement_leaves (h : Handler) (name : String) :
    Leaves (fun _ => True) ((behaviour setup).endElement h name) := by
  cases h with
  | group id derive =>
    cases derive with
    | true => exact leaves_any _
    | false => exact leaves_pure trivial
  | text | wrapper => exact leaves_any _
  | _ => exact leaves_pure trivial

/-- A handler that does not pop frames leaves them alone, and so do the handlers that it answers. -/
theorem leavesFrames : (behaviour setup).LeavesFrames (· ≠ .popping) where
  ignore := by simp [behaviour, behaviourWith]
  absorb h text calm := by cases h <;> simp_all [behaviour, behaviourWith, absorb]
  startElement h name as _ := (startElement_leaves setup h name as).mono fun _ inner child answered =>
    (inner child answered).2
  characters h text calm := by
    cases h with
    | popping => contradiction
    | _ => exact leaves_pure trivial
  endElement h name _ := endElement_leaves setup h name

/-- No handler but the one that pops frames looks at them. -/
theorem blind : (behaviour setup).Blind (· ≠ .popping) where
  startElement h name as calm := by
    cases h with
    | popping => contradiction
    | nestedReading =>
      intro m t apart
      have refused {m : Machine Handler Desk} (reading : m.reading = true) :
          (behaviour setup).startElement .nestedReading name as m =
            (.error (.misuse .alreadyReading), m) := Work.bind_error (innerReading_refused setup reading)
      rw [refused apart.left, refused apart.right]
      exact ⟨rfl, apart, fun _ _ => trivial⟩
    | noRoot | ignore | text => exact .pure trivial
    | _ => exact alike_onWork _
  characters h text calm := by
    cases h with
    | popping => contradiction
    | _ => exact .pure trivial
  endElement h name calm := by
    cases h with
    | group id derive =>
      cases derive with
      | true => exact alike_onWork _
      | false => exact .pure trivial
    | text | wrapper => exact alike_onWork _
    | _ => exact .pure trivial

end Handler

end Pgml
