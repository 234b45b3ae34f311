import Pgml.Proofs.SimilarDesks

/-! The rules of elements. All of them come to the same at similar desks, and whatever an element is and
wherever it stands, the handler of its content is a nested one. -/
namespace Pgml

/-- The handlers that elements inside a diagram can get. -/
def Handler.isNested : Handler → Bool
  | .ignore | .group .. | .edge _ | .text .. | .line _ | .polygon _ | .wrapper .. => true
  | _ => false

/-- Answers that bring a nested handler if they bring any. -/
def Handler.Nests (next : Option Handler) : Prop := ∀ h, next = some h → h.isNested = true

def Verdict.Nests : Verdict → Prop
  | .handled content => Handler.Nests content
  | .declined => True

theorem Handler.nests_none : Nests none := by simp [Nests]

theorem Handler.nests_some {h : Handler} (nested : h.isNested = true) : Nests (some h) := by
  simpa [Nests] using nested

namespace Vocabulary

open Desk
open Work (Any)

variable {R : Desk → Desk → Prop} [Similar R] (setup : Setup) (c : Container) (as : Attributes)

theorem setName_unaware (id : ItemId) : Unaware R Any (setName id as) := by
  unfold setName
  split
  · exact .pure trivial
  · exact (updateShape_unaware id _).bind fun _ _ => registerName_unaware _ id

theorem setOwner_unaware (id : ItemId) : Unaware R Any (setOwner setup id as) := by
  unfold setOwner
  split
  · exact .pure trivial
  · split
    · exact .fail _
    · exact updateShape_unaware id _

theorem setAttributes_unaware (id : ItemId) : Unaware R Any (setAttributes setup id as) :=
  (setName_unaware as id).bind fun _ _ =>
  (Similar.style id setup.defaults as).bind fun _ _ =>
  setOwner_unaware setup as id

theorem createHinted_unaware (type hint : String) : Unaware R Any (createHinted setup type hint) := by
  unfold createHinted
  split
  · exact (place_unaware _).bind fun id _ => unaware_current (fun _ => .pure trivial) fun d e similar => by simp only [Similar.item? similar]
  · exact (note_unaware _).bind fun _ _ => .pure trivial
  · exact .fail _

theorem attach_unaware (id : ItemId) : Unaware R Any (attach c id) := by
  unfold attach
  split
  · exact addObject_unaware c id
  · exact unaware_current (fun _ => note_unaware _) fun d e similar => by rw [Similar.kindOf similar]

/-! ## Rules -/

theorem decline_unaware (rule : RuleName) (item : Item) : Unaware R Verdict.Nests (decline rule item) :=
  (note_unaware _).bind fun _ _ => .pure trivial

theorem groupRule_unaware (hinted : Option Hinted) (geometry : List String) :
    Unaware R Verdict.Nests (groupRule setup c as hinted geometry) := by
  unfold groupRule
  split
  · exact .pure trivial
  · split
    · refine (attach_unaware c _).bind fun _ _ => (setAttributes_unaware setup as _).bind fun _ _ => ?_
      split
      · exact (Work.Alike.settle _).bind fun _ _ => (updateShape_unaware _ _).bind fun _ _ =>
          .pure (Handler.nests_some rfl)
      · exact .pure (Handler.nests_some rfl)
    · exact (setAttributes_unaware setup as _).bind fun _ _ => (attach_unaware c _).bind fun _ _ =>
        .pure (Handler.nests_some rfl)
    · exact decline_unaware _ _

theorem setFont_unaware (id : ItemId) : Unaware R Any (setFont id as) := by
  unfold setFont
  split
  · exact .pure trivial
  · exact updateShape_unaware id _

theorem setFontSize_unaware (id : ItemId) : Unaware R Any (setFontSize id as) := by
  refine (Work.Alike.settle _).bind fun size _ => ?_
  cases size with
  | none => exact .pure trivial
  | some size => exact updateShape_unaware id _

theorem handleText_unaware (id : ItemId) : Unaware R Verdict.Nests (handleText setup c as id) :=
  (setAttributes_unaware setup as id).bind fun _ _ =>
  (attach_unaware c id).bind fun _ _ =>
  (setFont_unaware as id).bind fun _ _ =>
  (setFontSize_unaware as id).bind fun _ _ => .pure (Handler.nests_some rfl)

theorem textRule_unaware (hinted : Option Hinted) :
    Unaware R Verdict.Nests (textRule setup c as hinted) := by
  unfold textRule
  split
  · exact (place_unaware _).bind fun id _ => handleText_unaware setup c as id
  · split
    · exact handleText_unaware setup c as _
    · exact decline_unaware _ _

theorem pathRule_unaware (hinted : Option Hinted) :
    Unaware R Verdict.Nests (pathRule setup c as hinted) := by
  have handled (id : ItemId) (content : ItemId → Handler) (nested : ∀ id, (content id).isNested = true) :
      Unaware R Verdict.Nests (do
        setAttributes setup id as
        attach c id
        return .handled (some (content id))) :=
    (setAttributes_unaware setup as id).bind fun _ _ => (attach_unaware c id).bind fun _ _ =>
      .pure (Handler.nests_some (nested id))
  unfold pathRule
  split
  · exact (place_unaware _).bind fun id _ => handled id .polygon fun _ => rfl
  · split
    · exact handled _ .line fun _ => rfl
    · exact handled _ .polygon fun _ => rfl
    · exact decline_unaware _ _

theorem privateRule_unaware (hinted : Option Hinted) :
    Unaware R Verdict.Nests (privateRule c hinted) := by
  have belongs : Unaware R Verdict.Nests (if c.takesObjects then
        return .handled (some (.wrapper c ""))
      else do
        note (.privateContainer Container.inertName)
        return .declined) := by
    split
    · exact .pure (Handler.nests_some rfl)
    · exact (note_unaware _).bind fun _ _ => .pure trivial
  cases hinted with
  | none => exact belongs
  | some h => exact (note_unaware _).bind fun _ _ => belongs

theorem handleRectangle_unaware (id : ItemId) :
    Unaware R Verdict.Nests (handleRectangle setup c as id) :=
  (setAttributes_unaware setup as id).bind fun _ _ => (attach_unaware c id).bind fun _ _ =>
    .pure Handler.nests_none

theorem rectangleRule_unaware (hinted : Option Hinted) :
    Unaware R Verdict.Nests (rectangleRule setup c as hinted) := by
  refine (Work.Alike.settle _).bind fun rounding _ => ?_
  split
  · exact (place_unaware _).bind fun id _ => handleRectangle_unaware setup c as id
  · split
    · split
      · exact (updateShape_unaware _ _).bind fun _ _ => handleRectangle_unaware setup c as _
      · exact handleRectangle_unaware setup c as _
    · exact .pure trivial

theorem handleEllipse_unaware (id : ItemId) : Unaware R Verdict.Nests (handleEllipse setup c as id) :=
  (setAttributes_unaware setup as id).bind fun _ _ =>
  (Work.Alike.settle _).bind fun _ _ => (Work.Alike.settle _).bind fun _ _ =>
  (updateShape_unaware id _).bind fun _ _ =>
  (attach_unaware c id).bind fun _ _ => .pure Handler.nests_none

theorem ellipseRule_unaware (hinted : Option Hinted) :
    Unaware R Verdict.Nests (ellipseRule setup c as hinted) := by
  unfold ellipseRule
  split
  · exact (place_unaware _).bind fun id _ => handleEllipse_unaware setup c as id
  · split
    · exact handleEllipse_unaware setup c as _
    · exact decline_unaware _ _

theorem rule_unaware (name : String) (hinted : Option Hinted) (geometry : List String) :
    Unaware R Verdict.Nests (rule setup c name as hinted geometry) := by
  unfold rule
  split
  · exact groupRule_unaware setup c as hinted geometry
  · exact textRule_unaware setup c as hinted
  · exact pathRule_unaware setup c as hinted
  · exact pathRule_unaware setup c as hinted
  · exact privateRule_unaware c hinted
  · exact rectangleRule_unaware setup c as hinted
  · exact ellipseRule_unaware setup c as hinted
  · exact .pure trivial

theorem addUnrecognized_unaware (name : String) (hinted : Option Hinted) :
    Unaware R Any (addUnrecognized setup c name as hinted) := by
  refine (note_unaware _).bind fun _ _ => ?_
  split
  · exact .pure trivial
  · split
    · exact (setAttributes_unaware setup as _).bind fun _ _ => attach_unaware c _
    · exact attach_unaware c _

/-! ## Dispatch -/

theorem applyRule_unaware (name : String) (hinted : Option Hinted) (geometry : List String) :
    Unaware R Handler.Nests (applyRule setup c name as hinted geometry) := by
  refine (rule_unaware setup c as name hinted geometry).bind fun verdict judged => ?_
  cases verdict with
  | handled content => exact .pure judged
  | declined =>
    exact (addUnrecognized_unaware setup c as name hinted).bind fun _ _ => .pure Handler.nests_none

def succeed (name : String) (id : ItemId) : Successor → Work Desk (Option Handler)
  | .nothing => return none
  | .ignore => return some .ignore
  | .group => return some (.group id true)
  | .wrapper => return some (.wrapper c "")
  | .redispatch => dispatchUnhinted setup c name (as.without setup.config.hintAttribute)

theorem takeOver_eq (name : String) (id : ItemId) (plan : Plan) :
    takeOver setup c name as id plan =
      (if plan.style then setAttributes setup id as else pure ()) >>= fun _ =>
      (if plan.attach then Desk.addObject c id else pure ()) >>= fun _ =>
      succeed setup c as name id plan.successor := by
  obtain ⟨_ | _, _ | _, _ | _⟩ := plan <;> rfl

theorem takeOver_unaware (name : String) (id : ItemId) (plan : Plan) :
    Unaware R Handler.Nests (takeOver setup c name as id plan) := by
  rw [takeOver_eq]
  have styled : Unaware R Any (if plan.style then setAttributes setup id as else pure ()) := by
    split
    · exact setAttributes_unaware setup as id
    · exact .pure trivial
  have attached : Unaware R Any (if plan.attach then addObject c id else pure ()) := by
    split
    · exact addObject_unaware c id
    · exact .pure trivial
  refine styled.bind fun _ _ => attached.bind fun _ _ => ?_
  cases plan.successor with
  | nothing => exact .pure Handler.nests_none
  | redispatch => exact applyRule_unaware setup c _ name none []
  | _ => exact .pure (Handler.nests_some rfl)

/-- Whatever an element is and wherever it stands, its handler is a nested one. -/
theorem dispatch_unaware (name : String) :
    Unaware R Handler.Nests (dispatch setup c name as) := by
  unfold dispatch
  split
  · exact applyRule_unaware setup c as name none []
  · split
    · exact (note_unaware _).bind fun _ _ => applyRule_unaware setup c as name none []
    · refine (createHinted_unaware setup _ _).bind fun hinted _ => ?_
      split
      · exact takeOver_unaware setup c as name _ _
      · exact applyRule_unaware setup c as name hinted _

/-! ## Points, the root and ends -/

theorem startInLine_unaware (id : ItemId) (name : String) :
    Unaware R Any (startInLine id name as) := by
  unfold startInLine
  split
  · exact (Work.Alike.settle _).bind fun _ _ => tryShape_unaware id _
  · exact (Work.Alike.settle _).bind fun _ _ => tryShape_unaware id _
  · exact note_unaware _

theorem startInPath_unaware (id : ItemId) (name : String) :
    Unaware R Any (startInPath id name as) := by
  unfold startInPath
  split
  · exact (Work.Alike.settle _).bind fun _ _ => tryShape_unaware id _
  · exact note_unaware _

theorem startRoot_unaware (name : String) :
    Unaware R (· = Handler.diagram) (startRoot setup name as) := by
  unfold startRoot
  split
  · exact (Work.Alike.settle _).bind fun _ _ => (note_unaware _).bind fun _ _ =>
      (setDiagram_unaware _).bind fun _ _ => .pure rfl
  · exact .fail _

theorem startFlat_unaware (name : String) : Unaware R (· = some Handler.flat) (do
    if (← .current).diagram.isNone then Desk.setDiagram (.named name)
    return some .flat) := by
  refine unaware_current (fun d => ?_) fun d e similar => by simp only [Similar.diagram similar]
  dsimp only
  split
  · exact (setDiagram_unaware _).bind fun _ _ => .pure rfl
  · exact .pure rfl

theorem endWrapper_unaware (buffer : String) : Unaware R Any (endWrapper c buffer) := by
  unfold endWrapper
  dsimp only
  split
  · exact .pure trivial
  · split
    · exact setPrivateData_unaware _ c
    · exact note_unaware _

end Vocabulary

end Pgml
