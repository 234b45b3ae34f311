import Pgml.Proofs.NumberFaults
import Pgml.Proofs.DocumentHandlers

/-! What handlers fail for. An element fails for its numbers, for its owner, for an object that cannot do what is
asked of it, or for a type that makes nothing; the start of a root and the ends of elements have faults of their
own. There is no interrupt among all these: no handler of documents ends a reading from outside. -/
namespace Pgml

open Machine
open Work (Any Ends)

/-- Whether a fault is one of an element's own: of its numbers, of its owner, or of an object that cannot do
what is asked of it. -/
def Fault.ofElement : Fault → Bool
  | .malformed _ | .numeralTooLong | .noOwner _ | .unable => true
  | _ => false

theorem Attributes.Misread.ofElement {as : Attributes} {hint : String} {e : Fault} (misread : as.Misread hint e) :
    e.ofElement = true := by
  rcases misread with ⟨cause, rfl⟩ | ⟨rfl, _⟩ <;> rfl

namespace Vocabulary

open Desk

/-- Work that fails for faults of an element's own only, whatever the desk. -/
abbrev Plain {α : Type} (w : Work Desk α) : Prop :=
  Ends (fun _ => True) (fun e _ => e.ofElement = true) w fun _ _ => True

section

variable {α β : Type}

theorem plain_pure (a : α) : Plain (pure a) := .pure fun _ _ => trivial

theorem plain_update (f : Desk → Desk) : Plain (.update f) := .update fun _ _ => trivial

theorem plain_unable : Plain (.fail .unable : Work Desk α) := .fail fun _ _ => rfl

theorem Plain.bind {w : Work Desk α} {f : α → Work Desk β} (first : Plain w) (next : ∀ a, Plain (f a)) :
    Plain (w >>= f) :=
  Ends.bind first next

theorem plain_current {f : Desk → Work Desk α} (next : ∀ d, Plain (f d)) : Plain (.current >>= f) :=
  .current fun d _ => next d

theorem plain_settle {r : Except Fault α} {as : Attributes} (hint : String)
    (misread : ∀ e, r = .error e → as.Misread hint e) : Plain (.settle r) :=
  (Ends.settle fun e _ _ failed => (misread e failed).ofElement).mono fun _ _ _ => trivial

end

variable (setup : Setup) (c : Container) (as : Attributes) (id : ItemId)

theorem needShape_plain : Plain (needShape id) := by
  intro d _
  unfold needShape
  cases d.shape? id with
  | none => rfl
  | some s => trivial

theorem updateShape_plain (f : Shape → Shape) : Plain (updateShape id f) :=
  (needShape_plain id).bind fun _ => plain_update _

theorem tryShape_plain (f : Shape → Option Shape) : Plain (tryShape id f) := by
  refine (needShape_plain id).bind fun s => ?_
  split
  · exact plain_update _
  · exact plain_unable

theorem setName_plain : Plain (setName id as) := by
  unfold setName
  split
  · exact plain_pure _
  · exact (updateShape_plain id _).bind fun _ => plain_update _

theorem setOwner_plain : Plain (setOwner setup id as) := by
  unfold setOwner
  split
  · exact plain_pure _
  · split
    · exact .fail fun _ _ => rfl
    · exact updateShape_plain id _

/-- Equal stylings stay equal, which is all that matters where only faults are asked for. -/
theorem style_plain (defaults : ColorDefaults) : Plain (style id (Styling.setCommon defaults as)) := by
  intro d _
  have stable : Styling.Stable Eq := by
    refine { style := ?_, resolve := ?_, bounds := ?_ }
    · rintro f s _ rfl
      rfl
    · rintro value default s _ rfl
      exact ⟨rfl, rfl, fun _ _ => trivial⟩
    · rintro b s _ rfl
      rfl
  have twins : Work.Twins Eq (as.Misread "") Any (Styling.setCommon defaults as) (Styling.setCommon defaults as) :=
    Styling.setCommon_twins (fun _ _ => Attributes.int?_misread) stable defaults
  unfold style
  cases d.shape? id with
  | none => rfl
  | some s =>
    rcases ran : Styling.setCommon defaults as ⟨s, d.colors, d.journal⟩ with ⟨e | ⟨⟩, styling⟩
    · have misread : as.Misread "" e := twins.blamed _ _ e rfl (congrArg Prod.fst ran)
      simp only [ran]
      exact misread.ofElement
    · simp only [ran]

theorem setAttributes_plain : Plain (setAttributes setup id as) :=
  (setName_plain as id).bind fun _ => (style_plain as id setup.defaults).bind fun _ => setOwner_plain setup as id

theorem addToEdge_plain (edge : ItemId) : Plain (addToEdge edge id) := by
  refine (needShape_plain edge).bind fun s => plain_current fun d => ?_
  dsimp only
  split
  · split
    · exact updateShape_plain edge _
    · exact plain_update _
  · exact plain_update _

theorem addObject_plain : Plain (addObject c id) := by
  cases c with
  | diagram => exact plain_update _
  | group group => exact tryShape_plain group _
  | edge edge => exact addToEdge_plain id edge
  | tray kind =>
    cases kind with
    | inert => exact plain_unable
    | _ => exact plain_update _

theorem attach_plain : Plain (attach c id) := by
  unfold attach
  split
  · exact addObject_plain c id
  · exact plain_current fun d => plain_update _

theorem placeShape_plain (s : Shape) : Plain (placeShape s) := fun _ _ => trivial

theorem handleText_plain : Plain (handleText setup c as id) := by
  have font : Plain (setFont id as) := by
    unfold setFont
    split
    · exact plain_pure _
    · exact updateShape_plain id _
  have size : Plain (setFontSize id as) := by
    refine (plain_settle "" fun _ => Attributes.int?_misread).bind fun size => ?_
    cases size with
    | none => exact plain_pure _
    | some size => exact updateShape_plain id _
  exact (setAttributes_plain setup as id).bind fun _ => (attach_plain c id).bind fun _ => font.bind fun _ =>
    size.bind fun _ => plain_pure _

theorem handleRectangle_plain : Plain (handleRectangle setup c as id) :=
  (setAttributes_plain setup as id).bind fun _ => (attach_plain c id).bind fun _ => plain_pure _

theorem handleEllipse_plain : Plain (handleEllipse setup c as id) :=
  (setAttributes_plain setup as id).bind fun _ =>
  (plain_settle "" fun _ => Attributes.int_misread).bind fun _ =>
  (plain_settle "" fun _ => Attributes.int_misread).bind fun _ =>
  (updateShape_plain id _).bind fun _ => (attach_plain c id).bind fun _ => plain_pure _

/-! ## Rules -/

theorem decline_plain (name : RuleName) (item : Item) : Plain (decline name item) :=
  (plain_update _).bind fun _ => plain_pure _

theorem hintBounds_plain (geometry : List String) : Plain (.settle (hintBounds geometry)) := by
  -- Any tokens are those of attributes made for the purpose.
  have tokens : ∀ t ∈ geometry, t ∈ Attributes.numerals (geometry.map fun t => ("", t)) "" := by
    intro t member
    exact List.mem_append_left _ (by simpa using member)
  exact plain_settle "" fun _ => hintBounds_misread tokens

theorem groupRule_plain (hinted : Option Hinted) (geometry : List String) :
    Plain (groupRule setup c as hinted geometry) := by
  unfold groupRule
  split
  · exact plain_pure _
  · split
    · refine (attach_plain c _).bind fun _ => (setAttributes_plain setup as _).bind fun _ => ?_
      split
      · exact (hintBounds_plain geometry).bind fun _ => (updateShape_plain _ _).bind fun _ => plain_pure _
      · exact plain_pure _
    · exact (setAttributes_plain setup as _).bind fun _ => (attach_plain c _).bind fun _ => plain_pure _
    · exact decline_plain _ _

theorem textRule_plain (hinted : Option Hinted) : Plain (textRule setup c as hinted) := by
  unfold textRule
  split
  · exact (placeShape_plain _).bind fun id => handleText_plain setup c as id
  · split
    · exact handleText_plain setup c as _
    · exact decline_plain _ _

theorem pathRule_plain (hinted : Option Hinted) : Plain (pathRule setup c as hinted) := by
  have handled (id : ItemId) (content : Handler) : Plain (do
      setAttributes setup id as
      attach c id
      return Verdict.handled (some content)) :=
    (setAttributes_plain setup as id).bind fun _ => (attach_plain c id).bind fun _ => plain_pure _
  unfold pathRule
  split
  · exact (placeShape_plain _).bind fun id => handled id _
  · split
    · exact handled _ _
    · exact handled _ _
    · exact decline_plain _ _

theorem privateRule_plain (hinted : Option Hinted) : Plain (privateRule c hinted) := by
  have belongs : Plain (if c.takesObjects then pure (.handled (some (.wrapper c "")))
      else note (.privateContainer Container.inertName) >>= fun _ => pure .declined : Work Desk Verdict) := by
    split
    · exact plain_pure _
    · exact (plain_update _).bind fun _ => plain_pure _
  cases hinted with
  | none => exact belongs
  | some h => exact (plain_update _).bind fun _ => belongs

theorem rectangleRule_plain (hinted : Option Hinted) : Plain (rectangleRule setup c as hinted) := by
  refine (plain_settle "" fun _ => Attributes.int_misread).bind fun rounding => ?_
  split
  · exact (placeShape_plain _).bind fun id => handleRectangle_plain setup c as id
  · split
    · split
      · exact (updateShape_plain _ _).bind fun _ => handleRectangle_plain setup c as _
      · exact handleRectangle_plain setup c as _
    · exact plain_pure _

theorem ellipseRule_plain (hinted : Option Hinted) : Plain (ellipseRule setup c as hinted) := by
  unfold ellipseRule
  split
  · exact (placeShape_plain _).bind fun id => handleEllipse_plain setup c as id
  · split
    · exact handleEllipse_plain setup c as _
    · exact decline_plain _ _

theorem rule_plain (name : String) (hinted : Option Hinted) (geometry : List String) :
    Plain (rule setup c name as hinted geometry) := by
  unfold rule
  split
  · exact groupRule_plain setup c as hinted geometry
  · exact textRule_plain setup c as hinted
  · exact pathRule_plain setup c as hinted
  · exact pathRule_plain setup c as hinted
  · exact privateRule_plain c hinted
  · exact rectangleRule_plain setup c as hinted
  · exact ellipseRule_plain setup c as hinted
  · exact plain_pure _

theorem addUnrecognized_plain (name : String) (hinted : Option Hinted) :
    Plain (addUnrecognized setup c name as hinted) := by
  refine (plain_update _).bind fun _ => ?_
  split
  · exact plain_pure _
  · split
    · exact (setAttributes_plain setup as _).bind fun _ => attach_plain c _
    · exact attach_plain c _

theorem applyRule_plain (name : String) (hinted : Option Hinted) (geometry : List String) :
    Plain (applyRule setup c name as hinted geometry) := by
  refine (rule_plain setup c as name hinted geometry).bind fun verdict => ?_
  cases verdict with
  | handled content => exact plain_pure _
  | declined => exact (addUnrecognized_plain setup c as name hinted).bind fun _ => plain_pure _

theorem takeOver_plain (name : String) (plan : Plan) : Plain (takeOver setup c name as id plan) := by
  rw [takeOver_eq]
  have styled : Plain (if plan.style then setAttributes setup id as else pure ()) := by
    split
    · exact setAttributes_plain setup as id
    · exact plain_pure _
  have attached : Plain (if plan.attach then addObject c id else pure ()) := by
    split
    · exact addObject_plain c id
    · exact plain_pure _
  refine styled.bind fun _ => attached.bind fun _ => ?_
  cases plan.successor with
  | redispatch => exact applyRule_plain setup c _ name none []
  | _ => exact plain_pure _

/-! ## Works that are not interrupted -/

/-- Work that fails, if at all, for faults of the reading itself. -/
abbrev Unbroken {α : Type} (w : Work Desk α) : Prop :=
  Ends (fun _ => True) (fun e _ => e.isInterrupt = false) w fun _ _ => True

theorem Plain.unbroken {α : Type} {w : Work Desk α} (plain : Plain w) : Unbroken w := by
  refine plain.excuse fun e _ ofElement => ?_
  rcases e.isInterrupt_cases with own | ⟨cause, rfl⟩
  · exact own
  · contradiction

theorem Unbroken.bind {α β : Type} {w : Work Desk α} {f : α → Work Desk β} (first : Unbroken w)
    (next : ∀ a, Unbroken (f a)) : Unbroken (w >>= f) :=
  Ends.bind first next

theorem unbroken_pure {α : Type} (a : α) : Unbroken (pure a) := .pure fun _ _ => trivial

theorem create_unbroken {types : TypeTable} {type : String} {e : Fault} (failed : types.create type = .error e) :
    e.isInterrupt = false := by
  unfold TypeTable.create at failed
  split at failed
  · obtain rfl := Except.error.inj failed
    rfl
  · split at failed
    · contradiction
    · obtain rfl := Except.error.inj failed
      rfl

theorem createHinted_unbroken (type hint : String) : Unbroken (createHinted setup type hint) := by
  unfold createHinted
  split
  · exact fun _ _ => trivial
  · exact (plain_update _).unbroken.bind fun _ => unbroken_pure _
  next failed => exact .fail fun _ _ => create_unbroken failed

theorem dispatch_unbroken (name : String) : Unbroken (dispatch setup c name as) := by
  unfold dispatch
  split
  · exact (applyRule_plain setup c as name none []).unbroken
  · split
    · exact (plain_update _).unbroken.bind fun _ => (applyRule_plain setup c as name none []).unbroken
    · refine (createHinted_unbroken setup _ _).bind fun hinted => ?_
      split
      · exact (takeOver_plain setup c as _ name _).unbroken
      · exact (applyRule_plain setup c as name hinted _).unbroken

theorem setDiagram_unbroken (diagram : Diagram) : Unbroken (setDiagram diagram) := by
  intro d _
  unfold setDiagram
  cases d.diagram with
  | none => trivial
  | some other => rfl

theorem startRoot_unbroken (name : String) : Unbroken (startRoot setup name as) := by
  unfold startRoot
  split
  · have root : Unbroken (.settle (rootDiagram setup.config.hintAttribute as)) := by
      refine (Ends.settle fun e _ _ failed => ?_).mono fun _ _ _ => trivial
      obtain ⟨_, rfl⟩ := rootDiagram_bad failed
      rfl
    exact root.bind fun _ => (plain_update _).unbroken.bind fun _ => (setDiagram_unbroken _).bind fun _ =>
      unbroken_pure _
  · exact .fail fun _ _ => rfl

theorem point_plain (name : String) : Plain (.settle (point name as)) := plain_settle "" fun _ => point_misread

theorem startInLine_plain (name : String) : Plain (startInLine id name as) := by
  unfold startInLine
  split
  · exact (point_plain as _).bind fun _ => tryShape_plain id _
  · exact (point_plain as _).bind fun _ => tryShape_plain id _
  · exact plain_update _

theorem startInPath_plain (name : String) : Plain (startInPath id name as) := by
  unfold startInPath
  split
  · exact (point_plain as _).bind fun _ => tryShape_plain id _
  · exact plain_update _

theorem boundsOf_plain (ids : List ItemId) : Plain (boundsOf ids) := by
  unfold boundsOf
  induction ids with
  | nil => exact plain_pure _
  | cons id ids ih =>
    rw [List.mapM_cons]
    exact ((needShape_plain id).bind fun _ => plain_pure _).bind fun _ => ih.bind fun _ => plain_pure _

theorem calcBounds_unbroken : Unbroken (calcBounds id) := by
  refine (needShape_plain id).unbroken.bind fun s => ?_
  split
  · refine (boundsOf_plain _).unbroken.bind fun boxes => ?_
    split
    · exact (updateShape_plain id _).unbroken
    · exact unbroken_pure _
  · exact .fail fun _ _ => rfl
  · exact (updateShape_plain id _).unbroken
  · exact (updateShape_plain id _).unbroken
  · exact plain_unable.unbroken

theorem setEdgeEntry_plain (key value : String) : Plain (setEdgeEntry id key value) := by
  unfold setEdgeEntry
  split
  · exact updateShape_plain id _
  · refine plain_current fun d => ?_
    dsimp only
    split
    · exact (needShape_plain id).bind fun s => (plain_update _).bind fun _ => updateShape_plain id _
    · exact updateShape_plain id _

theorem setEdgeData_plain (data : List (String × String)) : Plain (setEdgeData id data) := by
  induction data with
  | nil => exact plain_pure _
  | cons entry rest ih => exact (setEdgeEntry_plain id _ _).bind fun _ => ih

theorem setPrivateData_plain (data : Table String) : Plain (setPrivateData data c) := by
  cases c with
  | diagram => exact plain_update _
  | group group => exact updateShape_plain group _
  | edge edge => exact setEdgeData_plain edge _
  | tray kind =>
    cases kind with
    | dataCollector => exact plain_update _
    | handler => exact plain_pure _
    | collector | inert => exact plain_unable

theorem endWrapper_plain (buffer : String) : Plain (endWrapper c buffer) := by
  unfold endWrapper
  dsimp only
  split
  · exact plain_pure _
  · split
    · exact setPrivateData_plain c _
    · exact plain_update _

end Vocabulary

/-! ## Handlers -/

namespace Handler

open Vocabulary

variable (setup : Setup)

theorem onWork_unbroken {H α : Type} {w : Work Desk α} (unbroken : Unbroken w) :
    Machine.Unbroken (onWork w : Step H Desk α) := by
  intro m _ cause broken
  have ended := unbroken m.work trivial
  rcases ran : w m.work with ⟨e | a, d⟩
  · obtain rfl : e = .interrupt cause := by simpa [onWork_apply, ran] using broken
    rw [ran] at ended
    contradiction
  · simp [onWork_apply, ran] at broken

/-- No handler ends a reading from outside, not even one that starts another reading. -/
theorem neverInterrupts (calm : Handler → Prop) : (behaviour setup).NeverInterrupts calm where
  startElement h name as _ := by
    have dispatched (c : Container) : Machine.Unbroken (onWork (dispatch setup c name as) : Step Handler Desk _) :=
      onWork_unbroken (dispatch_unbroken setup c as name)
    have fresh (next : Option Handler) : Machine.Unbroken (onWork (do
        Desk.setDiagram (.named name)
        return next) : Step Handler Desk _) :=
      onWork_unbroken ((setDiagram_unbroken _).bind fun _ => unbroken_pure next)
    cases h with
    | root => exact onWork_unbroken ((startRoot_unbroken setup as name).bind fun _ => unbroken_pure _)
    | anyRoot => exact fresh (some .diagram)
    | popping => exact fresh none
    | noRoot | ignore | text => exact fun _ _ _ absurd => by contradiction
    | nestedReading =>
      intro m reading cause broken
      have refused : (behaviour setup).startElement .nestedReading name as m =
          (.error (.misuse .alreadyReading), m) := Work.bind_error (innerReading_refused setup reading)
      rw [refused] at broken
      cases Except.error.inj broken
    | flat =>
      refine onWork_unbroken (.current fun d _ => ?_)
      dsimp only
      split
      · exact (setDiagram_unbroken _).bind fun _ => unbroken_pure _
      · exact unbroken_pure _
    | diagram => exact dispatched .diagram
    | group id => exact dispatched (.group id)
    | edge id => exact dispatched (.edge id)
    | line id => exact onWork_unbroken ((startInLine_plain as id name).unbroken.bind fun _ => unbroken_pure _)
    | polygon id => exact onWork_unbroken ((startInPath_plain as id name).unbroken.bind fun _ => unbroken_pure _)
    | wrapper c => exact dispatched c
  characters h text _ := by
    cases h with
    | popping =>
      rintro ⟨_ | ⟨frame, rest⟩, reading, work⟩ _ cause broken
      · cases Except.error.inj broken
      · contradiction
    | _ => exact fun _ _ _ absurd => by contradiction
  endElement h name _ := by
    cases h with
    | group id derive =>
      cases derive with
      | true => exact onWork_unbroken (calcBounds_unbroken id)
      | false => exact fun _ _ _ absurd => by contradiction
    | text id buffer => exact onWork_unbroken (updateShape_plain id _).unbroken
    | wrapper c buffer => exact onWork_unbroken (endWrapper_plain c buffer).unbroken
    | _ => exact fun _ _ _ absurd => by contradiction

end Handler

end Pgml
