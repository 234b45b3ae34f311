import Pgml.Proofs.ElementEffects
import Pgml.Proofs.PairedWorks
import Pgml.Proofs.SimilarRules

/-! Elements at paired desks. The rules of elements and the dispatch go in step in containers that are
counterparts, whatever the element is, if what types make refers to nothing outside of it. -/
namespace Pgml

open Work (Any)

/-- What a type makes refers to nothing outside of it. -/
def Recipe.Closed (r : Recipe) : Prop := ∀ drawing ∈ r.build.toOption, drawing.Closed

instance (r : Recipe) : Decidable r.Closed :=
  inferInstanceAs (Decidable (∀ drawing ∈ r.build.toOption, drawing.Closed))

def TypeTable.Closed (types : TypeTable) : Prop := ∀ entry ∈ types.entries, entry.2.Closed

instance (types : TypeTable) : Decidable types.Closed :=
  inferInstanceAs (Decidable (∀ entry ∈ types.entries, entry.2.Closed))

theorem TypeTable.Closed.create {types : TypeTable} (closed : types.Closed) {id : String} {drawing : Drawing}
    (made : types.create id = .ok drawing) : drawing.Closed := by
  unfold TypeTable.create at made
  cases found : types.get? id with
  | none => simp [found] at made
  | some recipe =>
    obtain ⟨key, member⟩ := mem_of_lookup found
    cases built : recipe.build with
    | error reason => simp [found, built] at made
    | ok d =>
      obtain rfl : d = drawing := by simpa [found, built] using made
      exact closed _ member d (by simp [built, Except.toOption])

namespace Vocabulary

open Desk Work

variable {p : Pairing} {i j : ItemId} {c c' : Container} (setup : Setup) (as : Attributes)

theorem setName_abreast (pair : p i j) : Abreast p (setName i as) (setName j as) := by
  unfold setName
  split
  · exact .pure trivial
  · refine (updateShape_abreast pair ?_).bind fun _ _ => registerName_abreast _ pair
    rintro _ _ ⟨variants⟩
    exact ⟨variants⟩

theorem setOwner_abreast (pair : p i j) : Abreast p (setOwner setup i as) (setOwner setup j as) := by
  unfold setOwner
  split
  · exact .pure trivial
  · split
    · exact .fail _
    · refine updateShape_abreast pair ?_
      rintro _ _ ⟨variants⟩
      exact ⟨variants⟩

theorem setAttributes_abreast (pair : p i j) :
    Abreast p (setAttributes setup i as) (setAttributes setup j as) :=
  (setName_abreast as pair).bind fun _ _ =>
  (style_abreast pair setup.defaults as).bind fun _ _ =>
  setOwner_abreast setup as pair

theorem attach_abreast (containers : c.Paired p c') (pair : p i j) : Abreast p (attach c i) (attach c' j) := by
  unfold attach
  rw [containers.takesObjects]
  split
  · exact addObject_abreast containers pair
  · refine .current fun d e paired => ?_
    rw [paired.kindOf pair]
    exact note_abreast _

/-- A change of texts, which does nothing to other shapes. -/
theorem updateText_abreast (pair : p i j) (f : String → String → Int → Variant)
    (texts : ∀ content family size, (f content family size).Paired p (f content family size)) :
    let change (s : Shape) : Shape := match s.variant with
      | .text content family size => { s with variant := f content family size }
      | _ => s
    Abreast p (updateShape i change) (updateShape j change) := by
  refine updateShape_abreast pair ?_
  rintro _ _ ⟨variants⟩
  have whole := variants
  cases variants with
  | text content family size => exact ⟨texts content family size⟩
  | _ => exact ⟨whole⟩

theorem setFont_abreast (pair : p i j) : Abreast p (setFont i as) (setFont j as) := by
  unfold setFont
  split
  · exact .pure trivial
  · rename_i font _
    exact updateText_abreast pair (fun content _ size => .text content font size) fun _ _ _ => .text _ _ _

theorem setFontSize_abreast (pair : p i j) : Abreast p (setFontSize i as) (setFontSize j as) := by
  refine (Work.Alike.settle _).bind fun size _ => ?_
  cases size with
  | none => exact .pure trivial
  | some size =>
    exact updateText_abreast pair (fun content family _ => .text content family size) fun _ _ _ => .text _ _ _

theorem setContent_abreast (pair : p i j) (content : String) :
    Abreast p (updateShape i (setContent content)) (updateShape j (setContent content)) :=
  updateText_abreast pair (fun _ family size => .text content family size) fun _ _ _ => .text _ _ _

theorem setRadius_abreast (pair : p i j) (radius : Int) :
    Abreast p (updateShape i (setRadius radius)) (updateShape j (setRadius radius)) := by
  refine updateShape_abreast pair ?_
  rintro _ _ ⟨variants⟩
  have whole := variants
  cases variants with
  | roundedRectangle _ => exact ⟨.roundedRectangle radius⟩
  | _ => exact ⟨whole⟩

/-! ## Rules -/

variable (containers : c.Paired p c') {hinted other : Option Hinted} (made : Option.Rel (Hinted.Paired p) hinted other)

theorem decline_lockstep (rule : RuleName) {a b : Item} (items : a.Paired p b) :
    Lockstep Desk.Paired p Verdict.Paired (decline rule a) (decline rule b) := by
  unfold decline
  rw [items.kind]
  exact .behind (note_abreast _) fun _ _ => .pure .declined

include containers

/-- An object with its attributes in the container, and a handler of its content. -/
theorem handled_lockstep (pair : p i j) {h k : Handler} (handlers : h.Paired p k) :
    Lockstep Desk.Paired p Verdict.Paired
      (do setAttributes setup i as; attach c i; return .handled (some h))
      (do setAttributes setup j as; attach c' j; return .handled (some k)) :=
  .behind (setAttributes_abreast setup as pair) fun _ _ =>
  .behind (attach_abreast containers pair) fun _ _ => .pure (.handled (.some handlers))

theorem handleText_lockstep (pair : p i j) :
    Lockstep Desk.Paired p Verdict.Paired (handleText setup c as i) (handleText setup c' as j) :=
  .behind (setAttributes_abreast setup as pair) fun _ _ =>
  .behind (attach_abreast containers pair) fun _ _ =>
  .behind (setFont_abreast as pair) fun _ _ =>
  .behind (setFontSize_abreast as pair) fun _ _ => .pure (.handled (.some (.text "" pair)))

theorem handleRectangle_lockstep (pair : p i j) :
    Lockstep Desk.Paired p Verdict.Paired (handleRectangle setup c as i) (handleRectangle setup c' as j) :=
  .behind (setAttributes_abreast setup as pair) fun _ _ =>
  .behind (attach_abreast containers pair) fun _ _ => .pure (.handled .none)

theorem handleEllipse_lockstep (pair : p i j) :
    Lockstep Desk.Paired p Verdict.Paired (handleEllipse setup c as i) (handleEllipse setup c' as j) := by
  refine .behind (setAttributes_abreast setup as pair) fun _ _ =>
    .behind (Alike.settle _) fun rx _ => .behind (Alike.settle _) fun ry _ => ?_
  refine .behind (updateShape_abreast pair ?_) fun _ _ =>
    .behind (attach_abreast containers pair) fun _ _ => .pure (.handled .none)
  rintro _ _ ⟨variants⟩
  exact ⟨variants⟩

omit containers in
/-- A new object without parts is its own counterpart. -/
theorem placeShape_lockstep {s : Shape} (alone : s.variant.refs = []) :
    Lockstep Desk.Paired p (fun q i j => q i j) (placeShape s) (placeShape s) := by
  intro d e paired
  have closed : (Drawing.ofShape s).Closed := by simp [Drawing.Closed, Drawing.ofShape, Drawing.ofItem, Item.refs, alone]
  refine ⟨_, p.le_grow _ _ _, paired.place closed, .ok (.inr ⟨⟨0⟩, Nat.zero_lt_one, ?_, ?_⟩)⟩
  · simp [ItemId.shift]
  · simp [ItemId.shift]

include made

theorem groupRule_lockstep (geometry : List String) :
    Lockstep Desk.Paired p Verdict.Paired (groupRule setup c as hinted geometry)
      (groupRule setup c' as other geometry) := by
  cases made with
  | none => exact .pure .declined
  | some both =>
    obtain ⟨pair, items⟩ := both
    have whole := items
    cases items with
    | thing => exact decline_lockstep _ whole
    | shape shapes =>
      obtain ⟨variants⟩ := shapes
      cases variants with
      | group plan children =>
        refine .behind (attach_abreast containers pair) fun _ _ =>
          .behind (setAttributes_abreast setup as pair) fun _ _ => ?_
        split
        · exact .behind (Alike.settle _) fun b _ => .behind (setBounds_abreast pair b) fun _ _ =>
            .pure (.handled (.some (.group _ pair)))
        · exact .pure (.handled (.some (.group _ pair)))
      | edge => exact handled_lockstep setup as containers pair (.edge pair)
      | _ => exact decline_lockstep _ whole

theorem textRule_lockstep :
    Lockstep Desk.Paired p Verdict.Paired (textRule setup c as hinted) (textRule setup c' as other) := by
  cases made with
  | none =>
    exact (placeShape_lockstep rfl).bind fun q le i j pair =>
      handleText_lockstep setup as (containers.mono le) pair
  | some both =>
    obtain ⟨pair, items⟩ := both
    have whole := items
    cases items with
    | thing => exact decline_lockstep _ whole
    | shape shapes =>
      obtain ⟨variants⟩ := shapes
      cases variants with
      | text => exact handleText_lockstep setup as containers pair
      | _ => exact decline_lockstep _ whole

theorem pathRule_lockstep :
    Lockstep Desk.Paired p Verdict.Paired (pathRule setup c as hinted) (pathRule setup c' as other) := by
  cases made with
  | none =>
    exact (placeShape_lockstep rfl).bind fun q le i j pair =>
      handled_lockstep setup as (containers.mono le) pair (.polygon pair)
  | some both =>
    obtain ⟨pair, items⟩ := both
    have whole := items
    cases items with
    | thing => exact decline_lockstep _ whole
    | shape shapes =>
      obtain ⟨variants⟩ := shapes
      cases variants with
      | line => exact handled_lockstep setup as containers pair (.line pair)
      | polygon => exact handled_lockstep setup as containers pair (.polygon pair)
      | _ => exact decline_lockstep _ whole

theorem privateRule_lockstep :
    Lockstep Desk.Paired p Verdict.Paired (privateRule c hinted) (privateRule c' other) := by
  have belongs : Lockstep Desk.Paired p Verdict.Paired
      (if c.takesObjects then return .handled (some (.wrapper c "")) else do
        note (.privateContainer Container.inertName)
        return .declined)
      (if c'.takesObjects then return .handled (some (.wrapper c' "")) else do
        note (.privateContainer Container.inertName)
        return .declined) := by
    rw [containers.takesObjects]
    split
    · exact .pure (.handled (.some (.wrapper "" containers)))
    · exact .behind (note_abreast _) fun _ _ => .pure .declined
  cases made with
  | none => exact belongs
  | some both =>
    obtain ⟨_, items⟩ := both
    unfold privateRule
    dsimp only
    rw [items.kind]
    exact .behind (note_abreast _) fun _ _ => belongs

theorem rectangleRule_lockstep :
    Lockstep Desk.Paired p Verdict.Paired (rectangleRule setup c as hinted) (rectangleRule setup c' as other) := by
  refine .behind (Alike.settle _) fun rounding _ => ?_
  cases made with
  | none =>
    refine (placeShape_lockstep ?_).bind fun q le i j pair =>
      handleRectangle_lockstep setup as (containers.mono le) pair
    split <;> rfl
  | some both =>
    obtain ⟨pair, items⟩ := both
    cases items with
    | thing => exact .pure .declined
    | shape =>
      dsimp only
      split
      · exact .behind (setRadius_abreast pair rounding) fun _ _ =>
          handleRectangle_lockstep setup as containers pair
      · exact handleRectangle_lockstep setup as containers pair

theorem ellipseRule_lockstep :
    Lockstep Desk.Paired p Verdict.Paired (ellipseRule setup c as hinted) (ellipseRule setup c' as other) := by
  cases made with
  | none =>
    exact (placeShape_lockstep rfl).bind fun q le i j pair =>
      handleEllipse_lockstep setup as (containers.mono le) pair
  | some both =>
    obtain ⟨pair, items⟩ := both
    have whole := items
    cases items with
    | thing => exact decline_lockstep _ whole
    | shape shapes =>
      obtain ⟨variants⟩ := shapes
      cases variants with
      | ellipse => exact handleEllipse_lockstep setup as containers pair
      | _ => exact decline_lockstep _ whole

theorem rule_lockstep (name : String) (geometry : List String) :
    Lockstep Desk.Paired p Verdict.Paired (rule setup c name as hinted geometry)
      (rule setup c' name as other geometry) := by
  unfold rule
  split
  · exact groupRule_lockstep setup as containers made geometry
  · exact textRule_lockstep setup as containers made
  · exact pathRule_lockstep setup as containers made
  · exact pathRule_lockstep setup as containers made
  · exact privateRule_lockstep containers made
  · exact rectangleRule_lockstep setup as containers made
  · exact ellipseRule_lockstep setup as containers made
  · exact .pure .declined

theorem addUnrecognized_abreast (name : String) :
    Abreast p (addUnrecognized setup c name as hinted) (addUnrecognized setup c' name as other) := by
  refine (note_abreast _).bind fun _ _ => ?_
  cases made with
  | none => exact .pure trivial
  | some both =>
    obtain ⟨pair, items⟩ := both
    cases items with
    | thing => exact attach_abreast containers pair
    | shape =>
      exact (setAttributes_abreast setup as pair).bind fun _ _ => attach_abreast containers pair

/-! ## Dispatch -/

theorem applyRule_lockstep (name : String) (geometry : List String) :
    Lockstep Desk.Paired p (fun q => Option.Rel (Handler.Paired q)) (applyRule setup c name as hinted geometry)
      (applyRule setup c' name as other geometry) := by
  refine (rule_lockstep setup as containers made name geometry).bind fun q le v w verdicts => ?_
  cases verdicts with
  | handled handlers => exact .pure handlers
  | declined =>
    have later := rel_mono (fun _ _ => Hinted.Paired.mono le) made
    exact .behind (addUnrecognized_abreast setup as (containers.mono le) later name) fun _ _ => .pure .none

omit made

theorem takeOver_lockstep (name : String) (pair : p i j) (plan : Plan) :
    Lockstep Desk.Paired p (fun q => Option.Rel (Handler.Paired q)) (takeOver setup c name as i plan)
      (takeOver setup c' name as j plan) := by
  rw [takeOver_eq, takeOver_eq]
  have styled : Abreast p (if plan.style then setAttributes setup i as else pure ())
      (if plan.style then setAttributes setup j as else pure ()) := by
    split
    · exact setAttributes_abreast setup as pair
    · exact .pure trivial
  have attached : Abreast p (if plan.attach then addObject c i else pure ())
      (if plan.attach then addObject c' j else pure ()) := by
    split
    · exact addObject_abreast containers pair
    · exact .pure trivial
  refine .behind styled fun _ _ => .behind attached fun _ _ => ?_
  cases plan.successor with
  | nothing => exact .pure .none
  | ignore => exact .pure (.some .ignore)
  | group => exact .pure (.some (.group true pair))
  | wrapper => exact .pure (.some (.wrapper "" containers))
  | redispatch => exact applyRule_lockstep setup _ containers .none name []

omit containers in
theorem createHinted_lockstep (closed : setup.types.Closed) (type hint : String) :
    Lockstep Desk.Paired p (fun q => Option.Rel (Hinted.Paired q)) (createHinted setup type hint)
      (createHinted setup type hint) := by
  unfold createHinted
  split
  · rename_i drawing created
    intro d e paired
    have there := paired.place (closed.create created)
    refine ⟨_, p.le_grow _ _ _, there, ?_⟩
    -- The object itself is the first one of the drawing, if there is any.
    have first (d : Desk) : (place drawing d).2.item? ⟨d.items.size⟩ = drawing.items[0]?.map (·.shift d.items.size) := by
      simp [item?_place]
    change Results _ (.ok (((place drawing d).2.item? ⟨d.items.size⟩).map (Hinted.mk ⟨d.items.size⟩)))
      (.ok (((place drawing e).2.item? ⟨e.items.size⟩).map (Hinted.mk ⟨e.items.size⟩)))
    refine .ok ?_
    cases items : drawing.items with
    | nil =>
      rw [first, first, items]
      exact .none
    | cons item rest =>
      have pair : p.grow d.items.size e.items.size drawing.items.length ⟨d.items.size⟩ ⟨e.items.size⟩ := by
        refine .inr ⟨⟨0⟩, by simp [items], ?_, ?_⟩ <;> simp [ItemId.shift]
      obtain ⟨a, b, left, right, both⟩ := there.items _ _ pair
      rw [left, right]
      exact .some ⟨items ▸ pair, items ▸ both⟩
  · exact .behind (note_abreast _) fun _ _ => .pure .none
  · exact .fail _

theorem dispatch_lockstep (closed : setup.types.Closed) (name : String) :
    Lockstep Desk.Paired p (fun q => Option.Rel (Handler.Paired q)) (dispatch setup c name as)
      (dispatch setup c' name as) := by
  unfold dispatch
  split
  · exact applyRule_lockstep setup as containers .none name []
  · split
    · exact .behind (note_abreast _) fun _ _ => applyRule_lockstep setup as containers .none name []
    · refine (createHinted_lockstep setup closed _ _).bind fun q le hinted other made => ?_
      have later := containers.mono le
      cases made with
      | none => exact applyRule_lockstep setup as later .none name _
      | some both =>
        obtain @⟨i, j, a, b, pair, items⟩ := both
        have both : Hinted.Paired q ⟨i, a⟩ ⟨j, b⟩ := ⟨pair, items⟩
        simp only [Option.bind_some, both.plan?]
        cases Hinted.plan? ⟨i, a⟩ with
        | none => exact applyRule_lockstep setup as later (.some both) name _
        | some plan => exact takeOver_lockstep setup as later name pair plan

/-! ## Points and ends -/

omit containers

/-- A line with other ends, and nothing else than a line. -/
theorem moveEnds_abreast (pair : p i j) (ends : Int → Int → Int → Int → Int × Int × Int × Int) :
    let move (s : Shape) : Option Shape := match s.variant with
      | .line x1 y1 x2 y2 =>
        let (x1, y1, x2, y2) := ends x1 y1 x2 y2
        some { s with variant := .line x1 y1 x2 y2, bounds := .spanned x1 y1 x2 y2 }
      | _ => none
    Abreast p (tryShape i move) (tryShape j move) := by
  refine tryShape_abreast pair ?_
  rintro _ _ ⟨variants⟩
  cases variants with
  | line => exact .some ⟨.line ..⟩
  | _ => exact .none

theorem startInLine_abreast (pair : p i j) (name : String) :
    Abreast p (startInLine i name as) (startInLine j name as) := by
  unfold startInLine
  split
  · exact (Alike.settle _).bind fun spot _ =>
      moveEnds_abreast pair fun _ _ x2 y2 => (spot.1, spot.2, x2, y2)
  · exact (Alike.settle _).bind fun spot _ =>
      moveEnds_abreast pair fun x1 y1 _ _ => (x1, y1, spot.1, spot.2)
  · exact note_abreast _

theorem startInPath_abreast (pair : p i j) (name : String) :
    Abreast p (startInPath i name as) (startInPath j name as) := by
  have add (x y : Int) : Abreast p (addPoint i x y) (addPoint j x y) := by
    refine tryShape_abreast pair ?_
    rintro _ _ ⟨variants⟩
    cases variants with
    | polygon points => cases points <;> exact .some ⟨.polygon _⟩
    | _ => exact .none
  unfold startInPath
  split
  · exact (Alike.settle _).bind fun spot _ => add spot.1 spot.2
  · exact note_abreast _

theorem endWrapper_abreast (containers : c.Paired p c') (buffer : String) :
    Abreast p (endWrapper c buffer) (endWrapper c' buffer) := by
  unfold endWrapper
  dsimp only
  rw [containers.takesData]
  split
  · exact .pure trivial
  · split
    · exact setPrivateData_abreast _ containers
    · exact note_abreast _

end Vocabulary

end Pgml
