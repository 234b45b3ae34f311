import Pgml.Proofs.SketchEffects

/-! How shapes are handled. Every rule that handles a shape gives it its attributes and offers it to
the container, each exactly once and in either order, and an element that no rule handles does so
too if its type hint made a shape. -/
namespace Pgml

open Desk Vocabulary
open Work (Any Ensures)

/-- The handlers whose elements have no room for shapes. -/
def Handler.isClosed : Handler → Bool
  | .ignore | .text .. | .line _ | .polygon _ => true
  | _ => false

def Interior.Suits (id : ItemId) : Interior → Option Handler → Prop
  | .closed, next => (next.getD .ignore).isClosed = true
  | .group, next => ∃ derive, next = some (.group id derive)
  | .edge, next => next = some (.edge id)

/-- A shape put on a desk and, maybe, given its attributes. -/
def outfit (setup : Setup) (s : Shape) (as : Attributes) (styled : Bool) : Work Desk Unit := do
  let id ← placeShape s
  if styled then setAttributes setup id as else return ()

/-- A desk on which a shape is being handled: whether it has its attributes already, and whether it
was offered to the container. -/
structure Handling (setup : Setup) (c : Container) (around : Surroundings) (s : Shape)
    (as : Attributes) (sk : Sketch) (o : Dress) (styled attached : Bool) (now : Desk) : Prop where
  sketch : now.sketch = sk.extend c
    (if attached then (around.offer s).1.tops ⟨sk.nodes.length⟩ else [])
    [s.node (if styled then as.value? "name" else none)]
    (if attached then (around.offer s).1.warnings s.kind else [])
  dress : ∀ e, e.dress = o → ∃ e', outfit setup s as styled e = (.ok (), e') ∧ e'.dress = now.dress

namespace Handling

variable {setup : Setup} {c : Container} {around : Surroundings} {s : Shape} {as : Attributes}
  {sk : Sketch} {o : Dress} {styled attached : Bool}

theorem placed (plain : s.Plain) :
    Ensures (Shows sk o) (placeShape s) fun id now =>
      id = ⟨sk.nodes.length⟩ ∧ Handling setup c around s as sk o false false now := by
  intro d id now shows ran
  rw [placeShape_apply plain] at ran
  obtain ⟨rfl, rfl⟩ : (⟨d.items.size⟩ : ItemId) = id ∧ _ = now := by simpa using ran
  refine ⟨?_, ?_, ?_⟩
  · rw [← shows.sketch, length_nodes]
  · rw [sketch_push plain c d, shows.sketch]
    rfl
  · intro e same
    refine ⟨{ e with items := e.items.push (.shape s) }, ?_, dress_push (same.trans shows.dress.symm)⟩
    rw [outfit, Work.bind_ok (placeShape_apply plain e)]
    rfl

theorem quiet {α : Type} {answer : α → Prop} {w : Work Desk α} (quiet : Quiet answer w) :
    Ensures (Handling setup c around s as sk o styled attached) w fun a now =>
      Handling setup c around s as sk o styled attached now ∧ answer a := by
  intro d a now handling ran
  obtain ⟨shows, fits⟩ := quiet d.sketch d.dress d a now ⟨rfl, rfl⟩ ran
  exact ⟨⟨shows.sketch.trans handling.sketch, shows.dress ▸ handling.dress⟩, fits⟩

theorem style (plain : s.Plain) :
    Ensures (Handling setup c around s as sk o false attached)
      (setAttributes setup ⟨sk.nodes.length⟩ as)
      fun _ now => Handling setup c around s as sk o true attached now := by
  intro d _ now handling ran
  constructor
  · rw [setAttributes_sketch setup as _ d.sketch d () now rfl ran, handling.sketch, Sketch.rename_newest]
    simp [Shape.node]
  · intro e same
    obtain ⟨e', out, dressed⟩ := handling.dress e same
    have size := size_of_dress dressed
    rw [outfit, Work.bind_ok (placeShape_apply plain e)] at out ⊢
    let put : Desk := { e with items := e.items.push (.shape s) }
    obtain rfl : put = e' := congrArg Prod.snd out
    -- The reference desk has as many objects, so the shape has the same place there.
    have place : e.items.size = sk.nodes.length := by
      have length := length_nodes d
      rw [handling.sketch] at length
      simp only [Sketch.extend, List.length_append, Sketch.length_grow, List.length_singleton] at length
      simp only [put, Array.size_push] at size
      omega
    obtain ⟨answer, same, _⟩ := setAttributes_dressed setup as ⟨sk.nodes.length⟩ put d dressed
    rw [ran] at answer same
    rw [place]
    exact ⟨(setAttributes setup ⟨sk.nodes.length⟩ as put).2, Prod.ext answer rfl, same⟩

theorem attach (takes : sk.Takes c around) :
    Ensures (Handling setup c around s as sk o styled false) (Vocabulary.attach c ⟨sk.nodes.length⟩)
      fun _ now => Handling setup c around s as sk o styled true now := by
  intro d _ now handling ran
  let node := s.node (if styled then as.value? "name" else none)
  have before : d.sketch = sk.extend c [] [node] [] := handling.sketch
  have still : d.sketch.Takes c around := before ▸ Sketch.takes_extend takes [node] []
  have newest : d.sketch.nodes[sk.nodes.length]? = some node := by
    rw [before]
    simp [Sketch.extend, Sketch.grow_nil]
  constructor
  · rw [attach_sketch (s := s) still newest rfl rfl d () now rfl ran, before,
      Sketch.extend_extend takes]
    simp [node]
  · rw [attach_dress still d.dress d () now rfl ran]
    exact handling.dress

theorem hush {α : Type} {answer : α → Prop} {w : Work Desk α} (silent : Quiet answer w) :
    Ensures (Handling setup c around s as sk o styled attached) w fun _ now =>
      Handling setup c around s as sk o styled attached now :=
  (Handling.quiet silent).mono fun _ _ handling => handling.1

end Handling

/-! ## Rules for the shape of a type hint -/

section

variable {setup : Setup} {c : Container} {around : Surroundings} {s : Shape} {as : Attributes}
  {sk : Sketch} {o : Dress}

/-- What a rule says on an object made for its element: either the object is handled, and the
content's handler fits, or all is as before and there is no room in the element. -/
def Judged (setup : Setup) (c : Container) (around : Surroundings) (s : Shape) (as : Attributes)
    (sk : Sketch) (o : Dress) (interior : Interior) (verdict : Verdict) (now : Desk) : Prop :=
  match verdict with
  | .handled next =>
    Handling setup c around s as sk o true true now ∧ interior.Suits ⟨sk.nodes.length⟩ next
  | .declined => Handling setup c around s as sk o false false now ∧ interior = .closed

def Done (setup : Setup) (c : Container) (around : Surroundings) (s : Shape) (as : Attributes)
    (sk : Sketch) (o : Dress) (interior : Interior) (verdict : Verdict) (now : Desk) : Prop :=
  ∃ next, verdict = .handled next ∧ Handling setup c around s as sk o true true now ∧
    interior.Suits ⟨sk.nodes.length⟩ next

theorem judged_of_done {interior : Interior} (verdict : Verdict) (now : Desk)
    (done : Done setup c around s as sk o interior verdict now) :
    Judged setup c around s as sk o interior verdict now := by
  obtain ⟨next, rfl, handling, suits⟩ := done
  exact ⟨handling, suits⟩

theorem decline_judged (rule : RuleName) (item : Item) :
    Ensures (Handling setup c around s as sk o false false) (decline rule item)
      (Judged setup c around s as sk o .closed) := by
  refine (Handling.quiet (decline_quiet rule item)).mono ?_
  rintro _ now ⟨handling, rfl⟩
  exact ⟨handling, rfl⟩

variable (plain : s.Plain) (takes : sk.Takes c around)

include plain takes

theorem groupRule_judged (geometry : List String) :
    Ensures (Handling setup c around s as sk o false false)
      (groupRule setup c as (some ⟨⟨sk.nodes.length⟩, .shape s⟩) geometry)
      (Judged setup c around s as sk o (Setup.interior "group" s.variant)) := by
  obtain ⟨bounds, style, name, owner, data, variant⟩ := s
  cases variant with
  | group children plan =>
    refine (Handling.attach takes).bind fun _ => (Handling.style plain).bind fun _ => ?_
    split
    · exact (Handling.hush (quiet_settle _)).bind fun b => (Handling.hush (setBounds_quiet _ b)).bind
        fun _ => .pure fun _ handling => ⟨handling, _, rfl⟩
    · exact .pure fun _ handling => ⟨handling, _, rfl⟩
  | edge path connections =>
    exact (Handling.style plain).bind fun _ => (Handling.attach takes).bind fun _ =>
      .pure fun _ handling => ⟨handling, rfl⟩
  | _ => exact decline_judged .group _

theorem handleText_done :
    Ensures (Handling setup c around s as sk o false false) (handleText setup c as ⟨sk.nodes.length⟩)
      (Done setup c around s as sk o .closed) :=
  (Handling.style plain).bind fun _ => (Handling.attach takes).bind fun _ =>
  (Handling.hush (setFont_quiet as _)).bind fun _ =>
  (Handling.hush (setFontSize_quiet as _)).bind fun _ => .pure fun _ handling => ⟨_, rfl, handling, rfl⟩

theorem textRule_judged :
    Ensures (Handling setup c around s as sk o false false)
      (textRule setup c as (some ⟨⟨sk.nodes.length⟩, .shape s⟩))
      (Judged setup c around s as sk o .closed) := by
  obtain ⟨bounds, style, name, owner, data, variant⟩ := s
  cases variant with
  | text content family size => exact (handleText_done plain takes).mono judged_of_done
  | _ => exact decline_judged .text _

theorem pathRule_judged :
    Ensures (Handling setup c around s as sk o false false)
      (pathRule setup c as (some ⟨⟨sk.nodes.length⟩, .shape s⟩))
      (Judged setup c around s as sk o .closed) := by
  obtain ⟨bounds, style, name, owner, data, variant⟩ := s
  cases variant with
  | line | polygon =>
    exact (Handling.style plain).bind fun _ => (Handling.attach takes).bind fun _ =>
      .pure fun _ handling => ⟨handling, rfl⟩
  | _ => exact decline_judged .path _

theorem handleRectangle_done :
    Ensures (Handling setup c around s as sk o false false)
      (handleRectangle setup c as ⟨sk.nodes.length⟩) (Done setup c around s as sk o .closed) :=
  (Handling.style plain).bind fun _ => (Handling.attach takes).bind fun _ =>
    .pure fun _ handling => ⟨_, rfl, handling, rfl⟩

theorem rectangleRule_judged :
    Ensures (Handling setup c around s as sk o false false)
      (rectangleRule setup c as (some ⟨⟨sk.nodes.length⟩, .shape s⟩))
      (Judged setup c around s as sk o .closed) := by
  refine (Handling.hush (quiet_settle _)).bind fun rounding => ?_
  dsimp only
  split
  · exact (Handling.hush (updateShape_quiet _ (setRadius_same rounding))).bind fun _ =>
      (handleRectangle_done plain takes).mono judged_of_done
  · exact (handleRectangle_done plain takes).mono judged_of_done

theorem handleEllipse_done :
    Ensures (Handling setup c around s as sk o false false)
      (handleEllipse setup c as ⟨sk.nodes.length⟩) (Done setup c around s as sk o .closed) :=
  (Handling.style plain).bind fun _ => (Handling.hush (quiet_settle _)).bind fun _ =>
  (Handling.hush (quiet_settle _)).bind fun _ =>
  (Handling.hush (updateShape_quiet _ fun s => withBounds_same s _)).bind fun _ =>
  (Handling.attach takes).bind fun _ => .pure fun _ handling => ⟨_, rfl, handling, rfl⟩

theorem ellipseRule_judged :
    Ensures (Handling setup c around s as sk o false false)
      (ellipseRule setup c as (some ⟨⟨sk.nodes.length⟩, .shape s⟩))
      (Judged setup c around s as sk o .closed) := by
  obtain ⟨bounds, style, name, owner, data, variant⟩ := s
  cases variant with
  | ellipse => exact (handleEllipse_done plain takes).mono judged_of_done
  | _ => exact decline_judged .ellipse _

theorem rule_judged {name : String} (other : name ≠ "private") (geometry : List String) :
    Ensures (Handling setup c around s as sk o false false)
      (rule setup c name as (some ⟨⟨sk.nodes.length⟩, .shape s⟩) geometry)
      (Judged setup c around s as sk o (Setup.interior name s.variant)) := by
  unfold rule
  split
  · exact groupRule_judged plain takes geometry
  · exact textRule_judged plain takes
  · exact pathRule_judged plain takes
  · exact pathRule_judged plain takes
  · contradiction
  · exact rectangleRule_judged plain takes
  · exact ellipseRule_judged plain takes
  next group _ _ _ _ _ _ =>
    have closed : Setup.interior name s.variant = .closed := if_neg group
    rw [closed]
    exact .pure fun _ handling => ⟨handling, rfl⟩

/-- The shape of a type hint is handled by a rule or as that of an unrecognized element. -/
theorem applyRule_hinted {name : String} (other : name ≠ "private") (geometry : List String) :
    Ensures (Handling setup c around s as sk o false false)
      (applyRule setup c name as (some ⟨⟨sk.nodes.length⟩, .shape s⟩) geometry)
      fun next now => Handling setup c around s as sk o true true now ∧
        (Setup.interior name s.variant).Suits ⟨sk.nodes.length⟩ next := by
  refine (rule_judged plain takes other geometry).bind fun verdict => ?_
  cases verdict with
  | handled next => exact .pure fun _ judged => judged
  | declined =>
    intro d next now ⟨handling, closed⟩ ran
    rw [closed]
    have added : Ensures (Handling setup c around s as sk o false false)
        (addUnrecognized setup c name as (some ⟨⟨sk.nodes.length⟩, .shape s⟩))
        fun _ now => Handling setup c around s as sk o true true now :=
      (Handling.hush (note_quiet rfl rfl)).bind fun _ => (Handling.style plain).bind fun _ =>
        Handling.attach takes
    have answered : Ensures (Handling setup c around s as sk o false false)
        (addUnrecognized setup c name as (some ⟨⟨sk.nodes.length⟩, .shape s⟩) >>= fun _ => pure none)
        fun next now => Handling setup c around s as sk o true true now ∧
          Interior.closed.Suits ⟨sk.nodes.length⟩ next :=
      added.bind fun _ => .pure fun _ done => ⟨done, rfl⟩
    exact answered d next now handling ran

end

end Pgml
