import Pgml.Proofs.DocumentHandlers

/-! Content that nobody looks at. If the handler of a start event answers no handler, the element's
content is given to the handler of uninteresting elements, which answers none for elements inside
either, so that nothing is done until the element's end: the document might as well have the element
without its content. -/
namespace Pgml

open Machine
open Work (Ensures)

namespace Behaviour

variable {H S : Type}

/-- The handler of uninteresting elements answers no handlers, keeps nothing and does nothing. -/
structure Ignores (b : Behaviour H S) : Prop where
  startElement : ∀ name as, b.startElement b.ignore name as = pure none
  absorb : ∀ text, b.absorb b.ignore text = b.ignore
  characters : ∀ text, b.characters b.ignore text = pure ()
  endElement : ∀ name, b.endElement b.ignore name = pure ()

variable {b : Behaviour H S}

/-- Balanced content of an uninteresting element leaves the machine as it is, whatever frames are
below and whatever the work is. -/
theorem dispatchAll_ignored (ignores : b.Ignores) {content : List Event}
    (word : Nesting.Balanced content) {m : Machine H S} {element : Option String}
    {rest : List (Frame H)} (frames : m.frames = ⟨element, b.ignore⟩ :: rest) :
    b.dispatchAll content m = (.ok (), m) := by
  -- An element inside puts one more frame of the same handler on top, so the frames are general.
  induction word generalizing m element rest with
  | nil => rfl
  | characters text _ ih =>
    have same : { m with frames := ⟨element, b.ignore⟩ :: rest } = m := by rw [← frames]
    have taken : b.dispatch (.characters text) m = (.ok (), m) := by
      rw [dispatch_characters frames, ignores.absorb, ignores.characters, same]
      rfl
    rw [dispatchAll_cons, Work.bind_ok taken]
    exact ih frames
  | @element inner _ name as _ _ inside ih =>
    let opened : Machine H S := { m with frames := ⟨some name, b.ignore⟩ :: m.frames }
    have started : b.dispatch (.start name as) m = (.ok (), opened) := by
      rw [dispatch_start frames, ignores.startElement]
      rfl
    have finished : b.dispatch (.finish name) opened = (.ok (), m) := by
      have top : opened.frames = ⟨some name, b.ignore⟩ :: ⟨element, b.ignore⟩ :: rest := by
        simp [opened, frames]
      rw [dispatch_finish top rfl, ignores.endElement]
      rfl
    rw [dispatchAll_cons, Work.bind_ok started, dispatchAll_append,
      Work.bind_ok (inside (m := opened) rfl), dispatchAll_cons, Work.bind_ok finished]
    exact ih frames

/-- What a handler answers to the start event behind some events, if it is asked at all. -/
def Answers (b : Behaviour H S) (answer : Option H → Prop) (before : List Event) (name : String)
    (as : Attributes) (m : Machine H S) : Prop :=
  ∀ t frame rest next u, b.dispatchAll before m = (.ok (), t) → t.frames = frame :: rest →
    b.startElement frame.handler name as t = (.ok next, u) → answer next

theorem dispatchAll_skipped (ignores : b.Ignores) {before content after : List Event}
    (word : Nesting.Balanced content) {name : String} {as : Attributes} {m : Machine H S}
    (skipped : b.Answers (· = none) before name as m) :
    b.dispatchAll (before ++ .start name as :: (content ++ .finish name :: after)) m =
      b.dispatchAll (before ++ .start name as :: .finish name :: after) m := by
  rw [dispatchAll_append, dispatchAll_append]
  refine Work.bind_congr rfl fun _ t begun => ?_
  rw [dispatchAll_cons, dispatchAll_cons]
  refine Work.bind_congr rfl fun _ u started => ?_
  cases frames : t.frames with
  | nil => simp [dispatch, handleStart, Work.bind_apply, frames] at started
  | cons frame rest =>
    rw [dispatch_start frames] at started
    obtain ⟨next, v, answered, pushed⟩ := Work.bind_eq_ok started
    obtain rfl := skipped t frame rest next v begun frames answered
    obtain rfl : { v with frames := ⟨some name, b.ignore⟩ :: v.frames } = u := congrArg Prod.snd pushed
    rw [dispatchAll_append, Work.bind_ok (dispatchAll_ignored ignores word rfl)]

theorem parse_skipped [Workspace S] (ignores : b.Ignores) (initial : H) (opening : List Notice)
    (ending : Option Fault) {before content after : List Event} (word : Nesting.Balanced content)
    {name : String} {as : Attributes} {m : Machine H S}
    (skipped : b.Answers (· = none) before name as (m.opened initial ⟨opening, [], none⟩)) :
    b.parse initial ⟨opening, before ++ .start name as :: (content ++ .finish name :: after), ending⟩ m =
      b.parse initial ⟨opening, before ++ .start name as :: .finish name :: after, ending⟩ m :=
  parse_congr rfl rfl (dispatchAll_skipped ignores word skipped)

end Behaviour

/-! ## Elements without a handler of their own -/

/-- The plan of the object that a type makes, if the object dispatches elements. -/
def Setup.planOf? (setup : Setup) (type : String) : Option Plan :=
  match setup.types.create (setup.translate type) with
  | .ok drawing => drawing.items.head?.bind fun item => Vocabulary.Hinted.plan? ⟨⟨0⟩, item⟩
  | .error _ => none

/-- The plan that an element's type hint brings. -/
def Setup.plan? (setup : Setup) (as : Attributes) : Option Plan :=
  match as.value? setup.config.hintAttribute with
  | none => none
  | some hint => (Attributes.hintTokens hint).head?.bind setup.planOf?

/-- Names of elements whose content is of no interest to any rule. -/
def Vocabulary.isLeaf (name : String) : Bool :=
  !(["group", "text", "path", "line", "private"].contains name)

namespace Handler

/-- Handlers that answer no handler for an element: those of texts, lines, polygons and content of
no interest for every element; those with room for objects for rectangles, ellipses and all elements
that have no rule, unless the type hint makes an object that dispatches the element itself, and for
elements that such an object leaves to nobody; and some initial handlers. -/
inductive Declines (setup : Setup) : Handler → String → Attributes → Prop where
  | ignore (name : String) (as : Attributes) : Declines setup .ignore name as
  | text (id : ItemId) (buffer name : String) (as : Attributes) : Declines setup (.text id buffer) name as
  | line (id : ItemId) (name : String) (as : Attributes) : Declines setup (.line id) name as
  | polygon (id : ItemId) (name : String) (as : Attributes) : Declines setup (.polygon id) name as
  | leaf {h : Handler} {name : String} {as : Attributes} : h.isNested ∨ h = .diagram →
      Vocabulary.isLeaf name = true → setup.plan? as = none → Declines setup h name as
  | left {h : Handler} {as : Attributes} {plan : Plan} (name : String) : h.isNested ∨ h = .diagram →
      setup.plan? as = some plan → plan.successor = .nothing → Declines setup h name as
  | initial {h : Handler} (name : String) (as : Attributes) : h = .noRoot ∨ h = .nestedReading ∨ h = .popping →
      Declines setup h name as

end Handler

namespace Vocabulary

open Desk

/-- Whatever is done before, the answer is that of the last part. -/
theorem ensures_last {σ α β : Type} {w : Work σ α} {f : α → Work σ β} {post : β → σ → Prop}
    (last : ∀ a, Ensures (fun _ => True) (f a) post) : Ensures (fun _ => True) (w >>= f) post :=
  Ensures.bind (fun _ _ _ _ _ => trivial) last

variable (setup : Setup) (c : Container) (as : Attributes)

theorem rule_leaf {name : String} (leaf : isLeaf name = true) (hinted : Option Hinted)
    (geometry : List String) :
    Ensures (fun _ => True) (rule setup c name as hinted geometry) fun verdict _ =>
      verdict = .declined ∨ verdict = .handled none := by
  have rectangle (id : ItemId) : Ensures (fun _ => True) (handleRectangle setup c as id)
      fun verdict _ => verdict = .declined ∨ verdict = .handled none :=
    ensures_last fun _ => ensures_last fun _ => .pure fun _ _ => .inr rfl
  have ellipse (id : ItemId) : Ensures (fun _ => True) (handleEllipse setup c as id)
      fun verdict _ => verdict = .declined ∨ verdict = .handled none :=
    ensures_last fun _ => ensures_last fun _ => ensures_last fun _ => ensures_last fun _ =>
      ensures_last fun _ => .pure fun _ _ => .inr rfl
  unfold rule
  split
  · simp [isLeaf] at leaf
  · simp [isLeaf] at leaf
  · simp [isLeaf] at leaf
  · simp [isLeaf] at leaf
  · simp [isLeaf] at leaf
  · refine ensures_last fun rounding => ?_
    split
    · exact ensures_last fun id => rectangle id
    · split
      · split
        · exact ensures_last fun _ => rectangle _
        · exact rectangle _
      · exact .pure fun _ _ => .inl rfl
  · unfold ellipseRule
    split
    · exact ensures_last fun id => ellipse id
    · split
      · exact ellipse _
      · exact ensures_last fun _ => .pure fun _ _ => .inl rfl
  · exact .pure fun _ _ => .inl rfl

theorem applyRule_leaf {name : String} (leaf : isLeaf name = true) (hinted : Option Hinted)
    (geometry : List String) :
    Ensures (fun _ => True) (applyRule setup c name as hinted geometry) fun next _ => next = none := by
  refine Ensures.bind (rule_leaf setup c as leaf hinted geometry) fun verdict => ?_
  cases verdict with
  | declined =>
    have nothing : Ensures (fun _ => True) (addUnrecognized setup c name as hinted >>= fun _ =>
        (pure none : Work Desk (Option Handler))) fun next _ => next = none :=
      ensures_last fun _ => .pure fun _ _ => rfl
    exact fun d next t _ ran => nothing d next t trivial ran
  | handled content =>
    refine .pure fun _ judged => ?_
    rcases judged with absurd | none
    · contradiction
    · exact Verdict.handled.inj none

theorem plan_shift (offset : Nat) (id other : ItemId) (item : Item) :
    Hinted.plan? ⟨id, item.shift offset⟩ = Hinted.plan? ⟨other, item⟩ := by
  rcases item with ⟨bounds, style, name, owner, data, variant⟩ | kind
  · cases variant <;> rfl
  · rfl

theorem plan_of_created {type hint : String} {d u : Desk} {hinted : Option Hinted}
    (created : createHinted setup type hint d = (.ok hinted, u)) :
    hinted.bind Hinted.plan? = setup.planOf? type := by
  unfold Setup.planOf?
  cases made : setup.types.create (setup.translate type) with
  | ok drawing =>
    simp only [createHinted, made] at created
    obtain ⟨id, v, placed, ran⟩ := Work.bind_eq_ok created
    obtain ⟨here, rfl⟩ := Prod.mk.inj placed
    obtain rfl := Except.ok.inj here
    have answer := congrArg Prod.fst ran
    cases items : drawing.items with
    | nil =>
      simp [Work.bind_apply, item?, items] at answer
      simp [← answer, items]
    | cons item rest =>
      simp [Work.bind_apply, item?, items] at answer
      simp [← answer, items, plan_shift _ _ ⟨0⟩]
  | error fault =>
    cases fault with
    | unknownType id =>
      simp only [createHinted, made] at created
      obtain ⟨_, v, _, ran⟩ := Work.bind_eq_ok created
      obtain rfl : none = hinted := by simpa using congrArg Prod.fst ran
      rfl
    | _ => simp [createHinted, made] at created

/-- What is dispatched is left to a rule or taken over by the plan of the type hint. -/
theorem dispatch_answers {name : String} {answer : Option Handler → Prop}
    (ruled : setup.plan? as = none → ∀ hinted geometry,
      Ensures (fun _ => True) (applyRule setup c name as hinted geometry) fun next _ => answer next)
    (taken : ∀ plan id, setup.plan? as = some plan →
      Ensures (fun _ => True) (takeOver setup c name as id plan) fun next _ => answer next) :
    Ensures (fun _ => True) (dispatch setup c name as) fun next _ => answer next := by
  unfold dispatch
  cases value : as.value? setup.config.hintAttribute with
  | none => exact ruled (by simp [Setup.plan?, value]) none []
  | some hint =>
    dsimp only
    cases tokens : Attributes.hintTokens hint with
    | nil => exact ensures_last fun _ => ruled (by simp [Setup.plan?, value, tokens]) none []
    | cons type geometry =>
      have source : setup.plan? as = setup.planOf? type := by simp [Setup.plan?, value, tokens]
      intro d next t _ ran
      obtain ⟨hinted, u, created, rest⟩ := Work.bind_eq_ok ran
      have plan := plan_of_created setup created
      cases hinted with
      | none => exact ruled (source.trans plan.symm) none geometry u next t trivial rest
      | some h =>
        simp only [Option.bind_some] at plan rest
        cases own : Hinted.plan? h with
        | none =>
          rw [own] at plan rest
          exact ruled (source.trans plan.symm) (some h) geometry u next t trivial rest
        | some found =>
          rw [own] at plan rest
          exact taken found h.id (source.trans plan.symm) u next t trivial rest

theorem dispatch_leaf {name : String} (leaf : isLeaf name = true) (unplanned : setup.plan? as = none) :
    Ensures (fun _ => True) (dispatch setup c name as) fun next _ => next = none := by
  refine dispatch_answers setup c as ?_ ?_
  · intro _ hinted geometry
    exact applyRule_leaf setup c as leaf hinted geometry
  · intro plan id planned
    rw [unplanned] at planned
    contradiction

theorem dispatch_left {name : String} {plan : Plan} (planned : setup.plan? as = some plan)
    (nothing : plan.successor = .nothing) :
    Ensures (fun _ => True) (dispatch setup c name as) fun next _ => next = none := by
  refine dispatch_answers setup c as ?_ ?_
  · intro unplanned
    rw [unplanned] at planned
    contradiction
  · intro other id again
    obtain rfl : plan = other := Option.some.inj (planned.symm.trans again)
    rw [takeOver_eq, nothing]
    exact ensures_last fun _ => ensures_last fun _ => .pure fun _ _ => rfl

end Vocabulary

namespace Handler

open Vocabulary

theorem ignores (setup : Setup) : (behaviour setup).Ignores :=
  ⟨fun _ _ => rfl, fun _ => rfl, fun _ => rfl, fun _ => rfl⟩

theorem startElement_nothing {h : Handler} {setup : Setup} {name : String} {as : Attributes}
    (around : h.isNested = true ∨ h = .diagram)
    (nothing : ∀ c, Ensures (fun _ => True) (dispatch setup c name as) fun next _ => next = none)
    {m t : Machine Handler Desk} {next : Option Handler}
    (ran : (behaviour setup).startElement h name as m = (.ok next, t)) : next = none := by
  have dispatched (c : Container)
      (ran : (onWork (dispatch setup c name as) : Step Handler Desk _) m = (.ok next, t)) : next = none := by
    obtain ⟨answered, _⟩ := Prod.mk.inj ran
    exact nothing c m.work next _ trivial (Prod.ext answered rfl)
  have last {w : Work Desk Unit} (ran : (onWork (w >>= fun _ => (pure none : Work Desk (Option Handler))) :
      Step Handler Desk _) m = (.ok next, t)) : next = none := by
    obtain ⟨answered, _⟩ := Prod.mk.inj ran
    obtain ⟨_, _, _, answer⟩ := Work.bind_eq_ok (Prod.ext answered rfl)
    exact (Except.ok.inj (congrArg Prod.fst answer)).symm
  cases h with
  | ignore | text => exact (Except.ok.inj (congrArg Prod.fst ran)).symm
  | line id => exact last ran
  | polygon id => exact last ran
  | diagram => exact dispatched .diagram ran
  | group id derive => exact dispatched (.group id) ran
  | edge id => exact dispatched (.edge id) ran
  | wrapper c buffer => exact dispatched c ran
  | _ => simp [isNested] at around

theorem declined {setup : Setup} {h : Handler} {name : String} {as : Attributes}
    (declines : Declines setup h name as) {m t : Machine Handler Desk} {next : Option Handler}
    (ran : (behaviour setup).startElement h name as m = (.ok next, t)) : next = none := by
  cases declines with
  | ignore | text => exact (Except.ok.inj (congrArg Prod.fst ran)).symm
  | line | polygon =>
    obtain ⟨answered, _⟩ := Prod.mk.inj ran
    obtain ⟨_, _, _, answer⟩ := Work.bind_eq_ok (Prod.ext answered rfl)
    exact (Except.ok.inj (congrArg Prod.fst answer)).symm
  | leaf around leaf unplanned =>
    exact startElement_nothing around (fun c => dispatch_leaf setup c as leaf unplanned) ran
  | left name around planned nothing =>
    exact startElement_nothing around (fun c => dispatch_left setup c as planned nothing) ran
  | initial _ _ kind =>
    rcases kind with rfl | rfl | rfl
    · exact (Except.ok.inj (congrArg Prod.fst ran)).symm
    · obtain ⟨_, _, _, answer⟩ := Work.bind_eq_ok ran
      exact (Except.ok.inj (congrArg Prod.fst answer)).symm
    · obtain ⟨answered, _⟩ := Prod.mk.inj ran
      obtain ⟨_, _, _, answer⟩ := Work.bind_eq_ok (Prod.ext answered rfl)
      exact (Except.ok.inj (congrArg Prod.fst answer)).symm

end Handler

/-- Skipped content has no effect. If the handler that gets an element's start event answers no
handler, the reading of the document comes to the same end without the element's content, whatever
the handlers are: the diagram or the fault is the same, and so is all that is left behind. Among the
handlers of documents those that decline an element answer none. -/
theorem skipped_content_inert {H S : Type} [Workspace S] {b : Behaviour H S} (ignores : b.Ignores)
    (initial : H) (opening : List Notice) (ending : Option Fault) (before content after : List Event)
    (name : String) (as : Attributes) (m : Machine H S) (word : Nesting.Balanced content)
    (skipped : b.Answers (· = none) before name as (m.opened initial ⟨opening, [], none⟩)) :
    b.parse initial ⟨opening, before ++ .start name as :: (content ++ .finish name :: after), ending⟩ m =
      b.parse initial ⟨opening, before ++ .start name as :: .finish name :: after, ending⟩ m ∧
    ∀ setup : Setup, (Handler.behaviour setup).Ignores ∧
      ∀ h name as, Handler.Declines setup h name as → ∀ m next t,
        (Handler.behaviour setup).startElement h name as m = (.ok next, t) → next = none := by
  refine ⟨b.parse_skipped ignores initial opening ending word skipped, fun setup => ?_⟩
  refine ⟨Handler.ignores setup, fun h name as declines m next t ran => ?_⟩
  exact Handler.declined declines ran

/-- A group that could not be read anywhere else, inside a rectangle. -/
def unreadGroup : List Event := [
  .start "group" [("description", "group[1]"), ("x", "one"), ("href", "nobody"), ("name", "g")],
  .characters "k=\"v\"", .start "private" [], .finish "private", .finish "group"]

theorem skipped_content_inert_of_unreadGroup :
    let rested : Machine Handler Desk := ⟨[], false, Desk.fresh .builtin⟩
    let feed (content : List Event) : Feed := .ofEvents ([.start "pgml" []] ++
      .start "rectangle" [("name", "r")] :: (content ++ .finish "rectangle" :: [.finish "pgml"]))
    Nesting.Balanced unreadGroup ∧
    (Handler.behaviour .plain).parse .root (feed unreadGroup) rested =
      (Handler.behaviour .plain).parse .root (feed []) rested ∧
    ((Handler.behaviour .plain).parse .root (feed unreadGroup) rested).2.work.names.names = ["r"] := by
  intro rested feed
  have word : Nesting.Balanced unreadGroup :=
    .element _ _ (.characters _ (.element _ _ .nil .nil)) .nil
  have skipped : (Handler.behaviour .plain).Answers (· = none) [.start "pgml" []] "rectangle"
      [("name", "r")] (rested.opened .root ⟨[], [], none⟩) := by
    intro t frame rest next u begun frames answered
    obtain rfl := congrArg Prod.snd begun
    have handlers : ((Handler.behaviour .plain).dispatchAll [.start "pgml" []]
        (rested.opened .root ⟨[], [], none⟩)).2.frames.map (·.handler) = [.diagram, .root] := by
      decide +kernel
    rw [frames] at handlers
    have diagram : frame.handler = .diagram := (List.cons.inj handlers).1
    rw [diagram] at answered
    exact Handler.declined (.leaf (.inr rfl) rfl rfl) answered
  refine ⟨word, ?_, by decide +kernel⟩
  exact (skipped_content_inert (Handler.ignores .plain) .root [] none _ unreadGroup [.finish "pgml"]
    "rectangle" _ rested word skipped).1

end Pgml
