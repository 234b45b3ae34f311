import Mathlib.Data.List.Nodup
import Pgml.Proofs.DocumentHandlers
import Pgml.Reader

/-! Attributes that do not matter. Elements inside a root are asked for their type hint and for a fixed list
of attributes, and an empty value counts as none wherever it is read. So attributes that are empty or not in
the list can be left out, and the order of the others is of no consequence: documents that differ in nothing
else are read alike, to the last notice. -/
namespace Pgml

open Machine Vocabulary

namespace Attributes

variable {keys : List String} {as less : Attributes} {key : String}

/-- Attributes with the same values under some names. -/
def Agree (keys : List String) (as less : Attributes) : Prop :=
  ∀ key ∈ keys, as.value? key = less.value? key

/-- Attributes, none of them given twice, some of which are left out. What is left out is empty or has none
of the names, and what is left may be in another order. -/
def Trimmed (keys : List String) (as less : Attributes) : Prop :=
  (as.map Prod.fst).Nodup ∧
    ∃ dropped : Attributes, as.Perm (less ++ dropped) ∧ ∀ a ∈ dropped, a.2 = "" ∨ a.1 ∉ keys

/-- The attributes that elements inside a root are asked for, besides their type hint. -/
def asked : List String :=
  ["name", "href", "x", "y", "width", "height", "stroke", "strokecolor", "fill", "fillcolor", "dasharray",
    "context", "shown", "single", "rounding", "rx", "ry", "font", "textsize"]

theorem raw?_eq_some_iff (distinct : (as.map Prod.fst).Nodup) (value : String) :
    as.raw? key = some value ↔ (key, value) ∈ as := by
  constructor
  · intro found
    obtain ⟨⟨name, value'⟩, first, rfl⟩ := Option.map_eq_some_iff.mp found
    obtain rfl : name = key := by simpa using List.find?_some first
    exact List.mem_of_find?_eq_some first
  · intro member
    cases first : as.find? (·.1 == key) with
    | none =>
      have others := List.find?_eq_none.mp first (key, value) member
      simp at others
    | some a =>
      have same : a.1 = key := by simpa using List.find?_some first
      have one := List.inj_on_of_nodup_map distinct (List.mem_of_find?_eq_some first) member same
      simp [raw?, first, one]

theorem value?_eq_some_iff (distinct : (as.map Prod.fst).Nodup) (value : String) :
    as.value? key = some value ↔ (key, value) ∈ as ∧ value ≠ "" := by
  rw [← raw?_eq_some_iff distinct]
  unfold value?
  cases as.raw? key with
  | none => simp
  | some found =>
    by_cases empty : found = ""
    · simp only [empty, beq_self_eq_true, ↓reduceIte, reduceCtorEq, Option.some.injEq, false_iff]
      rintro ⟨rfl, some⟩
      exact some rfl
    · simp only [beq_iff_eq, empty, ↓reduceIte, Option.some.injEq]
      constructor
      · rintro rfl
        exact ⟨rfl, empty⟩
      · exact And.left

/-- What is left out is not missed. -/
theorem Trimmed.agree (trimmed : Trimmed keys as less) : Agree keys as less := by
  obtain ⟨distinct, dropped, whole, inert⟩ := trimmed
  have both : ((less ++ dropped).map Prod.fst).Nodup := (whole.map Prod.fst).nodup distinct
  have distinctLess : (less.map Prod.fst).Nodup := by
    rw [List.map_append] at both
    exact (List.nodup_append.mp both).1
  intro key asked
  refine Option.ext fun value => ?_
  rw [value?_eq_some_iff distinct, value?_eq_some_iff distinctLess, whole.mem_iff, List.mem_append]
  constructor
  · rintro ⟨left | out, some⟩
    · exact ⟨left, some⟩
    · rcases inert _ out with none | unknown
      · exact absurd none some
      · exact absurd asked unknown
  · rintro ⟨left, some⟩
    exact ⟨.inl left, some⟩

theorem Agree.int? (agree : Agree keys as less) (asked : key ∈ keys) : as.int? key = less.int? key := by
  simp [Attributes.int?, agree key asked]

theorem Agree.int (agree : Agree keys as less) (asked : key ∈ keys) (default : Int) :
    as.int key default = less.int key default := by
  simp [Attributes.int, agree.int? asked]

theorem raw?_without (as : Attributes) (key hidden : String) :
    (as.without hidden).raw? key = if key = hidden then none else as.raw? key := by
  unfold raw? without
  rw [List.find?_filter]
  by_cases same : key = hidden
  · subst same
    simp
  · rw [if_neg same]
    congr 2
    funext a
    by_cases here : a.1 = key <;> simp [here, same]

theorem value?_without (as : Attributes) (key hidden : String) :
    (as.without hidden).value? key = if key = hidden then none else as.value? key := by
  unfold value?
  rw [raw?_without]
  by_cases same : key = hidden <;> simp [same]

theorem Agree.without (agree : Agree keys as less) (hidden : String) :
    Agree keys (as.without hidden) (less.without hidden) := by
  intro key asked
  rw [value?_without, value?_without, agree key asked]

end Attributes

open Attributes (Agree)

/-- The attributes that elements inside a root are asked for. -/
def Setup.asked (s : Setup) : List String := s.config.hintAttribute :: Attributes.asked

/-! ## Rules -/

namespace Vocabulary

variable {setup : Setup} {c : Container} {as less : Attributes}

theorem setCommon_agrees (agree : Agree Attributes.asked as less) (defaults : ColorDefaults) :
    Styling.setCommon defaults as = Styling.setCommon defaults less := by
  have geometry : Styling.setGeometry as = Styling.setGeometry less := by
    have x : as.int? "x" = less.int? "x" := agree.int? (by decide)
    have y : as.int "y" 0 = less.int "y" 0 := agree.int (by decide) 0
    have width : as.int "width" 20 = less.int "width" 20 := agree.int (by decide) 20
    have height : as.int "height" 20 = less.int "height" 20 := agree.int (by decide) 20
    unfold Styling.setGeometry
    rw [x, y, width, height]
  have lineWidth : as.int? "stroke" = less.int? "stroke" := agree.int? (by decide)
  have lineColor : as.value? "strokecolor" = less.value? "strokecolor" := agree _ (by decide)
  have filled : as.value? "fill" = less.value? "fill" := agree _ (by decide)
  have fillColor : as.value? "fillcolor" = less.value? "fillcolor" := agree _ (by decide)
  have dashed : as.value? "dasharray" = less.value? "dasharray" := agree _ (by decide)
  have context : as.value? "context" = less.value? "context" := agree _ (by decide)
  have visible : as.int? "shown" = less.int? "shown" := agree.int? (by decide)
  have single : as.value? "single" = less.value? "single" := agree _ (by decide)
  unfold Styling.setCommon Styling.setLineWidth Styling.setLineColor Styling.setFilled Styling.setFillColor
    Styling.setDashed Styling.setContext Styling.setVisible Styling.setSingle
  rw [geometry, lineWidth, lineColor, filled, fillColor, dashed, context, visible, single]

theorem setAttributes_agrees (agree : Agree Attributes.asked as less) (id : ItemId) :
    setAttributes setup id as = setAttributes setup id less := by
  have name : as.value? "name" = less.value? "name" := agree _ (by decide)
  have owner : as.value? "href" = less.value? "href" := agree _ (by decide)
  unfold setAttributes setName setOwner
  rw [name, owner, setCommon_agrees agree]

theorem groupRule_agrees (agree : Agree Attributes.asked as less) (hinted : Option Hinted)
    (geometry : List String) :
    groupRule setup c as hinted geometry = groupRule setup c less hinted geometry := by
  have box : as.value? "x" = less.value? "x" := agree _ (by decide)
  simp only [groupRule, setAttributes_agrees agree, box]

theorem handleText_agrees (agree : Agree Attributes.asked as less) (id : ItemId) :
    handleText setup c as id = handleText setup c less id := by
  have font : as.value? "font" = less.value? "font" := agree _ (by decide)
  have size : as.int? "textsize" = less.int? "textsize" := agree.int? (by decide)
  unfold handleText setFont setFontSize
  rw [setAttributes_agrees agree, font, size]

theorem rectangleRule_agrees (agree : Agree Attributes.asked as less) (hinted : Option Hinted) :
    rectangleRule setup c as hinted = rectangleRule setup c less hinted := by
  have rounding : as.int "rounding" (-1) = less.int "rounding" (-1) := agree.int (by decide) _
  simp only [rectangleRule, handleRectangle, setAttributes_agrees agree, rounding]

theorem handleEllipse_agrees (agree : Agree Attributes.asked as less) (id : ItemId) :
    handleEllipse setup c as id = handleEllipse setup c less id := by
  have rx (radius : Int) : as.int "rx" radius = less.int "rx" radius := agree.int (by decide) radius
  have ry (radius : Int) : as.int "ry" radius = less.int "ry" radius := agree.int (by decide) radius
  simp only [handleEllipse, setAttributes_agrees agree, rx, ry]

theorem rule_agrees (agree : Agree Attributes.asked as less) (name : String) (hinted : Option Hinted)
    (geometry : List String) :
    rule setup c name as hinted geometry = rule setup c name less hinted geometry := by
  simp only [rule, textRule, pathRule, ellipseRule, groupRule_agrees agree, handleText_agrees agree,
    setAttributes_agrees agree, rectangleRule_agrees agree, handleEllipse_agrees agree]

theorem applyRule_agrees (agree : Agree Attributes.asked as less) (name : String) (hinted : Option Hinted)
    (geometry : List String) :
    applyRule setup c name as hinted geometry = applyRule setup c name less hinted geometry := by
  simp only [applyRule, addUnrecognized, rule_agrees agree, setAttributes_agrees agree]

theorem takeOver_agrees (agree : Agree Attributes.asked as less) (name : String) (id : ItemId)
    (plan : Plan) : takeOver setup c name as id plan = takeOver setup c name less id plan := by
  simp only [takeOver, dispatchUnhinted, setAttributes_agrees agree, applyRule_agrees (agree.without _)]

theorem dispatch_agrees (agree : Agree setup.asked as less) (name : String) :
    dispatch setup c name as = dispatch setup c name less := by
  have hint : as.value? setup.config.hintAttribute = less.value? setup.config.hintAttribute :=
    agree _ (List.mem_cons_self ..)
  have others : Agree Attributes.asked as less := fun key asked => agree key (List.mem_cons_of_mem _ asked)
  simp only [dispatch, dispatchUnhinted, hint, applyRule_agrees others, takeOver_agrees others]

theorem point_agrees (agree : Agree Attributes.asked as less) (name : String) :
    point name as = point name less := by
  have x : as.value? "x" = less.value? "x" := agree _ (by decide)
  have y : as.value? "y" = less.value? "y" := agree _ (by decide)
  rw [point, point, x, y]

end Vocabulary

/-! ## Handlers -/

/-- Handlers without room for objects ask for points at most, but for the handler of a root. -/
theorem Handler.startElement_roomless {setup : Setup} {as less : Attributes}
    (agree : Agree Attributes.asked as less) {h : Handler} (inner : h ≠ .root) (roomless : h.room? = none)
    (name : String) : (behaviour setup).startElement h name as = (behaviour setup).startElement h name less := by
  cases h with
  | root | diagram | group | edge | wrapper => contradiction
  | line id =>
    change Machine.onWork (startInLine id name as >>= fun _ => pure none) =
      Machine.onWork (startInLine id name less >>= fun _ => pure none)
    unfold startInLine
    rw [point_agrees agree]
  | polygon id =>
    change Machine.onWork (startInPath id name as >>= fun _ => pure none) =
      Machine.onWork (startInPath id name less >>= fun _ => pure none)
    unfold startInPath
    rw [point_agrees agree]
  | anyRoot | noRoot | nestedReading | flat | popping | ignore | text => rfl

/-- Only the handler of a root looks at other attributes. -/
theorem Handler.startElement_agrees {setup : Setup} {as less : Attributes}
    (agree : Agree setup.asked as less) {h : Handler} (inner : h ≠ .root) (name : String) :
    (behaviour setup).startElement h name as = (behaviour setup).startElement h name less := by
  cases room : h.room? with
  | none =>
    have others : Agree Attributes.asked as less := fun key asked => agree key (List.mem_cons_of_mem _ asked)
    exact startElement_roomless others inner room name
  | some c => rw [startElement_room setup room, startElement_room setup room, dispatch_agrees agree]

/-! ## Documents -/

/-- How many elements are open after an event, if some are before it. -/
def Event.depth : Event → Nat → Nat
  | .start .., n => n + 1
  | .finish _, n => n - 1
  | .characters _, n | .alien, n => n

/-- Events that differ in the attributes of elements at most, and there only in what is left out or in
another place. Elements that open where no element is open, the roots, are the same. -/
inductive Event.Trimmed (keys : List String) : Nat → List Event → List Event → Prop where
  | nil (n : Nat) : Trimmed keys n [] []
  | same {n : Nat} (e : Event) {es fs : List Event} :
      Trimmed keys (e.depth n) es fs → Trimmed keys n (e :: es) (e :: fs)
  | inside {n : Nat} (name : String) {as less : Attributes} {es fs : List Event} :
      as.Trimmed keys less → Trimmed keys (n + 2) es fs →
      Trimmed keys (n + 1) (.start name as :: es) (.start name less :: fs)

/-- Feeds that differ in the attributes of elements inside a root at most, and there only in what is left
out or in another place. -/
structure Feed.Trimmed (keys : List String) (feed less : Feed) : Prop where
  opening : less.opening = feed.opening
  events : Event.Trimmed keys 0 feed.events less.events
  ending : less.ending = feed.ending

namespace Machine

/-- A machine that reads, with handlers of elements inside a root on top, as many as are said. -/
structure Inside (n : Nat) (m : Machine Handler Desk) : Prop where
  reading : m.reading = true
  inner : ∀ frame ∈ m.frames.take n, frame.handler.isInner

end Machine

namespace Handler

variable {setup : Setup} {n : Nat} {m t : Machine Handler Desk}

theorem isInner_absorb {h : Handler} (inner : h.isInner) (text : String) : (h.absorb text).isInner := by
  obtain ⟨noRoot, calm⟩ := inner
  cases h <;> simp_all [isInner, absorb]

/-- An event that is taken opens or closes no more than is said. -/
theorem inside_of_dispatch (inside : Inside n m) {e : Event}
    (taken : (behaviour setup).dispatch e m = (.ok (), t)) : Inside (e.depth n) t := by
  cases frames : m.frames with
  | nil =>
    cases e with
    | characters text =>
      obtain rfl : m = t := by
        simpa [Behaviour.dispatch, Behaviour.handleCharacters, Work.bind_apply, frames] using taken
      exact inside
    | start | finish | alien =>
      simp [Behaviour.dispatch, Behaviour.handleStart, Behaviour.handleFinish, Work.bind_apply, frames] at taken
  | cons frame rest =>
    have inner := inside.inner
    rw [frames] at inner
    cases e with
    | start name as =>
      rw [Behaviour.dispatch_start frames] at taken
      obtain ⟨next, u, answered, pushed⟩ := Work.bind_eq_ok taken
      obtain ⟨same, reading, child⟩ := (startElement_leaves setup _ name as).of_eq inside.reading answered
      obtain rfl := congrArg Prod.snd pushed
      refine ⟨reading, ?_⟩
      intro f member
      rcases List.mem_cons.mp member with rfl | member
      · cases next with
        | none => exact ⟨by simp [behaviour, behaviourWith], by simp [behaviour, behaviourWith]⟩
        | some h => exact child (some h) rfl h rfl
      · exact inside.inner f (same ▸ member)
    | characters text =>
      rw [Behaviour.dispatch_characters frames] at taken
      by_cases popping : frame.handler = .popping
      · -- The handler that pops frames is none of an element, so no element was said to be open.
        cases n with
        | zero =>
          rw [popping] at taken
          obtain rfl := congrArg Prod.snd taken
          exact ⟨inside.reading, by simp [Event.depth]⟩
        | succ n => exact absurd popping (inner frame (by simp)).2
      · obtain ⟨same, reading, _⟩ :=
          ((leavesFrames setup).characters _ text popping).of_eq (by exact inside.reading) taken
        refine ⟨reading, ?_⟩
        rw [same]
        cases n with
        | zero => simp [Event.depth]
        | succ n =>
          intro f member
          rcases List.mem_cons.mp member with rfl | member
          · exact isInner_absorb (inner frame (by simp)) text
          · exact inner f (List.mem_cons_of_mem _ member)
    | finish name =>
      cases rest with
      | nil => simp [Behaviour.dispatch, Behaviour.handleFinish, Work.bind_apply, frames] at taken
      | cons below rest =>
        by_cases top : frame.element = some name
        · rw [Behaviour.dispatch_finish frames top] at taken
          obtain ⟨_, u, ended, popped⟩ := Work.bind_eq_ok taken
          obtain ⟨kept, reading, _⟩ := (endElement_leaves setup _ name).of_eq inside.reading ended
          obtain ⟨_, v, pop, last⟩ := Work.bind_eq_ok popped
          obtain rfl : v = t := congrArg Prod.snd last
          simp only [Machine.pop, kept, frames, Prod.mk.injEq] at pop
          obtain ⟨_, rfl⟩ := pop
          refine ⟨reading, ?_⟩
          intro f member
          cases n with
          | zero => simp [Event.depth] at member
          | succ n => exact inner f (List.mem_cons_of_mem _ member)
        · simp [Behaviour.dispatch, Behaviour.handleFinish, Work.bind_apply, frames, top] at taken
    | alien => simp [Behaviour.dispatch] at taken

theorem dispatchAll_trimmed {es fs : List Event} (trimmed : Event.Trimmed setup.asked n es fs)
    (inside : Inside n m) : (behaviour setup).dispatchAll fs m = (behaviour setup).dispatchAll es m := by
  induction trimmed generalizing m with
  | nil => rfl
  | same e _ ih =>
    exact Work.bind_congr rfl fun _ t taken => ih (inside_of_dispatch inside taken)
  | @inside n name as less es fs tag _ ih =>
    have first : (behaviour setup).dispatch (.start name less) m =
        (behaviour setup).dispatch (.start name as) m := by
      cases frames : m.frames with
      | nil => simp [Behaviour.dispatch, Behaviour.handleStart, Work.bind_apply, frames]
      | cons frame rest =>
        have inner : frame.handler.isInner := inside.inner frame (by simp [frames])
        rw [Behaviour.dispatch_start frames, Behaviour.dispatch_start frames,
          startElement_agrees tag.agree inner.1]
    refine Work.bind_congr first fun _ t taken => ?_
    have there := inside_of_dispatch inside taken
    exact ih there

end Handler

namespace Reader

/-- Empty attributes and unknown ones are inert, and so is the order of attributes. Of elements inside a
root any number of attributes can be left out that are empty or that no element is asked for, and the others
can be given in any order: the reader comes to the same diagram or fault, with the same names, colours and
notices, whatever else there is in the document and however it ends. -/
theorem parse_trimmed (initial : Handler) (r : Reader) {feed less : Feed}
    (trimmed : feed.Trimmed r.setup.asked less) : parse initial less r = parse initial feed r := by
  obtain ⟨opening, events, ending⟩ := trimmed
  unfold parse onMachine Work.within
  suffices same : (Handler.behaviour r.setup).parse initial less r.machine =
      (Handler.behaviour r.setup).parse initial feed r.machine by
    rw [same]
  cases busy : r.machine.reading with
  | true => simp [Behaviour.parse, busy]
  | false =>
    have opened : r.machine.opened initial less = r.machine.opened initial feed := by
      simp [Machine.opened, opening]
    have inside : Inside 0 (r.machine.opened initial feed) := ⟨rfl, by simp⟩
    rw [Behaviour.parse_idle busy, Behaviour.parse_idle busy, opened, ending, Work.bind_apply,
      Work.bind_apply, Handler.dispatchAll_trimmed events inside]

/-- A group with an empty size and a title, around a rectangle whose attributes are in another order. -/
theorem parse_trimmed_of_frame :
    let r : Reader := ⟨.plain, ⟨[], false, Desk.fresh .builtin⟩⟩
    let tags (group rectangle : Attributes) : List Event :=
      [.start "pgml" [("version", "1"), ("name", "")], .start "group" group, .characters "\n",
        .start "rectangle" rectangle, .finish "rectangle", .finish "group", .finish "pgml"]
    let feed : Feed := .ofEvents (tags
      [("title", "frame"), ("description", "group"), ("width", ""), ("name", "g")]
      [("x", "1"), ("rounding", ""), ("y", "2")])
    let less : Feed := .ofEvents (tags [("name", "g"), ("description", "group")] [("y", "2"), ("x", "1")])
    feed.Trimmed r.setup.asked less ∧ parse .root less r = parse .root feed r ∧
      (parse .root feed r).2.desk.names.names = ["g"] ∧
      ((parse .root feed r).2.desk.shape? ⟨0⟩).map (·.bounds) = some ⟨1, 2, 20, 20⟩ := by
  intro r tags feed less
  have trimmed : feed.Trimmed r.setup.asked less := by
    refine ⟨rfl, .same _ (.inside _ ?_ (.same _ (.inside _ ?_ ?_))), rfl⟩
    · exact ⟨by decide, [("title", "frame"), ("width", "")], by decide, by decide⟩
    · exact ⟨by decide, [("rounding", "")], by decide, by decide⟩
    · exact .same _ (.same _ (.same _ (.nil _)))
  exact ⟨trimmed, parse_trimmed .root r trimmed, by decide +kernel, by decide +kernel⟩

end Reader

end Pgml
