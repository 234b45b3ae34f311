import Pgml.Proofs.ElementEffects
import Pgml.Proofs.StockHolding

/-! What an element of built-in types makes. The shape depends on the element's name and attributes
alone, `finish` says how; the stock gets it behind all others, under its name, and the container is
offered it. -/
namespace Pgml

open Desk Vocabulary
open Work (Ends)

namespace Setup

/-- The tokens of an element's type hint behind the type. -/
def geometry (setup : Setup) (as : Attributes) : List String :=
  match as.value? setup.config.hintAttribute with
  | none => []
  | some hint => (Attributes.hintTokens hint).tail

theorem mem_geometry {setup : Setup} {as : Attributes} {token : String}
    (member : token ∈ setup.geometry as) : token ∈ as.numerals setup.config.hintAttribute := by
  unfold geometry at member
  split at member
  · contradiction
  next hint value =>
    refine List.mem_append_right _ ?_
    simpa [value] using List.mem_of_mem_tail member

end Setup

namespace Shape

def withFont (font : Option String) (s : Shape) : Shape :=
  match font, s.variant with
  | some font, .text content _ size => { s with variant := .text content font size }
  | _, _ => s

def withFontSize (size : Option Int) (s : Shape) : Shape :=
  match size, s.variant with
  | some size, .text content family _ => { s with variant := .text content family size }
  | _, _ => s

def centred (rx ry : Int) (s : Shape) : Shape :=
  s.withBounds ⟨s.bounds.x - rx, s.bounds.y - ry, rx * 2, ry * 2⟩

variable (setup : Setup) (p : Palette) (as : Attributes)

/-- The shape of an element when its start tag was read. -/
def finish (name : String) (s : Shape) : Except Fault Shape :=
  match name with
  | "group" =>
    match s.variant with
    | .group .. => do
      let t ← s.attributed setup p as
      if (setup.geometry as).isEmpty then return t
      else return t.withBounds (← hintBounds (setup.geometry as))
    | _ => s.attributed setup p as
  | "text" =>
    match s.variant with
    | .text .. => do
      let t ← s.attributed setup p as
      return (t.withFont (as.value? "font")).withFontSize (← as.int? "textsize")
    | _ => s.attributed setup p as
  | "rectangle" => do
    let rounding ← as.int "rounding" (-1)
    (if 0 ≤ rounding then setRadius rounding s else s).attributed setup p as
  | "ellipse" =>
    match s.variant with
    | .ellipse => do
      let t ← s.attributed setup p as
      let rx ← as.int "rx" setup.config.ellipseRadius
      let ry ← as.int "ry" setup.config.ellipseRadius
      return t.centred rx ry
    | _ => s.attributed setup p as
  | _ => s.attributed setup p as

/-- The handler of the content of an element that made the shape. -/
def content? (name : String) (id : ItemId) (s : Shape) : Option Handler :=
  match name with
  | "group" =>
    match s.variant with
    | .group .. => some (.group id ((setup.geometry as).isEmpty && (as.value? "x").isNone))
    | .edge .. => some (.edge id)
    | _ => none
  | "text" =>
    match s.variant with
    | .text .. => some (.text id "")
    | _ => none
  | "path" | "line" =>
    match s.variant with
    | .line .. => some (.line id)
    | .polygon _ => some (.polygon id)
    | _ => none
  | _ => none

/-! ### What attributes leave alone -/

variable {setup p as}

theorem attributed_frame {s t : Shape} (attributed : s.attributed setup p as = .ok t) :
    s.Frame t ∧ t.name = (as.value? "name").or s.name := by
  unfold Shape.attributed at attributed
  cases styled : { s with name := (as.value? "name").or s.name }.styled p as setup.defaults with
  | error e => simp [styled] at attributed
  | ok u =>
    obtain ⟨⟨variant, privateData⟩, name, _⟩ := styled_frame styled
    simp only [styled, except_ok_bind, owned] at attributed
    split at attributed
    · obtain rfl := Except.ok.inj attributed
      exact ⟨⟨variant, privateData⟩, name⟩
    · split at attributed
      · contradiction
      · obtain rfl := Except.ok.inj attributed
        exact ⟨⟨variant, privateData⟩, name⟩

theorem kind_of_attributed {s t : Shape} (attributed : s.attributed setup p as = .ok t) : t.kind = s.kind := by
  simp [Shape.kind, (attributed_frame attributed).1.variant]

theorem isPath_of_frame {s t : Shape} (frame : s.Frame t) : t.isPath = s.isPath := by
  simp [isPath, Item.isPath, frame.variant]

end Shape

/-! ## A shape on its way -/

/-- Whether a shape that an element makes is given the element's attributes. A rectangle with a rounding that
cannot be read is given up before. -/
def Attributes.isGiven (as : Attributes) (name : String) : Bool :=
  name ≠ "rectangle" || (as.int "rounding" (-1)).isOk

/-- The roll with the shape of an element. It is called by its name when it is given its attributes. -/
def Roll.receive (r : Roll) (name : String) (as : Attributes) (s : Shape) : Roll :=
  r.enter s.kind (if as.isGiven name then as.value? "name" else none)

/-- The stock with a shape that has its name and was offered to the container. -/
def Stock.receive (k : Stock) (c : Container) (as : Attributes) (t : Shape) : Stock :=
  ((k.call (as.value? "name") k.next).offer c k.next t.isPath).make t

/-- A desk on which a shape was made, unless that failed. -/
def Makes (p : Palette) (k : Stock) (c : Container) (as : Attributes) (made : Except Fault Shape)
    (d : Desk) : Prop :=
  ∃ t, made = .ok t ∧ Holds p (k.receive c as t) d

/-- A desk after an element whose shape cannot be finished. -/
def Refused (setup : Setup) (p : Palette) (k : Stock) (name : String) (as : Attributes) (s : Shape)
    (e : Fault) (d : Desk) : Prop :=
  s.finish setup p as name = .error e ∧ d.roll = k.roll.receive name as s

section

variable {setup : Setup} {p : Palette} {k : Stock} {s : Shape} {c : Container} {as : Attributes}
  {blame : Fault → Desk → Prop}

theorem Roll.receive_given {r : Roll} {name : String} (given : as.isGiven name = true) :
    r.receive name as s = r.enter s.kind (as.value? "name") := by
  simp [Roll.receive, given]

theorem Stock.fits_call (fits : k.Fits c) (name : Option String) (id : ItemId) :
    (k.call name id).Fits c := by
  cases c <;> exact fits

theorem Stock.roll_receive {t : Shape} (named : t.name = as.value? "name") :
    (k.receive c as t).roll = k.roll.enter t.kind (as.value? "name") := by
  have offered : (k.receive c as t).roll = ((k.call (as.value? "name") k.next).make t).roll := by
    rw [Stock.receive, Stock.roll_make_congr (Stock.roll_offer ..)]
  rw [offered, ← named]
  exact Stock.roll_call

theorem roll_of_received {t : Shape} {d : Desk} (holds : Holds p (k.receive c as t) d) (kind : t.kind = s.kind)
    (named : t.name = as.value? "name") : d.roll = k.roll.enter s.kind (as.value? "name") := by
  rw [holds.roll, Stock.roll_receive named, kind]

/-- What follows on attributes and an offer. -/
theorem enroll_ends {α : Type} {w : Work Desk α} {post : α → Desk → Prop} (fits : k.Fits c)
    (nameless : s.name = none)
    (refused : ∀ e d, s.attributed setup p as = .error e →
      d.roll = k.roll.enter s.kind (as.value? "name") → blame e d)
    (next : ∀ t, s.attributed setup p as = .ok t → Ends (Holds p (k.receive c as t)) blame w post) :
    Ends (Holds p (k.make s)) blame
      (setAttributes setup k.next as >>= fun _ => attach c k.next >>= fun _ => w) post := by
  refine (setAttributes_ends nameless refused).bind fun _ => .exists_pre fun t => .given fun attributed => ?_
  exact (attach_ends (k := k.call _ _) (Stock.fits_call fits _ _)).bind fun _ => next t attributed

/-- An offer before the attributes comes to the same. -/
theorem enrollFirst_ends {α : Type} {w : Work Desk α} {post : α → Desk → Prop} (fits : k.Fits c)
    (nameless : s.name = none)
    (refused : ∀ e d, s.attributed setup p as = .error e →
      d.roll = k.roll.enter s.kind (as.value? "name") → blame e d)
    (next : ∀ t, s.attributed setup p as = .ok t → Ends (Holds p (k.receive c as t)) blame w post) :
    Ends (Holds p (k.make s)) blame
      (attach c k.next >>= fun _ => setAttributes setup k.next as >>= fun _ => w) post := by
  let offered := k.offer c k.next s.isPath
  have place : offered.next = k.next := Stock.next_offer _ _
  have roll : offered.roll = k.roll := Stock.roll_offer ..
  have styled : Ends (Holds p (offered.make s)) blame (setAttributes setup offered.next as) fun _ d =>
      ∃ t, s.attributed setup p as = .ok t ∧
        Holds p ((offered.call (as.value? "name") offered.next).make t) d :=
    setAttributes_ends nameless fun e d failed entered => refused e d failed (roll ▸ entered)
  rw [place] at styled
  refine (attach_ends fits).bind fun _ => styled.bind fun _ => .exists_pre fun t => .given fun attributed => ?_
  have same : (offered.call (as.value? "name") k.next).make t = k.receive c as t := by
    rw [Stock.offer_call, Stock.receive, Shape.isPath_of_frame (Shape.attributed_frame attributed).1]
  exact same ▸ next t attributed

theorem Stock.receive_modify {t : Shape} {f : Shape → Shape} (path : (f t).isPath = t.isPath) :
    (k.receive c as t).modify k.next f = k.receive c as (f t) := by
  let received := (k.call (as.value? "name") k.next).offer c k.next t.isPath
  have newest : (received.make t).modify received.next f = received.make (f t) := Stock.make_modify t f
  simpa [received, Stock.receive, path] using newest

theorem Stock.receive_next (t : Shape) : (k.receive c as t).shapes[k.next.index]? = some t := by
  let received := (k.call (as.value? "name") k.next).offer c k.next t.isPath
  have place : received.next = k.next := by simp [received]
  have newest : (received.make t).shapes[received.next.index]? = some t := Stock.make_next t
  rw [place] at newest
  exact newest

theorem updateReceived_ends {t : Shape} (f : Shape → Shape) (path : (f t).isPath = t.isPath) :
    Ends (Holds p (k.receive c as t)) blame (updateShape k.next f) fun _ => Holds p (k.receive c as (f t)) := by
  rw [← Stock.receive_modify path]
  exact updateShape_ends (List.getElem?_eq_some_iff.mp (Stock.receive_next t)).1 f

/-! ## Rules -/

/-- What a rule says on a shape that was made for its element. -/
def Ruled (setup : Setup) (p : Palette) (k : Stock) (c : Container) (name : String) (as : Attributes)
    (s : Shape) (verdict : Verdict) (d : Desk) : Prop :=
  match verdict with
  | .handled next =>
    next = s.content? setup as name k.next ∧ Makes p k c as (s.finish setup p as name) d
  | .declined =>
    s.content? setup as name k.next = none ∧ as.isGiven name = true ∧
      s.finish setup p as name = s.attributed setup p as ∧ Holds p (k.make s) d

theorem ruled_declined {name : String} (nothing : s.content? setup as name k.next = none)
    (given : as.isGiven name = true) (plain : s.finish setup p as name = s.attributed setup p as)
    (rule : RuleName) (item : Item) :
    Ends (Holds p (k.make s)) blame (decline rule item) (Ruled setup p k c name as s) :=
  (note_ends rfl).bind fun _ => .pure fun _ holds => ⟨nothing, given, plain, holds⟩

def Handled (setup : Setup) (p : Palette) (k : Stock) (c : Container) (name : String) (as : Attributes)
    (s : Shape) (verdict : Verdict) (d : Desk) : Prop :=
  verdict = .handled (s.content? setup as name k.next) ∧ Makes p k c as (s.finish setup p as name) d

theorem ruled_of_handled {name : String} (verdict : Verdict) (d : Desk)
    (handled : Handled setup p k c name as s verdict d) : Ruled setup p k c name as s verdict d := by
  obtain ⟨rfl, makes⟩ := handled
  exact ⟨rfl, makes⟩

theorem handled_ends {t : Shape} {name : String} {next : Option Handler}
    (content : s.content? setup as name k.next = next) (finished : s.finish setup p as name = .ok t) :
    Ends (Holds p (k.receive c as t)) blame (pure (.handled next) : Work Desk Verdict)
      (Handled setup p k c name as s) :=
  .pure fun _ holds => ⟨by rw [content], t, finished, holds⟩

theorem setFont_ends {t : Shape} :
    Ends (Holds p (k.receive c as t)) blame (setFont k.next as) fun _ =>
      Holds p (k.receive c as (t.withFont (as.value? "font"))) := by
  unfold setFont
  cases as.value? "font" with
  | none => exact .pure fun _ holds => holds
  | some font =>
    refine (updateReceived_ends (t := t) _ ?_).mono fun _ d holds => ?_
    · split <;> simp_all [Shape.isPath, Item.isPath]
    · cases variant : t.variant <;> simp_all [Shape.withFont]

theorem setFontSize_ends {t : Shape}
    (refused : ∀ e d, as.int? "textsize" = .error e → Holds p (k.receive c as t) d → blame e d) :
    Ends (Holds p (k.receive c as t)) blame (setFontSize k.next as)
      fun _ d => ∃ size, as.int? "textsize" = .ok size ∧ Holds p (k.receive c as (t.withFontSize size)) d := by
  refine (Ends.settle fun e d holds failed => refused e d failed holds).bind fun size => .given fun read => ?_
  cases size with
  | none => exact .pure fun _ holds => ⟨none, read, holds⟩
  | some size =>
    refine (updateReceived_ends (t := t) _ ?_).mono fun _ d holds => ⟨some size, read, ?_⟩
    · split <;> simp_all [Shape.isPath, Item.isPath]
    · cases variant : t.variant <;> simp_all [Shape.withFontSize]

theorem withFont_same (font : Option String) (s : Shape) : (s.withFont font).Same s := by
  unfold Shape.withFont
  split
  next variant => exact same_of_variant variant rfl (by simp [Item.isPath, variant]) rfl rfl
  next => exact ⟨rfl, rfl⟩

theorem withFontSize_same (size : Option Int) (s : Shape) : (s.withFontSize size).Same s := by
  unfold Shape.withFontSize
  split
  next variant => exact same_of_variant variant rfl (by simp [Item.isPath, variant]) rfl rfl
  next => exact ⟨rfl, rfl⟩

theorem Attributes.isGiven_of_ne {name : String} (other : name ≠ "rectangle") : as.isGiven name = true := by
  simp [Attributes.isGiven, other]

/-- A shape that was called by its name before it was refused. -/
theorem refused_of_called {name : String} {e : Fault} {d : Desk} (given : as.isGiven name = true)
    (failed : s.finish setup p as name = .error e) (called : d.roll = k.roll.enter s.kind (as.value? "name")) :
    Refused setup p k name as s e d := by
  refine ⟨failed, ?_⟩
  rw [Roll.receive_given given, called]

variable (fits : k.Fits c) (nameless : s.name = none)

include nameless in
theorem attributed_called {t : Shape} (attributed : s.attributed setup p as = .ok t) :
    t.kind = s.kind ∧ t.name = as.value? "name" := by
  refine ⟨Shape.kind_of_attributed attributed, ?_⟩
  simpa [nameless] using (Shape.attributed_frame attributed).2

include fits nameless

theorem groupRule_ends :
    Ends (Holds p (k.make s)) (Refused setup p k "group" as s)
      (groupRule setup c as (some ⟨k.next, .shape s⟩) (setup.geometry as))
      (Ruled setup p k c "group" as s) := by
  have given : as.isGiven "group" = true := Attributes.isGiven_of_ne (by decide)
  obtain ⟨bounds, style, name, owner, data, variant⟩ := s
  cases variant with
  | group children plan =>
    refine (enrollFirst_ends fits nameless (fun e d failed called => refused_of_called given ?_ called)
      fun t attributed => ?_).mono ruled_of_handled
    · simp [Shape.finish, failed]
    obtain ⟨kind, named⟩ := attributed_called nameless attributed
    split
    next geometry =>
      refine (Ends.settle fun e d holds failed => ?_).bind fun b => .given fun read => ?_
      · refine refused_of_called given ?_ (roll_of_received holds kind named)
        simp_all [Shape.finish]
      refine (updateReceived_ends (·.withBounds b) rfl).bind fun _ => handled_ends rfl ?_
      simp_all [Shape.finish]
    next bare =>
      refine handled_ends rfl ?_
      simp_all [Shape.finish]
  | edge path connections =>
    refine Ends.mono ?_ ruled_of_handled
    exact enroll_ends fits nameless (fun e d failed called => refused_of_called given failed called)
      fun t attributed => handled_ends rfl attributed
  | _ => exact ruled_declined rfl given rfl .group _

theorem handleText_ends {content family : String} {size : Int}
    (text : s.variant = .text content family size) :
    Ends (Holds p (k.make s)) (Refused setup p k "text" as s) (handleText setup c as k.next)
      (Handled setup p k c "text" as s) := by
  have given : as.isGiven "text" = true := Attributes.isGiven_of_ne (by decide)
  refine enroll_ends fits nameless (fun e d failed called => refused_of_called given ?_ called)
    fun t attributed => setFont_ends.bind fun _ => (setFontSize_ends fun e d failed holds => ?_).bind fun _ => ?_
  · simp [Shape.finish, text, failed]
  · obtain ⟨kind, named⟩ := attributed_called nameless attributed
    refine refused_of_called given ?_ (roll_of_received holds ?_ ?_)
    · simp [Shape.finish, text, attributed, failed]
    · rw [(withFont_same _ _).kind, kind]
    · rw [(withFont_same _ _).name, named]
  · refine .exists_pre fun size => .given fun read => handled_ends ?_ ?_
    · simp [Shape.content?, text]
    · simp [Shape.finish, text, attributed, read]

theorem textRule_ends :
    Ends (Holds p (k.make s)) (Refused setup p k "text" as s)
      (textRule setup c as (some ⟨k.next, .shape s⟩)) (Ruled setup p k c "text" as s) := by
  obtain ⟨bounds, style, name, owner, data, variant⟩ := s
  cases variant with
  | text content family size => exact (handleText_ends fits nameless rfl).mono ruled_of_handled
  | _ => exact ruled_declined rfl (Attributes.isGiven_of_ne (by decide)) rfl .text _

theorem pathRule_ends {name : String} (path : name = "path" ∨ name = "line") :
    Ends (Holds p (k.make s)) (Refused setup p k name as s)
      (pathRule setup c as (some ⟨k.next, .shape s⟩)) (Ruled setup p k c name as s) := by
  have given : as.isGiven name = true := by
    rcases path with rfl | rfl <;> exact Attributes.isGiven_of_ne (by decide)
  obtain ⟨bounds, style, _, owner, data, variant⟩ := s
  cases variant with
  | line | polygon =>
    refine (enroll_ends fits nameless (fun e d failed called => refused_of_called given ?_ called)
      fun t attributed => handled_ends ?_ ?_).mono ruled_of_handled
    · rcases path with rfl | rfl <;> exact failed
    · rcases path with rfl | rfl <;> rfl
    · rcases path with rfl | rfl <;> exact attributed
  | _ =>
    refine ruled_declined ?_ given ?_ .path _
    · rcases path with rfl | rfl <;> rfl
    · rcases path with rfl | rfl <;> rfl

omit nameless in
theorem handleRectangle_ends {t : Shape} {name : String} (content : s.content? setup as name k.next = none)
    (finish : s.finish setup p as name = t.attributed setup p as) (given : as.isGiven name = true)
    (kind : t.kind = s.kind) (nameless : t.name = none) :
    Ends (Holds p (k.make t)) (Refused setup p k name as s) (handleRectangle setup c as k.next)
      (Handled setup p k c name as s) :=
  enroll_ends fits nameless
    (fun _ _ failed called => refused_of_called given (finish.trans failed) (kind ▸ called))
    fun _ attributed => handled_ends content (finish.trans attributed)

theorem rectangleRule_ends :
    Ends (Holds p (k.make s)) (Refused setup p k "rectangle" as s)
      (rectangleRule setup c as (some ⟨k.next, .shape s⟩)) (Ruled setup p k c "rectangle" as s) := by
  refine (Ends.settle fun e d holds failed => ?_).bind fun rounding => .given fun read => ?_
  · have never : as.isGiven "rectangle" = false := by
      simp [Attributes.isGiven, failed, Except.isOk, Except.toBool]
    refine ⟨by simp [Shape.finish, failed], ?_⟩
    rw [holds.roll, Stock.roll_make nameless, Roll.receive, never]
    rfl
  have given : as.isGiven "rectangle" = true := by simp [Attributes.isGiven, read, Except.isOk, Except.toBool]
  dsimp only
  split
  next rounded =>
    refine (updateNewest_ends _).bind fun _ => (handleRectangle_ends fits rfl ?_ given
      (setRadius_same rounding s).kind ?_).mono ruled_of_handled
    · simp [Shape.finish, read, rounded]
    · rw [(setRadius_same rounding s).name, nameless]
  next plain =>
    refine (handleRectangle_ends fits rfl ?_ given rfl nameless).mono ruled_of_handled
    simp [Shape.finish, read, plain]

theorem handleEllipse_ends (ellipse : s.variant = .ellipse) :
    Ends (Holds p (k.make s)) (Refused setup p k "ellipse" as s) (handleEllipse setup c as k.next)
      (Handled setup p k c "ellipse" as s) := by
  have given : as.isGiven "ellipse" = true := Attributes.isGiven_of_ne (by decide)
  refine (setAttributes_ends nameless fun e d failed called => refused_of_called given ?_ called).bind
    fun _ => .exists_pre fun t => .given fun attributed => ?_
  · simp [Shape.finish, ellipse, failed]
  obtain ⟨kind, named⟩ := attributed_called nameless attributed
  have refused {e : Fault} {d : Desk} (failed : s.finish setup p as "ellipse" = .error e)
      (holds : Holds p ((k.call (as.value? "name") k.next).make t) d) :
      Refused setup p k "ellipse" as s e d := by
    refine refused_of_called given failed ?_
    rw [holds.roll, ← named, ← kind]
    exact Stock.roll_call
  refine Ends.bind (Ends.settle ?_) fun rx => .given fun atX => ?_
  · intro e d holds failed
    refine refused ?_ holds
    simp [Shape.finish, ellipse, attributed, failed]
  refine Ends.bind (Ends.settle ?_) fun ry => .given fun atY => ?_
  · intro e d holds failed
    refine refused ?_ holds
    simp [Shape.finish, ellipse, attributed, atX, failed]
  refine (updateNewest_ends (k := k.call _ _) (Shape.centred rx ry)).bind fun _ => ?_
  refine (attach_ends (k := k.call _ _) (Stock.fits_call fits _ _)).bind fun _ => handled_ends rfl ?_
  simp [Shape.finish, ellipse, attributed, atX, atY]

theorem ellipseRule_ends :
    Ends (Holds p (k.make s)) (Refused setup p k "ellipse" as s)
      (ellipseRule setup c as (some ⟨k.next, .shape s⟩)) (Ruled setup p k c "ellipse" as s) := by
  obtain ⟨bounds, style, name, owner, data, variant⟩ := s
  cases variant with
  | ellipse => exact (handleEllipse_ends fits nameless rfl).mono ruled_of_handled
  | _ => exact ruled_declined rfl (Attributes.isGiven_of_ne (by decide)) rfl .ellipse _

theorem rule_ends {name : String} (other : name ≠ "private") :
    Ends (Holds p (k.make s)) (Refused setup p k name as s)
      (rule setup c name as (some ⟨k.next, .shape s⟩) (setup.geometry as))
      (Ruled setup p k c name as s) := by
  unfold rule
  split
  · exact groupRule_ends fits nameless
  · exact textRule_ends fits nameless
  · exact pathRule_ends fits nameless (.inl rfl)
  · exact pathRule_ends fits nameless (.inr rfl)
  · contradiction
  · exact rectangleRule_ends fits nameless
  · exact ellipseRule_ends fits nameless
  next group text path line _ rectangle ellipse =>
    refine .pure fun _ holds => ⟨?_, Attributes.isGiven_of_ne fun same => rectangle same, ?_, holds⟩
    · unfold Shape.content?
      split <;> first | contradiction | rfl
    · unfold Shape.finish
      split <;> first | contradiction | rfl

/-- A shape of a type hint is finished by the rule of its element or, if that declines it, as that of
an unrecognized element. -/
theorem applyRule_ends {name : String} (other : name ≠ "private") :
    Ends (Holds p (k.make s)) (Refused setup p k name as s)
      (applyRule setup c name as (some ⟨k.next, .shape s⟩) (setup.geometry as)) fun next d =>
      next = s.content? setup as name k.next ∧ Makes p k c as (s.finish setup p as name) d := by
  refine (rule_ends fits nameless other).bind fun verdict => ?_
  cases verdict with
  | handled next => exact .pure fun _ ruled => ruled
  | declined =>
    refine .given fun nothing => .given fun given => .given fun plain => ?_
    rw [nothing, plain]
    refine ((note_ends rfl).bind fun _ => ?_).bind fun _ => .pure fun _ made => ⟨rfl, made⟩
    refine (setAttributes_ends nameless fun e d failed called => ?_).bind fun _ => .exists_pre fun t =>
      .given fun attributed => ?_
    · exact refused_of_called given (plain.trans failed) called
    have called : (k.call (as.value? "name") k.next).Fits c := Stock.fits_call fits _ _
    exact (attach_ends called).mono fun _ _ holds => ⟨t, attributed, holds⟩

/-! ## Elements without a type hint -/

omit fits nameless in
theorem place_ends {α : Type} {f : ItemId → Work Desk α} {post : α → Desk → Prop} (plain : s.Plain)
    (next : Ends (Holds p (k.make s)) blame (f k.next) post) :
    Ends (Holds p k) blame (placeShape s >>= f) post := by
  refine (placeShape_ends plain).bind fun id => .given ?_
  rintro rfl
  exact next

/-- A desk after an element without a type hint that cannot be read. A rectangle with a rounding that cannot
be read is not even made. -/
def Unread (setup : Setup) (p : Palette) (k : Stock) (name : String) (as : Attributes) (e : Fault) (d : Desk) :
    Prop :=
  match Setup.usual? name as with
  | some s => Refused setup p k name as s e d
  | none => (name = "rectangle" ∧ as.int "rounding" (-1) = .error e) ∧ d.roll = k.roll

omit nameless in
theorem rule_unhinted_ends {name : String} (other : name ≠ "private") (geometry : List String) :
    Ends (Holds p k) (Unread setup p k name as) (rule setup c name as none geometry) fun verdict d =>
        match Setup.usual? name as with
        | some s => Handled setup p k c name as s verdict d
        | none => (verdict = .declined ∧ name ≠ "rectangle") ∧ Holds p k d := by
  have path (name : String) (usual : Setup.usual? name as = some (.ofVariant .emptyPolygon))
      (named : name = "path" ∨ name = "line") :
      Ends (Holds p k) (Refused setup p k name as (.ofVariant .emptyPolygon)) (pathRule setup c as none)
        (Handled setup p k c name as (.ofVariant .emptyPolygon)) := by
    have given : as.isGiven name = true := by
      rcases named with rfl | rfl <;> exact Attributes.isGiven_of_ne (by decide)
    refine place_ends (usual_plain usual) (enroll_ends fits rfl
      (fun e d failed called => refused_of_called given ?_ called) fun t attributed => handled_ends ?_ ?_)
    · rcases named with rfl | rfl <;> exact failed
    · rcases named with rfl | rfl <;> rfl
    · rcases named with rfl | rfl <;> exact attributed
  unfold rule
  split
  · exact .pure fun _ holds => ⟨⟨rfl, by decide⟩, holds⟩
  · have plain := usual_plain (show Setup.usual? "text" as = some _ from rfl)
    exact place_ends plain (handleText_ends fits rfl rfl)
  · exact path "path" rfl (.inl rfl)
  · exact path "line" rfl (.inr rfl)
  · contradiction
  · refine (Ends.settle fun e d holds failed => ?_).bind fun rounding => .given fun read => ?_
    · have unmade : Setup.usual? "rectangle" as = none := by simp [Setup.usual?, failed]
      rw [Unread, unmade]
      exact ⟨⟨rfl, failed⟩, holds.roll⟩
    let s : Shape := .sized (if 0 ≤ rounding then .roundedRectangle rounding else .rectangle) 80 80
    have usual : Setup.usual? "rectangle" as = some s := by simp [Setup.usual?, read, s]
    have unread : Unread setup p k "rectangle" as = Refused setup p k "rectangle" as s := by
      funext e d
      rw [Unread, usual]
    rw [usual, unread]
    -- A rounding that is there is the radius already.
    have rounded : (if 0 ≤ rounding then setRadius rounding s else s) = s := by
      split
      next there => simp [setRadius, s, there, Shape.sized, Shape.ofVariant]
      next => rfl
    have given : as.isGiven "rectangle" = true := by
      simp [Attributes.isGiven, read, Except.isOk, Except.toBool]
    refine place_ends (usual_plain usual) (handleRectangle_ends fits rfl ?_ given rfl rfl)
    simp only [Shape.finish, read, except_ok_bind]
    rw [rounded]
  · have plain := usual_plain (show Setup.usual? "ellipse" as = some _ from rfl)
    exact place_ends plain (handleEllipse_ends fits rfl rfl)
  next group text path line _ rectangle ellipse =>
    have nothing : Setup.usual? name as = none := by
      unfold Setup.usual?
      split <;> simp_all
    rw [nothing]
    exact .pure fun _ holds => ⟨⟨rfl, fun same => rectangle same⟩, holds⟩

/-! ## Dispatch -/

/-- What an element does to a stock, by its role. A rectangle makes a shape or cannot be read. -/
def Dispatches (setup : Setup) (p : Palette) (k : Stock) (c : Container) (name : String)
    (as : Attributes) (next : Option Handler) (d : Desk) : Prop :=
  match setup.role name as with
  | .nothing => (next = none ∧ name ≠ "rectangle") ∧ Holds p k d
  | .relay lost => next = some (.wrapper c "") ∧ Holds p (lost.elim k k.make) d
  | .shape s _ => next = s.content? setup as name k.next ∧ Makes p k c as (s.finish setup p as name) d

/-- A desk after an element that cannot be read, by its role. -/
def Stops (setup : Setup) (p : Palette) (k : Stock) (name : String) (as : Attributes) (e : Fault)
    (d : Desk) : Prop :=
  match setup.role name as with
  | .nothing => (name = "rectangle" ∧ as.int "rounding" (-1) = .error e) ∧ d.roll = k.roll
  | .relay _ => False
  | .shape s _ => Refused setup p k name as s e d

omit nameless in
theorem applyRule_unhinted_ends {name : String} (other : name ≠ "private") (geometry : List String) :
    Ends (Holds p k) (Unread setup p k name as) (applyRule setup c name as none geometry)
      fun next d =>
        match Setup.usual? name as with
        | some s => next = s.content? setup as name k.next ∧ Makes p k c as (s.finish setup p as name) d
        | none => (next = none ∧ name ≠ "rectangle") ∧ Holds p k d := by
  refine (rule_unhinted_ends fits other geometry).bind fun verdict => ?_
  cases usual : Setup.usual? name as with
  | some s =>
    refine .given ?_
    rintro rfl
    exact .pure fun _ makes => ⟨rfl, makes⟩
  | none =>
    refine .given ?_
    rintro ⟨rfl, other⟩
    exact (note_ends rfl).bind fun _ => .pure fun _ holds => ⟨⟨rfl, other⟩, holds⟩

omit nameless in
/-- A private element belongs to the container around it. -/
theorem private_ends (hinted : Option Hinted) (geometry : List String) :
    Ends (Holds p k) blame (applyRule setup c "private" as hinted geometry) fun next d =>
      next = some (.wrapper c "") ∧ Holds p k d := by
  have takes : c.takesObjects = true := by
    cases c with
    | tray => exact fits.elim
    | _ => rfl
  have belongs : Ends (Holds p k) blame (privateRule c hinted) fun verdict d =>
      verdict = .handled (some (.wrapper c "")) ∧ Holds p k d := by
    have wrapped : Ends (Holds p k) blame (return .handled (some (.wrapper c "")) : Work Desk Verdict)
        fun verdict d => verdict = .handled (some (.wrapper c "")) ∧ Holds p k d :=
      .pure fun _ holds => ⟨rfl, holds⟩
    unfold privateRule
    rw [if_pos takes]
    cases hinted with
    | none => exact wrapped
    | some h => exact (note_ends rfl).bind fun _ => wrapped
  refine Ends.bind belongs fun verdict => .given ?_
  rintro rfl
  exact .pure fun _ holds => ⟨rfl, holds⟩

omit fits nameless in
/-- A type hint makes a shape or, if there is no such type, nothing. -/
theorem createHinted_ends (types : setup.types = .builtin) (type hint : String) :
    Ends (Holds p k) blame (createHinted setup type hint) fun hinted d =>
      match setup.made? type with
      | some s => (hinted = some ⟨k.next, .shape s⟩ ∧ Builtin s) ∧ Holds p (k.make s) d
      | none => hinted = none ∧ Holds p k d := by
  rcases builtin_create (setup.translate type) with ⟨s, made, builtin⟩ | unknown
  · have makes : setup.made? type = some s := by
      simp [Setup.made?, types, made, Drawing.ofShape, Drawing.ofItem]
    simp only [createHinted, types, made, makes]
    refine place_ends builtin.plain (.current fun d holds => ?_)
    have there : d.item? k.next = some (.shape s) := by
      simp [item?, holds.item, Stock.make_next]
    rw [there]
    exact .pure fun _ holds => ⟨⟨rfl, builtin⟩, holds⟩
  · have makes : setup.made? type = none := by simp [Setup.made?, types, unknown]
    simp only [createHinted, types, unknown, makes]
    exact (note_ends rfl).bind fun _ => .pure fun _ holds => ⟨rfl, holds⟩

omit nameless in
theorem dispatches_unhinted {name : String} (absent : setup.hinted? as = none) (geometry : List String) :
    Ends (Holds p k) (Stops setup p k name as) (applyRule setup c name as none geometry)
      (Dispatches setup p k c name as) := by
  by_cases belongs : name = "private"
  · subst belongs
    have role : setup.role "private" as = .relay none := by simp [Setup.role, absent]
    refine (private_ends fits none geometry).mono fun next d done => ?_
    simpa [Dispatches, role] using done
  · have role : setup.role name as =
        match Setup.usual? name as with
        | some s => .shape s .closed
        | none => .nothing := by
      cases usual : Setup.usual? name as with
      | none => simp [Setup.role, belongs, absent, usual]
      | some s => simp [Setup.role, belongs, absent, usual, usual_closed _ usual]
    refine ((applyRule_unhinted_ends fits belongs geometry).mono fun next d done => ?_).excuse
      fun e d unread => ?_
    · cases usual : Setup.usual? name as with
      | none => simpa [Dispatches, role, usual] using done
      | some s => simpa [Dispatches, role, usual] using done
    · unfold Unread at unread
      cases usual : Setup.usual? name as with
      | none => simpa [Stops, role, usual] using unread
      | some s => simpa [Stops, role, usual] using unread

theorem dispatches_hinted {name : String} (made : setup.hinted? as = some s) :
    Ends (Holds p (k.make s)) (Stops setup p k name as)
      (applyRule setup c name as (some ⟨k.next, .shape s⟩) (setup.geometry as))
      (Dispatches setup p k c name as) := by
  by_cases belongs : name = "private"
  · subst belongs
    have role : setup.role "private" as = .relay (some s) := by simp [Setup.role, made]
    refine (private_ends (Stock.fits_make fits s) _ _).mono fun next d done => ?_
    simpa [Dispatches, role] using done
  · have role : setup.role name as = .shape s (Setup.interior name s.variant) := by
      simp [Setup.role, belongs, made]
    refine ((applyRule_ends fits nameless belongs).mono fun next d done => ?_).excuse fun e d refused => ?_
    · simpa [Dispatches, role] using done
    · simpa [Stops, role] using refused

omit nameless in
/-- An element of built-in types does to a stock what its role says, or it cannot be read. -/
theorem dispatch_ends (types : setup.types = .builtin) (name : String) :
    Ends (Holds p k) (Stops setup p k name as) (dispatch setup c name as)
      (Dispatches setup p k c name as) := by
  unfold dispatch
  cases value : as.value? setup.config.hintAttribute with
  | none => exact dispatches_unhinted fits (by simp [Setup.hinted?, value]) []
  | some hint =>
    dsimp only
    cases tokens : Attributes.hintTokens hint with
    | nil =>
      have absent : setup.hinted? as = none := by simp [Setup.hinted?, value, tokens]
      exact (note_ends rfl).bind fun _ => dispatches_unhinted fits absent []
    | cons type geometry =>
      have source : setup.hinted? as = setup.made? type := by simp [Setup.hinted?, value, tokens]
      have behind : setup.geometry as = geometry := by simp [Setup.geometry, value, tokens]
      refine (createHinted_ends types type hint).bind fun hinted => ?_
      cases makes : setup.made? type with
      | none =>
        refine .given ?_
        rintro rfl
        exact dispatches_unhinted fits (source.trans makes) geometry
      | some s =>
        refine .given ?_
        rintro ⟨rfl, builtin⟩
        simp only [Option.bind_some, builtin.plan, Option.map_none]
        rw [← behind]
        exact dispatches_hinted fits builtin.plain.name (source.trans makes)

end

end Pgml
