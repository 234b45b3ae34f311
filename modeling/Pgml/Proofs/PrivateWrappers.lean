import Pgml.Proofs.CharacterCuts
import Pgml.Proofs.HandlerFaults
import Pgml.Proofs.TextsWithoutPairs

/-! Private elements that could as well not be there. A private element without type hint passes the elements
in it on to the container around it, and reads its own character data only when it ends. If there is no pair
in that data, the document comes to the same with the elements in its place. -/
namespace Pgml

open Machine Vocabulary

/-- Content without the character data directly in it. -/
def Content.elements : Content → Content
  | .empty => .empty
  | .text _ rest => rest.elements
  | .element name as inner rest => .element name as inner rest.elements

theorem PrivateData.isEmpty_parse {text : String} (silent : ¬ HasPair text.toList) :
    (parse text).isEmpty = true := by
  rw [parse, (pairs_eq_nil_iff _).mpr silent]
  rfl

namespace Handler

variable {setup : Setup} {h : Handler} {c : Container} {as : Attributes}

/-- The recursion over content in a wrapper, and over its elements in the element around. -/
theorem eval_wrapper (room : h.room? = some c) (content : Content) (buffer : String) :
    content.eval (behaviour setup) (.wrapper c buffer) =
      (content.elements.eval (behaviour setup) h >>= fun _ =>
        pure (.wrapper c (content.ownText.foldl (· ++ ·) buffer))) := by
  induction content generalizing buffer with
  | empty => rfl
  | text data rest ih => exact ih (buffer ++ data)
  | element name as inner rest _ ih =>
    have same : (behaviour setup).startElement (.wrapper c buffer) name as =
        (behaviour setup).startElement h name as :=
      (startElement_room setup rfl name as).trans (startElement_room setup room name as).symm
    simp only [Content.eval, Content.elements, bind_assoc, same, ih, Content.ownText]

theorem dispatch_private (unhinted : as.value? setup.config.hintAttribute = none)
    (takes : c.takesObjects = true) :
    dispatch setup c "private" as = pure (some (.wrapper c "")) := by
  simp [dispatch, unhinted, dispatchUnhinted, applyRule, rule, privateRule, takes]

theorem endWrapper_silent {buffer : String} (silent : ¬ PrivateData.HasPair buffer.toList) :
    endWrapper c buffer = pure () := by
  simp [endWrapper, PrivateData.isEmpty_parse silent]

/-- Elements give nothing to the handler of the element around. -/
theorem eval_elements (content : Content) (h : Handler) :
    (content.elements.eval (behaviour setup) h >>= fun _ => pure h) =
      content.elements.eval (behaviour setup) h := by
  induction content with
  | empty => rfl
  | text _ _ ih => exact ih
  | element name as inner rest _ ih => simp only [Content.elements, Content.eval, bind_assoc, ih]

/-- A silent private element does what its elements do. -/
theorem eval_private (room : h.room? = some c) (takes : c.takesObjects = true)
    (unhinted : as.value? setup.config.hintAttribute = none) {inner : Content}
    (silent : ¬ PrivateData.HasPair inner.ownString.toList) :
    (Content.element "private" as inner .empty).eval (behaviour setup) h =
      inner.elements.eval (behaviour setup) h := by
  have opened : (behaviour setup).startElement h "private" as = pure (some (.wrapper c "")) := by
    rw [startElement_room setup room, dispatch_private unhinted takes]
    rfl
  have closed : (behaviour setup).endElement (.wrapper c inner.ownString) "private" = pure () := by
    change Machine.onWork (endWrapper c inner.ownString) = _
    rw [endWrapper_silent silent]
    rfl
  calc (Content.element "private" as inner .empty).eval (behaviour setup) h
    _ = (inner.eval (behaviour setup) (.wrapper c "") >>= fun done =>
          (behaviour setup).endElement done "private" >>= fun _ => pure h) := by
      rw [Content.eval, opened]
      rfl
    _ = (inner.elements.eval (behaviour setup) h >>= fun _ =>
          (behaviour setup).endElement (.wrapper c inner.ownString) "private" >>= fun _ => pure h) := by
      rw [eval_wrapper room, bind_assoc]
      rfl
    _ = (inner.elements.eval (behaviour setup) h >>= fun _ => pure h) := by
      rw [closed]
      rfl
    _ = inner.elements.eval (behaviour setup) h := eval_elements inner h

end Handler

/-! ## Replacing content -/

namespace Behaviour

variable {H S : Type} [Workspace S] {b : Behaviour H S} {calm : H → Prop} {m : Machine H S}

/-- What the recursion does not tell apart, the machine does not tell apart among other events, if no interrupt
comes from the handlers: this would tell how many elements are open when it comes. -/
theorem leave_replaced (leaves : b.LeavesFrames calm) (blind : b.Blind calm) (never : b.NeverInterrupts calm)
    {c d : Content} {name : Option String} {around : List (Frame H)} {h : H} (tame : calm h)
    (same : c.eval b h = d.eval b h) (reading : m.reading = true) (frames : m.frames = ⟨name, h⟩ :: around)
    (after : List Event) (ending : Option Fault) :
    leave ((b.dispatchAll (c.events ++ after) >>= fun _ => finish ending) m) =
      leave ((b.dispatchAll (d.events ++ after) >>= fun _ => finish ending) m) := by
  have wordC := Content.dispatchAll_events leaves c name around tame after reading
  have wordD := Content.dispatchAll_events leaves d name around tame after reading
  rw [Content.amid_of_frames _ frames] at wordC wordD
  obtain ⟨resultC, apartC, _⟩ :=
    Content.evalAmid_alike leaves blind c name around tame m m ⟨reading, reading, rfl⟩
  obtain ⟨resultD, apartD, _⟩ :=
    Content.evalAmid_alike leaves blind d name around tame m m ⟨reading, reading, rfl⟩
  rw [Work.bind_apply, Work.bind_apply, wordC, wordD, Work.bind_apply, Work.bind_apply]
  rcases ranC : c.evalAmid b name around h m with ⟨result, t⟩
  rcases ranD : d.evalAmid b name around h m with ⟨result', u⟩
  rw [ranC] at resultC apartC
  rw [ranD, ← same] at resultD apartD
  obtain rfl : result = result' := resultC.trans resultD.symm
  have work : t.work = u.work := apartC.work.trans apartD.work.symm
  cases result with
  | error fault =>
    have own : fault.isInterrupt = false := by
      have ended := Content.eval_ends leaves never c tame m reading
      rcases ran : c.eval b h m with ⟨e | done, v⟩
      · obtain rfl : fault = e := by simpa [ran] using resultC
        rwa [ran] at ended
      · simp [ran] at resultC
    simp [leave, stopped_of_fault, own, work]
  | ok done =>
    have reading : t.reading = u.reading := apartC.left.trans apartD.left.symm
    have next : amid (⟨name, done⟩ :: around) (b.dispatchAll after) t =
        amid (⟨name, done⟩ :: around) (b.dispatchAll after) u := by
      simp [amid, work, reading]
    simp [next]

/-- Content can be replaced by what the handler around does not tell from it. -/
theorem parse_replaced (leaves : b.LeavesFrames calm) (blind : b.Blind calm) (never : b.NeverInterrupts calm)
    {initial : H} (tame : calm initial) {opening : List Notice} {before after : List Event} {ending : Option Fault}
    {c d : Content}
    (same : ∀ t, b.dispatchAll before (m.opened initial ⟨opening, before, none⟩) = (.ok (), t) →
      ∃ frame rest, t.frames = frame :: rest ∧ c.eval b frame.handler = d.eval b frame.handler) :
    b.parse initial ⟨opening, before ++ (c.events ++ after), ending⟩ m =
      b.parse initial ⟨opening, before ++ (d.events ++ after), ending⟩ m := by
  cases idle : m.reading with
  | true => simp [parse, idle]
  | false =>
    have stands : Stands calm [] (m.opened initial ⟨opening, before, none⟩) := .opened tame _ m
    rcases ran : b.dispatchAll before (m.opened initial ⟨opening, before, none⟩) with ⟨fault | _, t⟩
    · rw [parse_append idle ran, parse_append idle ran]
    · obtain ⟨names, _, there⟩ := stands_of_dispatchAll leaves stands ran
      obtain ⟨⟨name, h⟩, rest, frames, alike⟩ := same t ran
      have tameHere := there.handlers ⟨name, h⟩ (by simp [frames])
      rw [parse_append idle ran, parse_append idle ran]
      exact leave_replaced leaves blind never tameHere alike there.reading frames after ending

end Behaviour

namespace Reader

/-- Private elements are transparent. Inside an element whose handler stands for a container, which is a root,
a handled group or edge, or another handled private element, a private element without type hint and without
a pair in its own character data can be replaced by the elements in it: the reader comes to the same diagram
or fault, with the same names, colours and notices, whatever the element holds and whatever surrounds it,
and wherever the character data around it is cut then. -/
theorem parse_transparent {initial : Handler} (calm : initial ≠ .popping) (r : Reader) {opening : List Notice}
    {before after : List Event} {ending : Option Fault} {as : Attributes} {inner : Content}
    (unhinted : as.value? r.setup.config.hintAttribute = none)
    (silent : ¬ PrivateData.HasPair inner.ownString.toList)
    (around : ∀ t, (Handler.behaviour r.setup).dispatchAll before
        (r.machine.opened initial ⟨opening, before, none⟩) = (.ok (), t) →
      ∃ frame rest c, t.frames = frame :: rest ∧ frame.handler.room? = some c ∧ c.takesObjects = true)
    {other : Feed} (recut : Feed.Recut ⟨opening, before ++ (inner.elements.events ++ after), ending⟩ other) :
    parse initial other r =
      parse initial
        ⟨opening, before ++ ((Content.element "private" as inner .empty).events ++ after), ending⟩ r := by
  have leaves := Handler.leavesFrames r.setup
  have same : (Handler.behaviour r.setup).parse initial
        ⟨opening, before ++ (inner.elements.events ++ after), ending⟩ r.machine =
      (Handler.behaviour r.setup).parse initial
        ⟨opening, before ++ ((Content.element "private" as inner .empty).events ++ after), ending⟩
        r.machine := by
    have never := Handler.neverInterrupts r.setup (· ≠ .popping)
    refine Behaviour.parse_replaced leaves (Handler.blind r.setup) never calm fun t taken => ?_
    obtain ⟨frame, rest, c, frames, room, takes⟩ := around t taken
    exact ⟨frame, rest, frames, (Handler.eval_private room takes unhinted silent).symm⟩
  rw [parse_recut calm recut]
  simp only [parse, onMachine, Work.within, same]

/-- In a group a private element with a name and a size, around an ellipse and a private element with a
pair; the elements in it take its place, and the line ends around it are joined. -/
theorem parse_transparent_of_nest :
    let r : Reader := ⟨.plain, ⟨[], false, Desk.fresh .builtin⟩⟩
    let before : List Event :=
      [.start "pgml" [], .start "group" [("description", "group"), ("name", "g")], .characters "\n"]
    let after : List Event := [.characters "\n", .finish "group", .finish "pgml"]
    let as : Attributes := [("name", "hidden"), ("x", "wide"), ("description", "")]
    let inner : Content := .text "note = " (.element "ellipse" [("name", "e")] .empty
      (.element "private" [] (.text "k=\"v\"" .empty) (.text "1" .empty)))
    let feed : Feed := .ofEvents (before ++ ((Content.element "private" as inner .empty).events ++ after))
    let other : Feed := .ofEvents (Event.joined (before ++ (inner.elements.events ++ after)))
    as.value? r.setup.config.hintAttribute = none ∧ ¬ PrivateData.HasPair inner.ownString.toList ∧
      parse .root other r = parse .root feed r ∧ (parse .root feed r).2.desk.names.names = ["g", "e"] ∧
      ((parse .root feed r).2.desk.shape? ⟨0⟩).map (·.privateData.entries) = some [("k", "v")] := by
  intro r before after as inner feed other
  have silent : ¬ PrivateData.HasPair inner.ownString.toList :=
    (PrivateData.pairs_eq_nil_iff _).mp (by decide +kernel)
  have unhinted : as.value? r.setup.config.hintAttribute = none := by decide
  refine ⟨unhinted, silent, ?_, by decide +kernel, by decide +kernel⟩
  refine parse_transparent (by simp) r unhinted silent ?_ ⟨rfl, by decide, rfl⟩
  intro t taken
  obtain rfl := congrArg Prod.snd taken
  exact ⟨⟨some "group", .group ⟨0⟩ true⟩, [⟨some "pgml", .diagram⟩, ⟨none, .root⟩], .group ⟨0⟩,
    by decide +kernel, rfl, rfl⟩

end Reader

end Pgml
