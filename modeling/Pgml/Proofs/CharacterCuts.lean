import Pgml.Proofs.DeliveredEvents
import Pgml.Proofs.TextWords

/-! Where character data is cut. A source may deliver it in any pieces, empty ones among them. The handlers
that keep character data keep it joined, and the others drop it, so documents that differ only in such cuts
are read alike: the result is the same and so is all that is left on the desk. -/
namespace Pgml

open Machine Vocabulary

/-- An event in front of others. Character data is joined to character data that follows, and nothing is left
of it if it is empty. -/
def Event.joinTo : Event → List Event → List Event
  | .characters text, .characters more :: rest => .characters (text ++ more) :: rest
  | .characters text, rest => if text = "" then rest else .characters text :: rest
  | e, rest => e :: rest

/-- Events with neighbouring character data joined and without empty character data. -/
def Event.joined (events : List Event) : List Event := events.foldr Event.joinTo []

/-- Feeds that differ in the cuts of character data at most. -/
structure Feed.Recut (feed other : Feed) : Prop where
  opening : other.opening = feed.opening
  events : Event.joined other.events = Event.joined feed.events
  ending : other.ending = feed.ending

namespace Behaviour

variable {H S : Type} {b : Behaviour H S} {calm : H → Prop} {names : List String} {m : Machine H S}

/-- A class of handlers that do nothing with character data but keep it, one piece behind the other. -/
structure Gathers (b : Behaviour H S) (calm : H → Prop) : Prop where
  empty : ∀ h, calm h → b.absorb h "" = h
  append : ∀ h text more, calm h → b.absorb (b.absorb h text) more = b.absorb h (text ++ more)
  silent : ∀ h text, calm h → b.characters h text = pure ()

theorem Gathers.characters (gathers : b.Gathers calm) {frame : Frame H} {rest : List (Frame H)}
    (tame : calm frame.handler) (frames : m.frames = frame :: rest) (text : String) :
    b.dispatch (.characters text) m =
      (.ok (), { m with frames := ⟨frame.element, b.absorb frame.handler text⟩ :: rest }) := by
  rw [dispatch_characters frames, gathers.silent _ _ tame]
  rfl

theorem dispatchAll_joinTo (leaves : b.LeavesFrames calm) (gathers : b.Gathers calm)
    (stands : Stands calm names m) (e : Event) (events : List Event) :
    b.dispatchAll (e.joinTo events) m = b.dispatchAll (e :: events) m := by
  obtain ⟨frame, below, frames, tame⟩ := stands.top
  unfold Event.joinTo
  split
  next text more rest =>
    -- The handler on top has the same in its buffer after the two pieces as after both in one.
    have first := gathers.characters tame frames text
    have second := gathers.characters (leaves.absorb _ text tame)
      (m := { m with frames := ⟨frame.element, b.absorb frame.handler text⟩ :: below }) rfl more
    have whole := gathers.characters tame frames (text ++ more)
    rw [dispatchAll_cons, dispatchAll_cons, Work.bind_ok first, dispatchAll_cons, Work.bind_ok second,
      Work.bind_ok whole, gathers.append _ _ _ tame]
  next text rest _ =>
    split
    next none =>
      subst none
      have nothing := gathers.characters tame frames ""
      rw [gathers.empty _ tame, ← frames] at nothing
      rw [dispatchAll_cons, Work.bind_ok nothing]
    · rfl
  · rfl

/-- Handlers that gather character data do the same wherever it is cut. -/
theorem dispatchAll_joined (leaves : b.LeavesFrames calm) (gathers : b.Gathers calm)
    (stands : Stands calm names m) (events : List Event) :
    b.dispatchAll (Event.joined events) m = b.dispatchAll events m := by
  induction events generalizing names m with
  | nil => rfl
  | cons e events ih =>
    refine (dispatchAll_joinTo leaves gathers stands e _).trans ?_
    refine Work.bind_congr rfl fun _ t taken => ?_
    obtain ⟨_, _, there⟩ := stands_of_dispatch leaves stands taken
    exact ih there

variable [Workspace S]

theorem parse_recut (leaves : b.LeavesFrames calm) (gathers : b.Gathers calm) {initial : H}
    (tame : calm initial) {feed other : Feed} (recut : feed.Recut other) :
    b.parse initial other m = b.parse initial feed m := by
  refine parse_congr recut.opening recut.ending ?_
  have stands := Stands.opened tame feed m
  rw [← dispatchAll_joined leaves gathers stands, recut.events, dispatchAll_joined leaves gathers stands]

end Behaviour

theorem Handler.gathers (setup : Setup) : (behaviour setup).Gathers (· ≠ .popping) where
  empty h _ := by cases h <;> simp [behaviour, behaviourWith, absorb]
  append h text more _ := by cases h <;> simp [behaviour, behaviourWith, absorb, String.append_assoc]
  silent h text calm := by
    cases h with
    | popping => contradiction
    | _ => rfl

namespace Reader

def withBlockSize (size : Int) (r : Reader) : Reader := { r with setup.config.blockSize := size }

/-- No handler asks for the size of the blocks. -/
theorem parse_withBlockSize (initial : Handler) (feed : Feed) (size : Int) (r : Reader) :
    parse initial feed (r.withBlockSize size) =
      ((parse initial feed r).1, (parse initial feed r).2.withBlockSize size) := rfl

theorem parse_recut {initial : Handler} (calm : initial ≠ .popping) {feed other : Feed}
    (recut : feed.Recut other) (r : Reader) : parse initial other r = parse initial feed r := by
  have same := Behaviour.parse_recut (m := r.machine) (Handler.leavesFrames r.setup) (Handler.gathers r.setup)
    calm recut
  simp only [parse, onMachine, Work.within, same]

/-- The words of a text that a document made: those of its element, or none. -/
theorem words_of_stems {r after : Reader} {inner : Content} (types : r.setup.types = .builtin)
    (stems : r.Stems inner after) {name : String} {as : Attributes} {within : Content} {s v : Shape} {i : Nat}
    (occurs : Occurs r.setup name as within inner 0 i) (made : (r.setup.role name as).made? = some s)
    (found : after.desk.shape? ⟨i⟩ = some v) {content : String} (words : v.words? = some content) :
    content = if name = "text" then textContent within.ownString else "" := by
  rw [← Shape.words_loose] at words
  by_cases relayed : name = "private"
  · subst relayed
    have role : r.setup.role "private" as = .relay (some s) := by
      unfold Setup.role at made ⊢
      rw [if_pos rfl] at made ⊢
      exact congrArg Role.relay made
    have lost := stems.lost _ as within s i occurs role
    rw [found, Option.map_some, Option.some.injEq] at lost
    rw [lost, Shape.words_loose] at words
    exact words_of_made types made words
  · have role := role_of_made made relayed
    obtain ⟨u, parts, w, drawn, there, rfl, _⟩ := stems.drawn _ as within s _ i occurs role
    obtain rfl : w = v := Option.some.inj (there.symm.trans found)
    exact words_of_portrayed types role drawn words

/-- Where character data is cut makes no difference. Feeds that differ in such cuts alone come to the same, the
result and all that is left of it. The words of a text are the character data directly inside its element, all
of it, less the line ends at both ends; a text that was made for an element of another name has no words. And
as long as the blocks of a document bring the same events but for such cuts, their size makes no difference. -/
theorem parse_cut_anywhere (r : Reader) :
    (∀ feed other : Feed, feed.Recut other → parse .root other r = parse .root feed r) ∧
    (∀ feed diagram after, r.setup.types = .builtin → parse .root feed r = (.ok diagram, after) →
      ∃ before root as inner rest, feed.events = document before root as inner rest ∧
        ∀ i v content, after.desk.shape? ⟨i⟩ = some v → v.words? = some content →
          (∃ name as within s, Occurs r.setup name as within inner 0 i ∧
            (r.setup.role name as).made? = some s) ∧
          ∀ name as within s, Occurs r.setup name as within inner 0 i →
            (r.setup.role name as).made? = some s →
            if name = "text" then Stripped within.ownString content else content = "") ∧
    ∀ bytes n m, Event.joined (Feed.ofDocument bytes m).events = Event.joined (Feed.ofDocument bytes n).events →
      (Feed.ofDocument bytes m).ending = (Feed.ofDocument bytes n).ending →
      ∃ (result : Except Fault Diagram) (after : Reader),
        parse .root (Feed.ofDocument bytes n) (r.withBlockSize n) = (result, after.withBlockSize n) ∧
        parse .root (Feed.ofDocument bytes m) (r.withBlockSize m) = (result, after.withBlockSize m) := by
  refine ⟨?_, ?_, ?_⟩
  · intro feed other recut
    exact parse_recut (by simp) recut r
  · intro feed diagram after types read
    obtain ⟨before, root, as, inner, rest, word, stems⟩ := stems_of_parse types read
    refine ⟨before, root, as, inner, rest, word, ?_⟩
    intro i v content found words
    constructor
    · obtain ⟨bound, _⟩ := Array.getElem?_eq_some_iff.mp (Desk.shape?_eq_some.mp found)
      exact stems.makers i bound
    · intro name as within s occurs made
      have same := words_of_stems types stems occurs made found words
      split
      next named =>
        rw [same, if_pos named]
        exact stripped_textContent _
      next other => rw [same, if_neg other]
  · intro bytes n m events ending
    have recut : (Feed.ofDocument bytes n).Recut (Feed.ofDocument bytes m) :=
      ⟨by rw [Feed.opening_ofDocument, Feed.opening_ofDocument], events, ending⟩
    refine ⟨_, _, parse_withBlockSize .root _ n r, ?_⟩
    rw [parse_withBlockSize, parse_recut (by simp) recut]

/-- A text with some content and a text that is a rectangle element. -/
def captions (content : Content) : Content :=
  .element "text" [] content (.element "rectangle" [("description", "text")] (.text "unread" .empty) .empty)

theorem parse_cut_anywhere_of_captions :
    let r : Reader := ⟨.plain, ⟨[], false, Desk.fresh .builtin⟩⟩
    let feed (content : Content) : Feed := .ofEvents (document [] "pgml" [] (captions content) [])
    let cut : Content := .text "\n" (.text "one\r" (.text "" (.element "private" [] .empty
      (.text "\ntwo" (.text "\r\n" .empty)))))
    let whole : Content := .text "\none\r" (.element "private" [] .empty (.text "\ntwo\r\n" .empty))
    let page : List UInt8 := "<pgml><text>one\r\ntwo</text></pgml>".toUTF8.toList
    parse .root (feed cut) r = parse .root (feed whole) r ∧
    (∃ diagram after, parse .root (feed cut) r = (.ok diagram, after) ∧
      ((after.desk.shape? ⟨0⟩).bind Shape.words?, (after.desk.shape? ⟨1⟩).bind Shape.words?) =
        (some "one\r\ntwo", some "") ∧
      Stripped "\none\r\ntwo\r\n" "one\r\ntwo") ∧
    (parse .root (Feed.ofDocument page 1) (r.withBlockSize 1)).1 =
      (parse .root (Feed.ofDocument page 400) (r.withBlockSize 400)).1 := by
  intro r feed cut whole page
  obtain ⟨cuts, texts, sizes⟩ := parse_cut_anywhere r
  refine ⟨cuts _ _ ⟨rfl, by decide, rfl⟩, ?_, ?_⟩
  · have shown : (parse .root (feed cut) r).1.isOk = true ∧
        (((parse .root (feed cut) r).2.desk.shape? ⟨0⟩).bind Shape.words?,
          ((parse .root (feed cut) r).2.desk.shape? ⟨1⟩).bind Shape.words?) =
          (some "one\r\ntwo", some "") := by
      decide +kernel
    obtain ⟨fine, words⟩ := shown
    rcases ran : parse .root (feed cut) r with ⟨_ | diagram, after⟩
    · simp [ran, Except.isOk, Except.toBool] at fine
    rw [ran] at words
    refine ⟨diagram, after, rfl, words, ?_⟩
    obtain ⟨_, _, _, inner, _, word, told⟩ := texts _ _ _ rfl ran
    obtain rfl := document_inj word
    obtain ⟨v, found, content⟩ := Option.bind_eq_some_iff.mp (Prod.mk.inj words).1
    exact (told 0 v _ found content).2 "text" [] cut (.sized .emptyText 100 100) (.here _ _) rfl
  · obtain ⟨result, after, first, second⟩ := sizes page 1 400 (by decide +kernel) (by decide +kernel)
    rw [first, second]

/-- The character data of a rectangle element is not read, not even if a type hint makes the element a text. -/
theorem parse_unread_text :
    let r : Reader := ⟨.plain, ⟨[], false, Desk.fresh .builtin⟩⟩
    let hint : Attributes := [("description", "text")]
    let inner : Content := .element "rectangle" hint (.text "hello" .empty) .empty
    ∃ diagram after v, parse .root (.ofEvents (document [] "pgml" [] inner [])) r = (.ok diagram, after) ∧
      diagram.shapes = [⟨0⟩] ∧ Occurs r.setup "rectangle" hint (.text "hello" .empty) inner 0 0 ∧
      after.desk.shape? ⟨0⟩ = some v ∧ v.words? = some "" ∧ ¬ Stripped "hello" "" := by
  intro r hint inner
  let feed : Feed := .ofEvents (document [] "pgml" [] inner [])
  have shown : (parse .root feed r).1.toOption.map (·.shapes) = some [⟨0⟩] ∧
      ((parse .root feed r).2.desk.shape? ⟨0⟩).bind Shape.words? = some "" := by
    decide +kernel
  obtain ⟨fine, words⟩ := shown
  rcases ran : parse .root feed r with ⟨_ | diagram, after⟩
  · simp [ran, Except.toOption] at fine
  rw [ran] at fine words
  obtain ⟨v, found, content⟩ := Option.bind_eq_some_iff.mp words
  refine ⟨diagram, after, v, rfl, Option.some.inj fine, .here _ _, found, content, ?_⟩
  rintro ⟨⟨front, back, whole, ends⟩, _, _⟩
  have first : 'h' ∈ front ++ back := by
    have all : "hello".toList = front ++ back := by simpa using whole
    rw [← all]
    decide
  exact absurd (ends 'h' (List.mem_append.mp first)) (by decide)

end Reader

end Pgml
