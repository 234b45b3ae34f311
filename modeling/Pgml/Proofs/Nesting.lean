import Pgml.Machine

/-! Mixed content, the event words it is written as, and the words in which some elements are
still open. `follow` reads a word by a stack of names alone; `follow_eq_ok_iff` says that it
accepts exactly the beginnings of correctly nested words, and leaves the open elements. -/
namespace Pgml

/-- What stands between two tags: character data and elements, in order. -/
inductive Content where
  | empty
  | text (data : String) (rest : Content)
  | element (name : String) (attributes : Attributes) (inner rest : Content)
  deriving DecidableEq, Repr

/-- The events of content, every element between its start and its end. -/
def Content.events : Content → List Event
  | empty => []
  | text data rest => .characters data :: rest.events
  | element name as inner rest => .start name as :: (inner.events ++ .finish name :: rest.events)

/-- The character data directly in content, none of it inside an element. -/
def Content.ownText : Content → List String
  | empty => []
  | text data rest => data :: rest.ownText
  | element _ _ _ rest => rest.ownText

/-- Content is told by its events, wherever the element around it ends. -/
theorem Content.events_cancel {c d : Content} {name other : String} {rest more : List Event}
    (same : c.events ++ .finish name :: rest = d.events ++ .finish other :: more) :
    c = d ∧ name = other ∧ rest = more := by
  induction c generalizing d name other rest more with
  | empty =>
    cases d with
    | empty => simpa [events] using same
    | text | element => simp [events] at same
  | text data after ih =>
    cases d with
    | text data' after' =>
      obtain ⟨rfl, others⟩ : data = data' ∧ _ := by simpa [events] using same
      obtain ⟨rfl, last⟩ := ih others
      exact ⟨rfl, last⟩
    | empty | element => simp [events] at same
  | element nested as inner after inside ih =>
    cases d with
    | element nested' as' inner' after' =>
      obtain ⟨⟨rfl, rfl⟩, others⟩ : (nested = nested' ∧ as = as') ∧ _ := by simpa [events] using same
      obtain ⟨rfl, _, others⟩ := inside others
      obtain ⟨rfl, last⟩ := ih others
      exact ⟨rfl, last⟩
    | empty | text => simp [events] at same

namespace Event

def isStart : Event → Bool
  | start .. => true
  | _ => false

def isFinish : Event → Bool
  | finish _ => true
  | _ => false

end Event

namespace Nesting

/-- Words of correctly nested elements whose tags agree in their names. -/
inductive Balanced : List Event → Prop where
  | nil : Balanced []
  | characters {rest : List Event} (text : String) :
      Balanced rest → Balanced (.characters text :: rest)
  | element {inner rest : List Event} (name : String) (as : Attributes) :
      Balanced inner → Balanced rest → Balanced (.start name as :: (inner ++ .finish name :: rest))

/-- Words after which some elements are open, the innermost named first. -/
inductive Opens : List Event → List String → Prop where
  | balanced {es : List Event} : Balanced es → Opens es []
  | inside {es inner : List Event} {names : List String} (name : String) (as : Attributes) :
      Opens es names → Balanced inner → Opens (es ++ .start name as :: inner) (name :: names)

theorem Balanced.append {es fs : List Event} (first : Balanced es) (second : Balanced fs) :
    Balanced (es ++ fs) := by
  induction first with
  | nil => exact second
  | characters text _ ih => exact .characters text ih
  | element name as inner _ _ ih =>
    simpa only [List.cons_append, List.append_assoc] using Balanced.element name as inner ih

theorem balanced_events (c : Content) : Balanced c.events := by
  induction c with
  | empty => exact .nil
  | text data _ ih => exact .characters data ih
  | element name as _ _ inside ih => exact .element name as inside ih

/-- Balanced words are the events of content, and of nothing else. -/
theorem balanced_iff (es : List Event) : Balanced es ↔ ∃ c : Content, es = c.events := by
  constructor
  · intro word
    induction word with
    | nil => exact ⟨.empty, rfl⟩
    | characters text _ ih =>
      obtain ⟨rest, rfl⟩ := ih
      exact ⟨.text text rest, rfl⟩
    | element name as _ _ inside ih =>
      obtain ⟨inner, rfl⟩ := inside
      obtain ⟨rest, rfl⟩ := ih
      exact ⟨.element name as inner rest, rfl⟩
  · rintro ⟨c, rfl⟩
    exact balanced_events c

theorem Opens.append {es fs : List Event} {names : List String} (word : Opens es names)
    (more : Balanced fs) : Opens (es ++ fs) names := by
  cases word with
  | balanced first => exact .balanced (first.append more)
  | inside name as outer inner =>
    simpa only [List.append_assoc, List.cons_append] using outer.inside name as (inner.append more)

/-- The end of the innermost open element closes it. -/
theorem Opens.close {es : List Event} {name : String} {names : List String}
    (word : Opens es (name :: names)) : Opens (es ++ [.finish name]) names := by
  cases word with
  | inside _ as outer inner =>
    simpa only [List.append_assoc, List.cons_append] using outer.append (.element name as inner .nil)

theorem opens_nil_iff (es : List Event) : Opens es [] ↔ Balanced es := by
  constructor
  · rintro ⟨word⟩
    exact word
  · exact .balanced

/-! ## A stack of names -/

def step : List String → Event → Except Malformed (List String)
  | names, .start name _ => .ok (name :: names)
  | [], .finish name => .error (.unexpectedEnd name)
  | opened :: names, .finish name =>
    if opened = name then .ok names else .error (.crossed (some opened) name)
  | names, _ => .ok names

def follow (names : List String) : List Event → Except Malformed (List String)
  | [] => .ok names
  | e :: es =>
    match step names e with
    | .ok more => follow more es
    | .error cause => .error cause

theorem follow_append (names : List String) (es fs : List Event) :
    follow names (es ++ fs) =
      match follow names es with
      | .ok more => follow more fs
      | .error cause => .error cause := by
  induction es generalizing names with
  | nil => rfl
  | cons e es ih =>
    simp only [List.cons_append, follow]
    cases step names e with
    | ok more => exact ih more
    | error cause => rfl

theorem follow_balanced {es : List Event} (word : Balanced es) (names : List String) :
    follow names es = .ok names := by
  induction word generalizing names with
  | nil => rfl
  | characters text _ ih => exact ih names
  | element name as _ _ inside ih =>
    simp only [follow, step, follow_append, inside]
    simpa using ih names

theorem follow_opens {es : List Event} {names : List String} (word : Opens es names) :
    follow [] es = .ok names := by
  induction word with
  | balanced word => exact follow_balanced word []
  | inside name as _ inner ih => simp [follow_append, ih, follow, step, follow_balanced inner]

theorem opens_step {es : List Event} {e : Event} {names more : List String}
    (word : Opens es names) (event : e ≠ .alien) (taken : step names e = .ok more) :
    Opens (es ++ [e]) more := by
  cases e with
  | start name as =>
    obtain rfl : name :: names = more := Except.ok.inj taken
    exact word.inside name as .nil
  | characters text =>
    obtain rfl : names = more := by cases names <;> exact Except.ok.inj taken
    exact word.append (.characters text .nil)
  | finish name =>
    cases names with
    | nil => simp [step] at taken
    | cons opened names =>
      simp only [step] at taken
      split at taken
      next same =>
        obtain rfl : names = more := Except.ok.inj taken
        exact same ▸ word.close
      next => contradiction
  | alien => contradiction

theorem opens_follow {es fs : List Event} {names more : List String} (word : Opens es names)
    (events : ∀ e ∈ fs, e ≠ .alien) (taken : follow names fs = .ok more) :
    Opens (es ++ fs) more := by
  induction fs generalizing es names with
  | nil =>
    obtain rfl : names = more := Except.ok.inj taken
    simpa using word
  | cons e fs ih =>
    simp only [follow] at taken
    cases next : step names e with
    | error cause => simp [next] at taken
    | ok middle =>
      simp only [next] at taken
      have first := opens_step word (events e (by simp)) next
      simpa using ih first (fun e member => events e (by simp [member])) taken

/-- The stack of names accepts a word of events exactly if some elements, those that it is
left with, are open after it. -/
theorem follow_eq_ok_iff {es : List Event} (events : ∀ e ∈ es, e ≠ .alien) (names : List String) :
    follow [] es = .ok names ↔ Opens es names := by
  constructor
  · intro taken
    simpa using opens_follow (.balanced .nil) events taken
  · exact follow_opens

theorem exists_stop {es before : List Event} {names : List String} {cause : Malformed}
    (word : Opens before names) (events : ∀ e ∈ es, e ≠ .alien)
    (refused : follow names es = .error cause) :
    ∃ middle opened name after, es = middle ++ .finish name :: after ∧
      Opens (before ++ middle) opened ∧ step opened (.finish name) = .error cause := by
  -- `before` is what the stack has taken so far, so it grows from event to event.
  induction es generalizing before names with
  | nil => simp [follow] at refused
  | cons e es ih =>
    simp only [follow] at refused
    cases next : step names e with
    | error found =>
      obtain rfl : found = cause := by simpa [next] using refused
      cases e with
      | finish name => exact ⟨[], names, name, es, rfl, by simpa using word, next⟩
      | start | characters | alien => cases names <;> simp [step] at next
    | ok more =>
      simp only [next] at refused
      have first := opens_step word (events e (by simp)) next
      have others : ∀ other ∈ es, other ≠ .alien := fun other member => events other (by simp [member])
      obtain ⟨middle, opened, name, after, rfl, taken, found⟩ := ih first others refused
      exact ⟨e :: middle, opened, name, after, rfl, by simpa using taken, found⟩

/-- A word is refused at its first end that closes nothing or closes another element. -/
theorem follow_eq_error_iff {es : List Event} (events : ∀ e ∈ es, e ≠ .alien) (cause : Malformed) :
    follow [] es = .error cause ↔
      ∃ before names name after, es = before ++ .finish name :: after ∧ Opens before names ∧
        step names (.finish name) = .error cause := by
  constructor
  · intro refused
    exact exists_stop (.balanced .nil) events refused
  · rintro ⟨before, names, name, after, rfl, word, refused⟩
    simp [follow_append, follow_opens word, follow, refused]

/-! ## How many elements are open -/

theorem length_of_step {names more : List String} {e : Event} (taken : step names e = .ok more) :
    more.length + [e].countP Event.isFinish = names.length + [e].countP Event.isStart := by
  cases e with
  | start name as =>
    obtain rfl := Except.ok.inj taken
    simp [Event.isStart, Event.isFinish]
  | finish name =>
    cases names with
    | nil => simp [step] at taken
    | cons opened names =>
      simp only [step] at taken
      split at taken
      · obtain rfl := Except.ok.inj taken
        simp [Event.isStart, Event.isFinish]
      · contradiction
  | characters | alien =>
    obtain rfl : names = more := by cases names <;> exact Except.ok.inj taken
    simp [Event.isStart, Event.isFinish]

theorem length_of_follow {names more : List String} {es : List Event}
    (taken : follow names es = .ok more) :
    more.length + es.countP Event.isFinish = names.length + es.countP Event.isStart := by
  induction es generalizing names with
  | nil =>
    obtain rfl := Except.ok.inj taken
    simp
  | cons e es ih =>
    simp only [follow] at taken
    cases next : step names e with
    | error cause => simp [next] at taken
    | ok middle =>
      simp only [next] at taken
      have first := length_of_step next
      have rest := ih taken
      rw [← List.singleton_append, List.countP_append, List.countP_append]
      omega

theorem count_of_opens {es : List Event} {names : List String} (word : Opens es names) :
    (names.length : Int) = es.countP Event.isStart - es.countP Event.isFinish := by
  have lengths := length_of_follow (follow_opens word)
  simp only [List.length_nil] at lengths
  omega

/-! ## What is wrong with a word -/

/-- What is wrong with a word of events: an end where nothing is open, an end of another element
than the innermost open one, or elements that are open at the end of the word. -/
inductive Flaw (es : List Event) : Malformed → Prop where
  | unexpectedEnd {before after : List Event} {name : String} :
      es = before ++ .finish name :: after → Balanced before → Flaw es (.unexpectedEnd name)
  | crossed {before after : List Event} {opened closed : String} {names : List String} :
      es = before ++ .finish closed :: after → Opens before (opened :: names) → opened ≠ closed →
      Flaw es (.crossed (some opened) closed)
  | openElements {name : String} {names : List String} : Opens es (name :: names) →
      Flaw es (.openElements (es.countP Event.isStart - es.countP Event.isFinish))

/-- A word is refused by the stack of names, or is taken and leaves some open, if it has a flaw. -/
theorem flaw_iff {es : List Event} (events : ∀ e ∈ es, e ≠ .alien) (cause : Malformed) :
    Flaw es cause ↔ follow [] es = .error cause ∨
      ∃ name names, follow [] es = .ok (name :: names) ∧ cause = .openElements (names.length + 1) := by
  constructor
  · intro flaw
    cases flaw with
    | unexpectedEnd word before =>
      exact .inl ((follow_eq_error_iff events _).mpr ⟨_, [], _, _, word, .balanced before, rfl⟩)
    | crossed word before other =>
      exact .inl ((follow_eq_error_iff events _).mpr ⟨_, _, _, _, word, before, by simp [step, other]⟩)
    | @openElements name names word =>
      refine .inr ⟨name, names, follow_opens word, ?_⟩
      rw [← count_of_opens word]
      rfl
  · rintro (refused | ⟨name, names, taken, rfl⟩)
    · obtain ⟨before, names, name, after, word, opened, found⟩ :=
        (follow_eq_error_iff events cause).mp refused
      cases names with
      | nil =>
        obtain rfl := Except.error.inj found
        exact .unexpectedEnd word ((opens_nil_iff before).mp opened)
      | cons inner names =>
        simp only [step] at found
        split at found
        · contradiction
        next other =>
          obtain rfl := Except.error.inj found
          exact .crossed word opened other
    · have word := (follow_eq_ok_iff events _).mp taken
      have count : (names.length + 1 : Int) = _ := count_of_opens word
      rw [count]
      exact .openElements word

theorem exists_flaw_iff {es : List Event} (events : ∀ e ∈ es, e ≠ .alien) :
    (∃ cause, Flaw es cause) ↔ ¬ Balanced es := by
  constructor
  · rintro ⟨cause, flaw⟩ word
    have taken := follow_balanced word []
    rcases (flaw_iff events cause).mp flaw with refused | ⟨name, names, left, _⟩
    · simp [taken] at refused
    · simp [taken] at left
  · intro unbalanced
    cases taken : follow [] es with
    | error cause => exact ⟨cause, (flaw_iff events cause).mpr (.inl taken)⟩
    | ok names =>
      cases names with
      | nil =>
        exact absurd ((opens_nil_iff es).mp ((follow_eq_ok_iff events []).mp taken)) unbalanced
      | cons name names => exact ⟨_, (flaw_iff events _).mpr (.inr ⟨name, names, taken, rfl⟩)⟩

end Nesting

end Pgml
