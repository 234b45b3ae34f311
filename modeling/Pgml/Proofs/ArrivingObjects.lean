import Mathlib.Data.List.Induction
import Pgml.Proofs.ShapeFilling

/-! The roster of a document: the objects that its elements make, told from the events alone. An element is
in the room of shapes, or in the content of one that has none, or it is a root; only in a room does it make
objects, by its role. A roster says what has arrived, in order, and what is still open. -/
namespace Pgml

/-- An object that an element makes, and whether it is given the element's attributes. -/
structure Arrival where
  shape : Shape
  attributes : Attributes
  given : Bool
  deriving DecidableEq, Repr

namespace Arrival

def name? (a : Arrival) : Option String := if a.given then a.attributes.value? "name" else none

theorem name?_eq_some_iff {a : Arrival} {name : String} :
    a.name? = some name ↔ a.given = true ∧ a.attributes.value? "name" = some name := by
  unfold name?
  by_cases given : a.given = true <;> simp [given]

end Arrival

/-- Where elements stand: outside of a diagram, in the room of shapes, or where nothing makes a shape. -/
inductive Level where
  | outside
  | room
  | closed
  deriving DecidableEq, Repr

namespace Setup

variable (setup : Setup) (name : String) (as : Attributes)

/-- What an element in a room makes. What a private element's type hint makes is lost. -/
def arrivals : List Arrival :=
  match setup.role name as with
  | .nothing => []
  | .relay lost => lost.toList.map fun s => ⟨s, as, false⟩
  | .shape s _ => [⟨s, as, as.isGiven name⟩]

/-- Where the content of an element in a room stands. -/
def inside : Level :=
  match setup.role name as with
  | .relay _ | .shape _ .group | .shape _ .edge => .room
  | .nothing | .shape _ .closed => .closed

end Setup

/-- Where the content of an element stands, by where the element itself stands. -/
def Level.enter (setup : Setup) (name : String) (as : Attributes) : Level → Level
  | .outside => .room
  | .room => setup.inside name as
  | .closed => .closed

/-- What has arrived, and where the content of the open elements stands, the innermost first, with what is
outside the root last. -/
structure Roster where
  levels : List Level
  arrived : List Arrival
  deriving DecidableEq, Repr

namespace Roster

def start : Roster := ⟨[.outside], []⟩

/-- The roster when an element opens. -/
def enter (setup : Setup) (name : String) (as : Attributes) (r : Roster) : Roster :=
  match r.levels with
  | [] => r
  | level :: _ =>
    ⟨level.enter setup name as :: r.levels,
      if level = .room then r.arrived ++ setup.arrivals name as else r.arrived⟩

def take (setup : Setup) (r : Roster) : Event → Roster
  | .start name as => r.enter setup name as
  | .finish _ => ⟨r.levels.tail, r.arrived⟩
  | .characters _ | .alien => r

/-- The roster of events from the beginning of a document. -/
def ofEvents (setup : Setup) (es : List Event) : Roster := es.foldl (take setup) start

end Roster

/-! ## The roll of a roster -/

namespace Roll

def register (r : Roll) (a : Arrival) : Roll := r.enter a.shape.kind a.name?

def ofArrivals (arrived : List Arrival) : Roll := arrived.foldl register ⟨[], .empty⟩

variable {arrived : List Arrival} {name : String} {id : ItemId}

theorem ofArrivals_append (more : List Arrival) :
    ofArrivals (arrived ++ more) = more.foldl register (ofArrivals arrived) := List.foldl_append

theorem entries_ofArrivals : (ofArrivals arrived).entries = arrived.map fun a => (a.shape.kind, a.name?) := by
  induction arrived using List.reverseRecOn with
  | nil => rfl
  | append_singleton before a ih => simp [ofArrivals_append, register, enter, ih]

theorem length_entries : (ofArrivals arrived).entries.length = arrived.length := by
  simp [entries_ofArrivals]

end Roll

/-- The arrival in some place was given a name. -/
def Called (arrived : List Arrival) (id : ItemId) (name : String) : Prop :=
  ∃ a, arrived[id.index]? = some a ∧ a.given = true ∧ a.attributes.value? "name" = some name

section

variable {before arrived : List Arrival} {a : Arrival} {name : String} {id : ItemId}

theorem Called.bound (called : Called arrived id name) : id.index < arrived.length := by
  obtain ⟨a, there, _⟩ := called
  exact (List.getElem?_eq_some_iff.mp there).1

theorem called_append :
    Called (before ++ [a]) id name ↔
      Called before id name ∨ id.index = before.length ∧ a.name? = some name := by
  simp only [Called, ← Arrival.name?_eq_some_iff]
  rcases Nat.lt_trichotomy id.index before.length with old | newest | beyond
  · simp [List.getElem?_append_left old, Nat.ne_of_lt old]
  · simp [newest]
  · have none : before.length ≤ id.index := Nat.le_of_lt beyond
    have outside : (before ++ [a]).length ≤ id.index := by
      rw [List.length_append]
      exact beyond
    simp [List.getElem?_eq_none none, List.getElem?_eq_none outside, Nat.ne_of_gt beyond]

theorem Roll.get?_append : (ofArrivals (before ++ [a])).names.get? name =
    if a.name? = some name then some ⟨before.length⟩ else (ofArrivals before).names.get? name := by
  rw [ofArrivals_append, List.foldl_cons, List.foldl_nil, register, enter, length_entries]
  cases named : a.name? with
  | none => rfl
  | some other => simp [Table.get?_insert]

/-- What is found under a name was given it. -/
theorem Roll.called_of_get? (found : (ofArrivals arrived).names.get? name = some id) :
    Called arrived id name := by
  induction arrived using List.reverseRecOn with
  | nil => contradiction
  | append_singleton before a ih =>
    rw [get?_append] at found
    rw [called_append]
    split at found
    next named =>
      obtain rfl := Option.some.inj found
      exact .inr ⟨rfl, named⟩
    next => exact .inl (ih found)

/-- Under a name that was given something is found, which came no earlier. -/
theorem Roll.get?_of_called (called : Called arrived id name) :
    ∃ found, (ofArrivals arrived).names.get? name = some found ∧ id.index ≤ found.index := by
  induction arrived using List.reverseRecOn with
  | nil => exact absurd called.bound (Nat.not_lt_zero _)
  | append_singleton before a ih =>
    rw [get?_append]
    by_cases named : a.name? = some name
    · have bound := called.bound
      rw [List.length_append] at bound
      exact ⟨⟨before.length⟩, if_pos named, Nat.lt_succ_iff.mp bound⟩
    · rw [if_neg named]
      rcases called_append.mp called with old | ⟨_, same⟩
      · exact ih old
      · exact absurd same named

end

/-! ## What a role does to a roll -/

section

variable {setup : Setup} {p : Palette} {k : Stock} {c : Container} {name : String} {as : Attributes}

/-- What is finished was given its attributes. -/
theorem given_of_finish {s t : Shape} (finished : s.finish setup p as name = .ok t) :
    as.isGiven name = true := by
  by_cases rectangle : name = "rectangle"
  · subst rectangle
    obtain ⟨rounding, read, _⟩ := except_bind_eq_ok finished
    simp [Attributes.isGiven, read, Except.isOk, Except.toBool]
  · exact Attributes.isGiven_of_ne rectangle

end

end Pgml
