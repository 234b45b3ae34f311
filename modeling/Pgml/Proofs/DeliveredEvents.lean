import Pgml.Markup.Delivery
import Pgml.Proofs.NumberFaults

/-! What the reader of markup delivers. Whatever the bytes are and however they come in blocks, there are
tags and character data and nothing else, and a document that cannot be read is declared to be so. Blocks of a
file need room besides, which is told here by their size. -/
namespace Pgml

/-- A source of events and nothing else, that ends as a document does or because it is malformed. -/
structure Feed.Proper (feed : Feed) : Prop where
  events : ∀ event ∈ feed.events, event ≠ .alien
  malformed : ∀ e, feed.ending = some e → ∃ cause, e = .malformed cause

theorem Feed.Proper.ending {feed : Feed} (proper : feed.Proper) (e : Fault) (ended : feed.ending = some e) :
    e.isDeclared = true := by
  obtain ⟨_, rfl⟩ := proper.malformed e ended
  rfl

namespace Markup

/-- Events that are events. -/
def Own (es : List Event) : Prop := ∀ event ∈ es, event ≠ .alien

theorem own_nil : Own [] := by simp [Own]

theorem own_single {event : Event} (own : event ≠ .alien) : Own [event] := by simpa [Own] using own

theorem Own.append {es fs : List Event} (first : Own es) (second : Own fs) : Own (es ++ fs) := by
  intro event member
  rcases List.mem_append.mp member with member | member
  · exact first event member
  · exact second event member

/-- An outcome that has no events but such, if there is any. -/
def Delivers {σ : Type} (outcome : Option (σ × List Event)) : Prop :=
  ∀ s es, outcome = some (s, es) → Own es

namespace Delivers

variable {σ α : Type} {s : σ} {es : List Event} {a : Option α}

theorem none : Delivers (none : Option (σ × List Event)) := by
  rintro s es ⟨⟩

theorem some (own : Own es) : Delivers (some (s, es)) := by
  rintro t fs ⟨⟩
  exact own

theorem map {f : α → σ × List Event} (own : ∀ x, Own (f x).2) : Delivers (a.map f) := by
  intro s es made
  obtain ⟨x, _, same⟩ := Option.map_eq_some_iff.mp made
  obtain rfl : (f x).2 = es := congrArg Prod.snd same
  exact own x

theorem bind {f : α → Option (σ × List Event)} (next : ∀ x, Delivers (f x)) : Delivers (a >>= f) := by
  intro s es made
  obtain ⟨x, _, same⟩ := Option.bind_eq_some_iff.mp made
  exact next x s es same

theorem ite {c : Prop} [Decidable c] {u v : Option (σ × List Event)} (yes : Delivers u) (no : Delivers v) :
    Delivers (if c then u else v) := by
  split
  · exact yes
  · exact no

end Delivers

theorem start_own (around : List Open) (tag : Tag) : Own (start around tag).2 := by
  unfold start
  dsimp only
  split <;> simp [Own]

namespace Progress

theorem characters_own (cs : List Char) : Own [characters cs] := own_single (by simp [characters])

theorem step_delivers (p : Progress) (piece : Piece) : Delivers (p.step piece) := by
  unfold step
  dsimp only
  split
  · exact .some own_nil
  · exact .ite (.some own_nil) .none
  · exact .ite (.some own_nil) .none
  · exact .map fun _ => own_nil
  · exact .map fun tag => start_own _ tag
  · exact .map fun tag => start_own _ tag
  · exact .ite (.some (own_single (by simp))) .none
  · exact .some (characters_own _)
  · refine .map fun cs => ?_
    split
    · exact own_nil
    · exact characters_own cs
  · exact .ite (.some (characters_own _)) .none
  · exact .none

theorem run_eq (p : Progress) (searched : Nat) (ahead : List UInt8) :
    p.run searched ahead =
      match p.stage.cut searched ahead with
      | .junk => none
      | .wait searched => some ⟨p, ahead, searched, []⟩
      | .piece piece rest =>
        (p.step piece).bind fun (next, events) =>
          (next.run 0 rest).map fun r => { r with events := events ++ r.events } := by
  rw [run]
  split
  next junk => rw [junk]
  next wait => rw [wait]
  next piece rest cut =>
    rw [cut]
    dsimp only
    cases p.step piece <;> rfl

theorem run_own (p : Progress) (searched : Nat) (ahead : List UInt8) :
    ∀ reached, p.run searched ahead = some reached → Own reached.events := by
  induction p, searched, ahead using run.induct with
  | case1 p searched ahead junk =>
    intro reached ran
    rw [run_eq, junk] at ran
    contradiction
  | case2 p searched ahead more wait =>
    intro reached ran
    rw [run_eq, wait] at ran
    obtain rfl := Option.some.inj ran
    exact own_nil
  | case3 p searched ahead piece rest cut refused =>
    intro reached ran
    rw [run_eq, cut] at ran
    simp [refused] at ran
  | case4 p searched ahead piece rest cut next events stepped ih =>
    intro reached ran
    rw [run_eq, cut] at ran
    simp only [stepped, Option.bind_some] at ran
    obtain ⟨later, read, rfl⟩ := Option.map_eq_some_iff.mp ran
    exact (step_delivers p piece next events stepped).append (ih later read)

end Progress

namespace Intake

theorem readBody_delivers (s : Intake) (p : Progress) : Delivers (s.readBody p) := by
  intro next es read
  obtain ⟨reached, ran, same⟩ := Option.map_eq_some_iff.mp read
  obtain rfl : reached.events = es := congrArg Prod.snd same
  exact p.run_own s.searched s.ahead reached ran

theorem readDeclaration_delivers (s : Intake) (known : Bool) : Delivers (s.readDeclaration known) := by
  have awaits : Delivers (s.awaitDeclaration known) := .some own_nil
  unfold readDeclaration
  split
  · exact awaits
  · exact awaits
  · split
    · exact awaits
    · split
      · exact s.readBody_delivers _
      · exact .bind fun text => .bind fun d => .bind fun next => next.readBody_delivers _
  · exact s.readBody_delivers _

theorem readHead_delivers (s : Intake) : Delivers s.readHead := by
  unfold readHead
  split
  · exact .bind fun next => next.readDeclaration_delivers true
  · exact s.readDeclaration_delivers false

theorem read_delivers (s : Intake) (isLast : Bool) : Delivers (s.read isLast) := by
  unfold read
  split
  · exact .ite (.some own_nil) s.readHead_delivers
  · exact s.readDeclaration_delivers _
  · exact s.readBody_delivers _

theorem turn_delivers (s : Intake) (block : List UInt8) : Delivers (s.turn block) := by
  refine .ite (.bind fun next => ?_) (.bind fun next => next.read_delivers false)
  intro last es made
  obtain ⟨⟨after, events⟩, read, rest⟩ := Option.bind_eq_some_iff.mp made
  obtain ⟨final, _, same⟩ := Option.bind_eq_some_iff.mp rest
  obtain rfl : events = es := congrArg Prod.snd (Option.some.inj same)
  exact next.read_delivers false after events read

theorem begin_delivers (block : List UInt8) : Delivers (begin block) :=
  .bind fun next => .ite (.some own_nil) (next.turn_delivers _)

theorem finish_own {s : Intake} {es : List Event} (finished : s.finish = some es) : Own es := by
  obtain ⟨⟨last, events⟩, read, rest⟩ := Option.bind_eq_some_iff.mp finished
  dsimp only at rest
  split at rest
  · obtain rfl := Option.some.inj rest
    exact s.read_delivers true last events read
  · contradiction

end Intake

theorem unreadable_proper : unreadable.Proper where
  events := own_nil
  malformed := by
    rintro e ⟨⟩
    exact ⟨_, rfl⟩

theorem complete_proper {es : List Event} (own : Own es) : (complete es).Proper where
  events := own
  malformed := by
    rintro e ⟨⟩

/-- Turn after turn the events of a document are delivered, up to its end or to a fault in it. -/
theorem deliver_proper {outcome : Option (Intake × List Event)} (delivers : Delivers outcome)
    (rest : List (List UInt8)) : (deliver outcome rest).Proper := by
  induction rest generalizing outcome with
  | nil =>
    unfold deliver
    cases outcome with
    | none => exact unreadable_proper
    | some result =>
      obtain ⟨s, events⟩ := result
      have later : ((s.finish.map complete).getD unreadable).Proper := by
        cases finished : s.finish with
        | none => exact unreadable_proper
        | some es => exact complete_proper (Intake.finish_own finished)
      exact ⟨(delivers s events rfl).append later.events, later.malformed⟩
  | cons block rest ih =>
    unfold deliver
    cases outcome with
    | none => exact unreadable_proper
    | some result =>
      obtain ⟨s, events⟩ := result
      have later := ih (s.turn_delivers block)
      exact ⟨(delivers s events rfl).append later.events, later.malformed⟩

theorem deliver_opening (outcome : Option (Intake × List Event)) (rest : List (List UInt8)) :
    (deliver outcome rest).opening = [] := by
  induction rest generalizing outcome with
  | nil =>
    unfold deliver
    cases outcome with
    | none => rfl
    | some result => cases finished : result.1.finish <;> simp [finished, complete, unreadable]
  | cons block rest ih =>
    unfold deliver
    cases outcome with
    | none => rfl
    | some result => exact ih _

theorem feedOf_proper (blocks : List (List UInt8)) : (feedOf blocks).Proper := by
  cases blocks with
  | nil =>
    refine ⟨own_nil, ?_⟩
    rintro e ⟨⟩
    exact ⟨_, rfl⟩
  | cons block rest => exact deliver_proper (Intake.begin_delivers block) rest

end Markup

/-- All that a document's bytes bring are events, and its faults are declared. -/
theorem Feed.proper_ofDocument (bytes : List UInt8) {size : Int} (fits : isBlockSize size = true) :
    (ofDocument bytes size).Proper := by
  unfold ofDocument
  rw [if_neg (by simp [fits])]
  exact Markup.feedOf_proper _

theorem Feed.isBlockSize_iff {size : Int} :
    isBlockSize size = true ↔ -9223372036854775808 ≤ size ∧ size ≤ 9223372036854775807 := by
  have least : Int64.minValue.toInt = -9223372036854775808 := rfl
  have greatest : Int64.maxValue.toInt = 9223372036854775807 := rfl
  simp [isBlockSize, least, greatest]

theorem Feed.maxBlockSize_eq : maxBlockSize = 9223372036854775774 := rfl

/-- A file can be read in blocks that can be counted, and that there is memory for. -/
theorem Feed.blockFault?_eq_none_iff {memory : Nat} {size : Int} :
    blockFault? memory size = none ↔ -1 ≤ size ∧ size ≤ maxBlockSize ∧ size ≤ memory := by
  have counted := @isBlockSize_iff size
  have most := maxBlockSize_eq
  unfold blockFault?
  grind

theorem Feed.blockFault?_cases {memory : Nat} {size : Int} {e : Fault} (fault : blockFault? memory size = some e) :
    e = .badBlockSize size ∨ e = .negativeBlockSize size ∨ e = .noMemory size := by
  unfold blockFault? at fault
  grind

/-- Blocks that a file can be read in, all bytes can be read in. -/
theorem Feed.isBlockSize_of_blockFault? {memory : Nat} {size : Int} (fine : blockFault? memory size = none) :
    isBlockSize size = true := by
  obtain ⟨atLeast, atMost, -⟩ := blockFault?_eq_none_iff.mp fine
  rw [maxBlockSize_eq] at atMost
  exact isBlockSize_iff.mpr ⟨by omega, by omega⟩

/-- Nothing is reported when a document is opened that is no file. -/
theorem Feed.opening_ofDocument (bytes : List UInt8) (size : Int) : (ofDocument bytes size).opening = [] := by
  unfold ofDocument Markup.feedOf
  split
  · rfl
  · split
    · rfl
    · exact Markup.deliver_opening _ _

end Pgml
