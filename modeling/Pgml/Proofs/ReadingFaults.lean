import Pgml.Proofs.ReadingCourse
import Pgml.Proofs.DeliveredEvents

/-! Which faults leave the reading of a document: the declared ones and those of numerals with too many digits;
there is a document for one of these. -/
namespace Pgml

open Desk Vocabulary Machine

/-! ## What a shape is refused for -/

namespace Shape

variable {setup : Setup} {p : Palette} {as : Attributes} {s t : Shape} {name hint : String} {e : Fault}

theorem styled_misread {defaults : ColorDefaults} (failed : s.styled p as defaults = .error e) :
    as.Misread hint e := by
  have twins : Work.Twins (Styling.Agree p []) (as.Misread hint) Work.Any (Styling.setCommon defaults as)
      (Styling.setCommon defaults as) :=
    Styling.setCommon_twins (fun _ _ => Attributes.int?_misread) (Styling.agree_stable p []) defaults
  let styling : Styling := ⟨s, .ofPalette p, []⟩
  have same : Styling.Agree p [] styling styling :=
    ⟨rfl, Resolver.honest_ofPalette p, Resolver.honest_ofPalette p, rfl⟩
  refine twins.blamed styling styling e same ?_
  unfold styled at failed
  rcases ran : Styling.setCommon defaults as styling with ⟨_ | _, _⟩ <;> simp_all [styling]

/-- Nothing is wrong with an owner but that there is none. -/
theorem owned_eq_error : s.owned setup as = .error e ↔
    ∃ href, as.value? "href" = some href ∧ setup.owner? href = none ∧ e = .noOwner href := by
  unfold owned
  cases as.value? "href" with
  | none => simp
  | some href =>
    cases owner : setup.owner? href with
    | none => simp [owner, eq_comm]
    | some value => simp [owner]

theorem attributed_cases (failed : s.attributed setup p as = .error e) :
    as.Misread hint e ∨ ∃ t : Shape, t.owned setup as = .error e := by
  rcases except_bind_eq_error failed with styled | ⟨t, _, owned⟩
  · exact .inl (styled_misread styled)
  · exact .inr ⟨t, owned⟩

/-- A shape that cannot be finished has a number that cannot be read, or it cannot be given its attributes. -/
theorem finish_cases (failed : s.finish setup p as name = .error e) :
    as.Misread setup.config.hintAttribute e ∨
      as.isGiven name = true ∧ ∃ t : Shape, t.attributed setup p as = .error e := by
  have plain (other : name ≠ "rectangle") (failed : s.attributed setup p as = .error e) :
      as.Misread setup.config.hintAttribute e ∨
        as.isGiven name = true ∧ ∃ t : Shape, t.attributed setup p as = .error e :=
    .inr ⟨Attributes.isGiven_of_ne other, s, failed⟩
  unfold finish at failed
  split at failed
  · split at failed
    · rcases except_bind_eq_error failed with failed | ⟨t, _, failed⟩
      · exact plain (by decide) failed
      · split at failed
        · contradiction
        · rcases except_bind_eq_error failed with failed | ⟨_, _, failed⟩
          · exact .inl (hintBounds_misread (fun _ => Setup.mem_geometry) failed)
          · contradiction
    · exact plain (by decide) failed
  · split at failed
    · rcases except_bind_eq_error failed with failed | ⟨t, _, failed⟩
      · exact plain (by decide) failed
      · rcases except_bind_eq_error failed with failed | ⟨_, _, failed⟩
        · exact .inl (Attributes.int?_misread failed)
        · contradiction
    · exact plain (by decide) failed
  · rcases except_bind_eq_error failed with failed | ⟨rounding, read, failed⟩
    · exact .inl (Attributes.int_misread failed)
    · exact .inr ⟨by simp [Attributes.isGiven, read, Except.isOk, Except.toBool], _, failed⟩
  · split at failed
    · rcases except_bind_eq_error failed with failed | ⟨t, _, failed⟩
      · exact plain (by decide) failed
      · rcases except_bind_eq_error failed with failed | ⟨_, _, failed⟩
        · exact .inl (Attributes.int_misread failed)
        · rcases except_bind_eq_error failed with failed | ⟨_, _, failed⟩
          · exact .inl (Attributes.int_misread failed)
          · contradiction
    · exact plain (by decide) failed
  next rectangle _ => exact plain rectangle failed

theorem finish_blames (failed : s.finish setup p as name = .error e) :
    as.Blames setup.config.hintAttribute e := by
  rcases finish_cases failed with misread | ⟨_, t, failed⟩
  · exact misread.blames
  · rcases attributed_cases failed with misread | ⟨t, owned⟩
    · exact misread.blames
    · obtain ⟨_, _, _, rfl⟩ := owned_eq_error.mp owned
      exact .inl rfl

theorem mark_misread (failed : s.mark name as = .error e) : as.Misread hint e := by
  have pointed {f : Int × Int → Except Fault Shape} (never : ∀ xy, ∃ t, f xy = .ok t)
      (failed : (point name as >>= f) = .error e) : as.Misread hint e := by
    rcases except_bind_eq_error failed with failed | ⟨xy, _, failed⟩
    · exact point_misread failed
    · obtain ⟨t, same⟩ := never xy
      simp [same] at failed
  unfold mark at failed
  split at failed
  · split at failed
    · exact pointed (fun _ => ⟨_, rfl⟩) failed
    · exact pointed (fun _ => ⟨_, rfl⟩) failed
    · contradiction
  · split at failed
    · exact pointed (fun _ => ⟨_, rfl⟩) failed
    · contradiction
  · contradiction

end Shape

/-! ## Events -/

/-- The faults that events may cause: the declared ones and, where a start tag has a numeral with too many
digits, the one of such numerals. -/
def Event.Blames (hint : String) (es : List Event) (e : Fault) : Prop :=
  e.isDeclared = true ∨ e = .numeralTooLong ∧
    ∃ name as, .start name as ∈ es ∧ ∃ value ∈ as.numerals hint, Attributes.Overlong value

section

variable {setup : Setup} {p : Palette} {k : Stock} {x : Course} {hint name : String} {as : Attributes}
  {e : Fault}

theorem Event.Blames.mono {es fs : List Event} (more : ∀ event ∈ es, event ∈ fs)
    (blames : Event.Blames hint es e) : Event.Blames hint fs e := by
  rcases blames with declared | ⟨same, name, as, member, long⟩
  · exact .inl declared
  · exact .inr ⟨same, name, as, more _ member, long⟩

theorem Event.blames_start (blames : as.Blames hint e) : Event.Blames hint [.start name as] e := by
  rcases blames with declared | ⟨same, long⟩
  · exact .inl declared
  · exact .inr ⟨same, name, as, by simp, long⟩

theorem Stock.take_blames {c : Container} (failed : k.take setup p c name as = .error e) :
    as.Blames setup.config.hintAttribute e := by
  unfold take at failed
  split at failed
  · split at failed
    · rcases except_bind_eq_error failed with failed | ⟨_, _, failed⟩
      · exact (Attributes.int_misread failed).blames
      · contradiction
    · contradiction
  · contradiction
  · rcases except_bind_eq_error failed with failed | ⟨_, _, failed⟩
    · exact Shape.finish_blames failed
    · contradiction

/-- A start tag is to blame for what goes wrong with it. -/
theorem Stock.enter_blames {h : Handler} (failed : k.enter setup p h name as = .error e) :
    as.Blames setup.config.hintAttribute e := by
  unfold enter at failed
  split at failed
  · rcases except_bind_eq_error failed with failed | ⟨_, _, failed⟩
    · rcases rooted_eq_error failed with ⟨_, rfl⟩ | rfl <;> exact .inl rfl
    · contradiction
  · exact take_blames failed
  · exact take_blames failed
  · exact take_blames failed
  · exact take_blames failed
  · split at failed
    · rcases except_bind_eq_error failed with failed | ⟨_, _, failed⟩
      · exact (Shape.mark_misread failed).blames
      · contradiction
    · contradiction
  · split at failed
    · rcases except_bind_eq_error failed with failed | ⟨_, _, failed⟩
      · exact (Shape.mark_misread failed).blames
      · contradiction
    · contradiction
  · contradiction

namespace Course

theorem step_blames {event : Event} (own : event ≠ .alien) (failed : x.step setup p event = .error e) :
    Event.Blames setup.config.hintAttribute [event] e := by
  cases event with
  | start name as =>
    unfold step at failed
    dsimp only at failed
    split at failed
    · obtain rfl := Except.error.inj failed
      exact .inl rfl
    · rcases except_bind_eq_error failed with failed | ⟨_, _, failed⟩
      · exact Event.blames_start (Stock.enter_blames failed)
      · contradiction
  | characters text =>
    unfold step at failed
    dsimp only at failed
    split at failed <;> contradiction
  | finish name =>
    unfold step at failed
    dsimp only at failed
    split at failed
    · obtain rfl := Except.error.inj failed
      exact .inl rfl
    · obtain rfl := Except.error.inj failed
      exact .inl rfl
    · split at failed
      · contradiction
      · obtain rfl := Except.error.inj failed
        exact .inl rfl
  | alien => contradiction

theorem run_blames {es : List Event} (own : ∀ event ∈ es, event ≠ .alien)
    (failed : x.run setup p es = .error e) : Event.Blames setup.config.hintAttribute es e := by
  induction es generalizing x with
  | nil => contradiction
  | cons event rest ih =>
    rcases except_bind_eq_error failed with failed | ⟨y, _, failed⟩
    · exact (step_blames (own event (by simp)) failed).mono (by simp)
    · have blames := ih (fun other member => own other (by simp [member])) failed
      exact blames.mono fun _ => List.mem_cons_of_mem _

/-- A document that cannot be closed has open elements or no diagram. -/
theorem finish_eq_error {ending : Option Fault} (failed : x.finish ending = .error e) :
    (∃ cause, e = .malformed cause) ∨ (∃ cause, e = .misuse cause) ∨ ending = some e := by
  cases ending with
  | some fault => exact .inr (.inr (congrArg some (Except.error.inj failed)))
  | none =>
    simp only [finish, close] at failed
    split at failed
    · split at failed
      · exact .inr (.inl ⟨_, (Except.error.inj failed).symm⟩)
      · contradiction
    · exact .inl ⟨_, (Except.error.inj failed).symm⟩

end Course

end

/-! ## Documents -/

/-- What a reader can be given: events, or a document in blocks. -/
inductive Feed.Given : Feed → Prop where
  | events (es : List Event) : (∀ event ∈ es, event ≠ .alien) → Given (.ofEvents es)
  | document (bytes : List UInt8) (size : Int) : Given (.ofDocument bytes size)

namespace Reader

variable {r after : Reader} {feed : Feed} {e : Fault}

/-- A reader of built-in types fails through one of the events or as their source does. -/
theorem blames_of_parse (types : r.setup.types = .builtin) (own : ∀ event ∈ feed.events, event ≠ .alien)
    (failed : parse .root feed r = (.error e, after)) :
    Event.Blames r.setup.config.hintAttribute feed.events e ∨ feed.ending = some e := by
  cases idle : r.machine.reading with
  | true =>
    -- A reader in use refuses, which is declared.
    have ran := machine_of_parse failed
    obtain ⟨rfl, _⟩ : .misuse .alreadyReading = e ∧ _ := by simpa [Behaviour.parse, idle] using ran
    exact .inl (.inl rfl)
  | false =>
    rcases parse_follows types idle failed with ⟨fault, same, stopped⟩ | ⟨y, _, finished, _⟩
    · obtain rfl := Except.error.inj same
      exact .inl (Course.run_blames own stopped)
    · rcases Course.finish_eq_error finished.symm with ⟨_, rfl⟩ | ⟨_, rfl⟩ | ended
      · exact .inl (.inl rfl)
      · exact .inl (.inl rfl)
      · exact .inr ended

/-- A document of built-in types that is not read is not well formed, names an owner that there is not,
or finds its reader in use or without a diagram. Nothing else goes wrong, save that one of its elements
has a numeral with too many digits, or that its bytes were to be read in blocks of a size that there is not. -/
theorem parse_faults (types : r.setup.types = .builtin) (given : feed.Given)
    (failed : parse .root feed r = (.error e, after)) :
    e.isDeclared = true ∨
    (e = .numeralTooLong ∧ ∃ name as, .start name as ∈ feed.events ∧
      ∃ value ∈ as.numerals r.setup.config.hintAttribute, Attributes.Overlong value) ∨
    ∃ bytes size, feed = .ofDocument bytes size ∧ e = .badBlockSize size ∧ Feed.isBlockSize size = false := by
  cases given with
  | events es own =>
    rcases blames_of_parse types own failed with (declared | long) | ended
    · exact .inl declared
    · exact .inr (.inl long)
    · contradiction
  | document bytes size =>
    by_cases fits : Feed.isBlockSize size = true
    · have proper := Feed.proper_ofDocument bytes fits
      rcases blames_of_parse types proper.events failed with (declared | long) | ended
      · exact .inl declared
      · exact .inr (.inl long)
      · exact .inl (proper.ending e ended)
    · have nothing : Feed.ofDocument bytes size = ⟨[], [], some (.badBlockSize size)⟩ := by
        simp [Feed.ofDocument, fits]
      rw [nothing] at failed
      rcases blames_of_parse types (by simp) failed with (declared | ⟨_, _, _, absurd, _⟩) | ended
      · exact .inl declared
      · simp at absurd
      · exact .inr (.inr ⟨bytes, size, rfl, (Option.some.inj ended).symm, by simpa using fits⟩)

/-- A rectangle with some rounding. -/
def rounded (rounding : String) : Feed :=
  .ofEvents (document [] "pgml" [] (.element "rectangle" [("rounding", rounding)] .empty .empty) [])

theorem rounded_given (rounding : String) : (rounded rounding).Given :=
  .events _ (by simp [document, Content.events])

theorem parse_faults_of_rounded :
    let r : Reader := ⟨.plain, ⟨[], false, Desk.fresh .builtin⟩⟩
    let e : Fault := .malformed (.notInteger "rounding" "2.5")
    (parse .root (rounded "2.5") r).1 = .error e ∧
    (e.isDeclared = true ∨
      (e = .numeralTooLong ∧ ∃ name as, .start name as ∈ (rounded "2.5").events ∧
        ∃ value ∈ as.numerals r.setup.config.hintAttribute, Attributes.Overlong value) ∨
      ∃ bytes size, rounded "2.5" = .ofDocument bytes size ∧ e = .badBlockSize size ∧
        Feed.isBlockSize size = false) := by
  intro r e
  have failed : (parse .root (rounded "2.5") r).1 = .error e := by rfl
  exact ⟨failed, parse_faults rfl (rounded_given "2.5") (Prod.ext failed rfl)⟩

end Reader

/-! ## Numerals with too many digits -/

section

variable {value : String}

theorem Attributes.toInt_overlong (overlong : Overlong value) (key : String) :
    toInt value key = .error .numeralTooLong := by
  rcases toInt_cases value key with ⟨_, _, _, short⟩ | ⟨_, wrong⟩ | ⟨long, _⟩
  · exact absurd overlong short
  · simp [Overlong, wrong] at overlong
  · exact long

theorem Attributes.overlong_ne_empty (overlong : Overlong value) : value ≠ "" := by
  rintro rfl
  exact absurd overlong (by decide)

/-- A number with too many digits cannot be read, wherever it stands. -/
theorem Attributes.int_overlong {as : Attributes} {key : String} (overlong : Overlong value)
    (present : as.value? key = some value) (default : Int) :
    as.int key default = .error .numeralTooLong := by
  simp [int, int?, present, toInt_overlong overlong, Except.map]

/-- The numeral of some ones. -/
def ones (n : Nat) : String := String.ofList (List.replicate n '1')

theorem overlong_ones {n : Nat} (many : Number.maxDecimalDigits < n) : Attributes.Overlong (ones n) := by
  obtain ⟨n, rfl⟩ : ∃ m, n = m + 1 := ⟨n - 1, by omega⟩
  have unsigned : Number.splitSign (List.replicate (n + 1) '1') = (false, List.replicate (n + 1) '1') := rfl
  constructor
  · simp [ones, Attributes.isInteger, unsigned]
  · simpa [ones, unsigned] using many

theorem dispatch_overlong (overlong : Attributes.Overlong value) (c : Container) (d : Desk) :
    dispatch .plain c "rectangle" [("rounding", value)] d = (.error .numeralTooLong, d) := by
  have present : Attributes.value? [("rounding", value)] "rounding" = some value := by
    simp [Attributes.value?, Attributes.raw?, Attributes.overlong_ne_empty overlong]
  have absent : Attributes.value? [("rounding", value)] Setup.plain.config.hintAttribute = none := by
    simp [Attributes.value?, Attributes.raw?, Setup.plain, Configuration.initial]
  have rounding := Attributes.int_overlong overlong present (-1)
  simp only [dispatch, absent]
  refine Work.bind_error (Work.bind_error ?_)
  rw [rounding]
  rfl

end

namespace Reader

/-- A numeral with too many digits stops the reading of a document with a fault that is not declared. -/
theorem parse_overlong {value : String} (overlong : Attributes.Overlong value) :
    (parse .root (rounded value) ⟨.plain, ⟨[], false, Desk.fresh .builtin⟩⟩).1 = .error .numeralTooLong := by
  let b := Handler.behaviour .plain
  let m : Machine Handler Desk := ⟨[], false, Desk.fresh .builtin⟩
  obtain ⟨t, opened, frames⟩ : ∃ t,
      b.dispatch (.start "pgml" []) (m.opened .root (rounded value)) = (.ok (), t) ∧
      t.frames = [⟨some "pgml", .diagram⟩, ⟨none, .root⟩] := ⟨_, rfl, rfl⟩
  have stopped : b.dispatch (.start "rectangle" [("rounding", value)]) t = (.error .numeralTooLong, t) := by
    rw [Behaviour.dispatch_start frames]
    refine Work.bind_error ?_
    change onWork (Vocabulary.dispatch .plain .diagram "rectangle" [("rounding", value)]) t = _
    rw [onWork_apply, dispatch_overlong overlong]
  have read : b.dispatchAll (rounded value).events (m.opened .root (rounded value)) =
      (.error .numeralTooLong, t) := (Work.bind_ok opened).trans (Work.bind_error stopped)
  change (b.parse .root (rounded value) m).1 = _
  rw [Behaviour.parse_idle rfl, Work.bind_error read]
  rfl

/-- Not all faults are declared: there is a document with one digit more than numerals may have. -/
theorem parse_undeclared :
    let r : Reader := ⟨.plain, ⟨[], false, Desk.fresh .builtin⟩⟩
    (rounded (ones 4301)).Given ∧
    ∃ e after, parse .root (rounded (ones 4301)) r = (.error e, after) ∧ e.isDeclared = false := by
  intro r
  have failed : (parse .root (rounded (ones 4301)) r).1 = .error .numeralTooLong :=
    parse_overlong (overlong_ones (by decide))
  rcases ran : parse .root (rounded (ones 4301)) r with ⟨result, after⟩
  obtain rfl : result = .error .numeralTooLong := by simpa only [ran] using failed
  exact ⟨rounded_given _, .numeralTooLong, after, rfl, rfl⟩

end Reader

end Pgml
